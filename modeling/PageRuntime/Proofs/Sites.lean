import PageRuntime.Proofs.Holders

/-! Sites. A site is a location that can be written, in a data root that nothing leads out of and in which
nothing that can change is held twice. However often it is written, and whatever else is made in between,
it reads as what was written last, and all that lies beside it is as it was. -/
namespace PageRuntime

/-- A write along the accessors lands in the container, which takes the accessor that is written there. -/
def Store.Lands (s : Store) (x : Value) (keys : List Segment) (c : Value) : Prop :=
  ∃ key rest last left, keys = key :: rest ∧ s.landing (.value x) key rest = ⟨.value c,last,left⟩ ∧
    c.Takes last

theorem Store.lies_append (s : Store) (spot : Spot) (keys more : List Segment) :
    s.lies spot (keys ++ more) = s.lies (s.lies spot keys) more := List.foldl_append

theorem Store.lies_null (s : Store) (keys : List Segment) :
    s.lies (.value .null) keys = .value .null := by
  induction keys with
  | nil => rfl
  | cons key rest ih => exact ih

theorem Value.spot_of_isMutable {v : Value} (mutable : v.isMutable = true) :
    ∃ shelf a, v.spot? = some (shelf,a) := by
  cases v <;> first | exact ⟨_,_,rfl⟩ | cases mutable

/-- The path spells the accessors below the data root. -/
structure Path.Spells (path : Path) (name : String) (keys : List Segment) : Prop where
  kind : path.root.kind.dataRoot? = some name
  near : path.root.caret ≤ 1
  segments : path.segments = keys

namespace Runtime

/-- The accessors name a location that can be written below the data root `name`, which holds `x`. -/
structure Site (r : Runtime) (name : String) (x : Value) (keys : List Segment) : Prop where
  closed : r.Closed
  alive : r.alive = true
  held : r.rootValue? name = some x
  writable : r.isLocked name = false
  alone : r.store.SelfContained x
  apart : (r.store.layout [x]).Apart
  forward : ¬ Backward keys
  accepts : x = .null ∨ keys = [] ∨ ∃ c, r.store.Lands x keys c

/-- Where the location is by now: still where it was, at the root itself, or in a holder. -/
inductive Lies (r : Runtime) (name : String) (x : Value) (mid : Runtime) :
    List Segment → Value → Value → Prop
  | first {keys : List Segment} {v : Value} (root : mid.rootValue? name = some x)
      (intact : r.store.Intact mid.store x) (finds : r.store.Finds x keys v) :
      Lies r name x mid keys .null v
  | bare {v : Value} (root : mid.rootValue? name = some v) : Lies r name x mid [] .null v
  | lodged {key last : Segment} {rest : List Segment} {y z v : Value} (root : mid.rootValue? name = some y)
      (lodged : r.store.Lodged mid.store x y key rest z last v) : Lies r name x mid (key :: rest) z v

/-- What has become of the site: its location has the value, and of all else that was there
only the container has changed in which a write lands. -/
structure Sited (r : Runtime) (name : String) (x : Value) (keys : List Segment) (z v : Value)
    (mid : Runtime) : Prop where
  alive : mid.alive = true
  writable : mid.isLocked name = false
  roots : ∀ other, other ≠ name → mid.rootValue? other = r.rootValue? other
  kept : ∀ shelf a, a < r.store.sizeOf shelf → a < mid.store.sizeOf shelf ∧
    ((∀ c, r.store.Lands x keys c → c.spot? ≠ some (shelf,a)) →
      mid.store.object shelf a = r.store.object shelf a)
  plain : ∀ a, v ≠ .ref a
  holder : r.store.Lands x keys z ∨ r.Lacks z
  lies : r.Lies name x mid keys z v

/-- Objects have been made, and neither the roots nor the locks have changed. -/
structure Widens (r after : Runtime) : Prop where
  store : r.store.Grew after.store
  alive : after.alive = r.alive
  roots : after.roots = r.roots
  locks : after.lockedRoots = r.lockedRoots

theorem Grew.widens {r after : Runtime} (grew : r.Grew after) : r.Widens after where
  store := grew.store
  alive := grew.alive
  roots := grew.roots
  locks := grew.lockedRoots

theorem GrewBut.locks {made : Value} {r after : Runtime} (but : r.GrewBut made after) :
    after.lockedRoots = r.lockedRoots := show after.frame.lockedRoots = r.frame.lockedRoots by rw [but.1]

theorem GrewBut.registry {made : Value} {r after : Runtime} (but : r.GrewBut made after) :
    after.registry = r.registry := show after.frame.registry = r.frame.registry by rw [but.1]

section

variable {r mid after : Runtime} {name : String} {x z v : Value} {keys : List Segment}

theorem Site.present (site : r.Site name x keys) {u : Value} (within : r.store.Within x u) :
    u.Inside r.store := (within.present site.closed (site.closed.rootHeld site.held)).inside

theorem Widens.rootValue? (widens : mid.Widens after) (other : String) :
    after.rootValue? other = mid.rootValue? other := by
  rw [Runtime.rootValue?,widens.roots]
  rfl

theorem Widens.isLocked (widens : mid.Widens after) (other : String) :
    after.isLocked other = mid.isLocked other := by
  rw [Runtime.isLocked,widens.locks]
  rfl

theorem Site.landed (site : r.Site name x keys) (lands : r.store.Lands x keys z) :
    z.Inside r.store ∧ z.isMutable = true := by
  obtain ⟨key,rest,last,left,rfl,lands,takes⟩ := lands
  exact ⟨site.present (Store.landing_within site.alone lands takes.something),takes.mutable⟩

theorem Site.finds_plain (site : r.Site name x keys) (finds : r.store.Finds x keys v) :
    (v = .null ∨ r.store.Within x v) ∧ ∀ a, v ≠ .ref a := by
  obtain ⟨u,again,within⟩ := site.alone.finds keys
  obtain rfl : u = v := Spot.value.inj (again.2.symm.trans finds.2)
  refine ⟨within,fun a => ?_⟩
  obtain rfl | within := within
  · exact Value.noConfusion
  · exact (site.alone u within).1 a

/-- The container in which a write lands does not lie within what is at the location. -/
theorem Site.outside (site : r.Site name x keys) (lands : r.store.Lands x keys z)
    (finds : r.store.Finds x keys v) : ¬ r.store.Within v z := by
  intro inner
  obtain ⟨key,rest,last,left,rfl,lands,takes⟩ := lands
  have within := Store.landing_within site.alone lands takes.something
  obtain ⟨before,ends,split⟩ := r.store.landing_lies (.value x) key rest
  have missing : (r.store.landing (.value x) key rest).left ≠ [] → _ := Store.landing_missing
  rw [lands] at ends split missing
  have found := finds.2
  dsimp only at ends split missing
  rw [split,Store.lies_append,← ends] at found
  have found : r.store.lies (.value (r.store.member (.value z) last)) left = .value v := found
  have empty : v ≠ .null := by
    rintro rfl
    exact takes.something (Store.within_null inner)
  cases left with
  | nil =>
    obtain rfl := Spot.value.inj found
    have held := (Store.member_held takes.unbound last).resolve_left empty
    exact Store.not_within_member site.apart within held takes.mutable inner
  | cons next more =>
    rw [missing (List.cons_ne_nil next more),Store.lies_null] at found
    exact empty (Spot.value.inj found).symm

/-- At first the site is as it is. -/
theorem Site.sited (site : r.Site name x keys) (finds : r.store.Finds x keys v) :
    r.Sited name x keys .null v r where
  alive := site.alive
  writable := site.writable
  roots _ _ := rfl
  kept _ _ inside := ⟨inside,fun _ => rfl⟩
  plain := (site.finds_plain finds).2
  holder := .inr fun _ _ here => by cases here
  lies := .first site.held (fun _ _ _ _ _ => rfl) finds

theorem Sited.holder_mutable (sited : r.Sited name x keys z v mid) : z = .null ∨ z.isMutable = true := by
  cases sited.lies with
  | first => exact .inl rfl
  | bare => exact .inl rfl
  | lodged _ lodged => exact .inr lodged.takes.mutable

theorem Sited.holder_inside (sited : r.Sited name x keys z v mid) : z.Inside mid.store := by
  cases sited.lies with
  | first => exact fun _ _ here => by cases here
  | bare => exact fun _ _ here => by cases here
  | lodged _ lodged => exact lodged.inside

namespace Sited

variable (site : r.Site name x keys) (sited : r.Sited name x keys z v mid)
include site sited

theorem widens (widens : mid.Widens after) : r.Sited name x keys z v after where
  alive := widens.alive.trans sited.alive
  writable := (widens.isLocked name).trans sited.writable
  roots other differ := (widens.rootValue? other).trans (sited.roots other differ)
  kept shelf a inside := by
    obtain ⟨still,same⟩ := sited.kept shelf a inside
    obtain ⟨there,sameAgain⟩ := widens.store shelf a still
    exact ⟨there,fun elsewhere => sameAgain.trans (same elsewhere)⟩
  plain := sited.plain
  holder := sited.holder
  lies := by
    cases sited.lies with
    | first root intact finds =>
      refine .first ((widens.rootValue? name).trans root) (fun u within shelf a here => ?_) finds
      have still := (sited.kept shelf a (site.present within shelf a here)).1
      exact (widens.store shelf a still).2.trans (intact u within shelf a here)
    | bare root => exact .bare ((widens.rootValue? name).trans root)
    | lodged root lodged => exact .lodged ((widens.rootValue? name).trans root) (lodged.grew widens.store)

/-- What was at the location at first is as it was, wherever it is now. -/
theorem intact {u : Value} (finds : r.store.Finds x keys u) : r.store.Intact mid.store u := by
  intro w inner shelf a here
  obtain rfl | within := (site.finds_plain finds).1
  · obtain rfl := Store.within_null inner
    cases here
  · refine (sited.kept shelf a (site.present (within.trans inner) shelf a here)).2 fun c lands there => ?_
    obtain rfl := Value.spot_inj there here
    exact site.outside lands finds inner

/-- Another data root that nothing leads out of reads as it did at first, unless it holds the container. -/
theorem elsewhere {path : Path} {other : String} {y : Value} (differ : other ≠ name)
    (held : r.rootValue? other = some y) (alone : r.store.SelfContained y)
    (apart : ∀ c, r.store.Lands x keys c → ¬ r.store.Within y c)
    (kind : path.root.kind.dataRoot? = some other) (scope : Address) : r.ReadsOn mid scope path := by
  by_cases near : path.root.caret ≤ 1
  · have intact : r.store.Intact mid.store y := by
      intro u within shelf a here
      have inside := (within.present site.closed (site.closed.rootHeld held)).inside
      refine (sited.kept shelf a (inside shelf a here)).2 fun c lands there => ?_
      obtain rfl := Value.spot_inj there here
      exact apart c lands within
    obtain ⟨u,before,now,still⟩ := intact.finds alone path.segments
    have reads : r.readPath scope path = .ok (.value u) := by
      rw [readPath_data site.alive held kind near]
      exact before.read r.resolve
    refine ⟨?_,fun w same => ?_⟩
    · rw [reads,readPath_data sited.alive ((sited.roots other differ).trans held) kind near]
      exact now.read mid.resolve
    · cases reads.symm.trans same
      exact still
  · exact .far (Nat.lt_of_not_le near) scope

variable {path : Path}

/-- A path that parts from the location reads as it did at first. -/
theorem beside (kind : path.root.kind.dataRoot? = some name) (forward : ¬ Backward path.segments)
    (parts : Parts keys path.segments) (scope : Address) : r.ReadsOn mid scope path := by
  by_cases near : path.root.caret ≤ 1
  · obtain ⟨y,root,u,before,now,intact⟩ : ∃ y, mid.rootValue? name = some y ∧
        ∃ u, r.store.Finds x path.segments u ∧ mid.store.Finds y path.segments u ∧
          r.store.Intact mid.store u := by
      cases sited.lies with
      | first root intact finds => exact ⟨x,root,intact.finds site.alone path.segments⟩
      | bare root => exact absurd List.nil_prefix parts.1
      | lodged root lodged =>
        exact ⟨_,root,(lodged.sets sited.plain).elsewhere path.segments forward parts⟩
    have reads : r.readPath scope path = .ok (.value u) := by
      rw [readPath_data site.alive site.held kind near]
      exact before.read r.resolve
    refine ⟨?_,fun w same => ?_⟩
    · rw [reads,readPath_data sited.alive root kind near]
      exact now.read mid.resolve
    · cases reads.symm.trans same
      exact intact
  · exact .far (Nat.lt_of_not_le near) scope

theorem reads (spells : path.Spells name keys) (scope : Address) :
    mid.readPath scope path = .ok (.value v) := by
  obtain ⟨y,root,finds⟩ : ∃ y, mid.rootValue? name = some y ∧ mid.store.Finds y keys v := by
    cases sited.lies with
    | first root intact finds =>
      obtain ⟨u,first,now,-⟩ := intact.finds site.alone keys
      obtain rfl : u = v := Spot.value.inj (first.2.symm.trans finds.2)
      exact ⟨x,root,now⟩
    | bare root => exact ⟨v,root,.nil sited.plain⟩
    | lodged root lodged => exact ⟨_,root,(lodged.sets sited.plain).here⟩
  rw [readPath_data sited.alive root spells.kind spells.near,spells.segments]
  exact finds.read mid.resolve

end Sited

/-- Of what was there, only the container in which a write lands, or the holder, has changed. -/
def Spared (r : Runtime) (x : Value) (keys : List Segment) (z : Value) (mid after : Runtime) : Prop :=
  ∀ shelf a, a < mid.store.sizeOf shelf →
    a < after.store.sizeOf shelf ∧
      ((∀ c, r.store.Lands x keys c → c.spot? ≠ some (shelf,a)) → z.spot? ≠ some (shelf,a) →
        after.store.object shelf a = mid.store.object shelf a)

/-- Which container is the holder after a write: that of before, that in which a write lands, or a new
one. -/
def Rehoused (r : Runtime) (x : Value) (keys : List Segment) (z holder : Value) (mid : Runtime) : Prop :=
  holder = z ∨ r.store.Lands x keys holder ∨ mid.Lacks holder

theorem Spared.of_but {c : Value} (but : mid.GrewBut c after)
    (which : r.Rehoused x keys z c mid) : r.Spared x keys z mid after := by
  intro shelf a inside
  obtain ⟨there,same⟩ := but.2 shelf a inside
  refine ⟨there,fun elsewhere notHolder => same fun here => ?_⟩
  obtain rfl | lands | lacks := which
  · exact notHolder here
  · exact elsewhere c lands here
  · exact absurd inside (Nat.not_lt.mpr (lacks shelf a here))

theorem Sited.onwards (sited : r.Sited name x keys z v mid) (spared : r.Spared x keys z mid after)
    (alive : after.alive = mid.alive) (locks : after.lockedRoots = mid.lockedRoots)
    (roots : ∀ other, other ≠ name → after.rootValue? other = mid.rootValue? other) {w holder : Value}
    (plain : ∀ a, w ≠ .ref a)
    (which : r.Rehoused x keys z holder mid)
    (lies : r.Lies name x after keys holder w) : r.Sited name x keys holder w after where
  alive := alive.trans sited.alive
  writable := by
    rw [← sited.writable,Runtime.isLocked,locks]
    rfl
  roots other differ := (roots other differ).trans (sited.roots other differ)
  kept shelf a inside := by
    obtain ⟨still,same⟩ := sited.kept shelf a inside
    obtain ⟨there,sameAgain⟩ := spared shelf a still
    refine ⟨there,fun elsewhere => (sameAgain elsewhere fun here => ?_).trans (same elsewhere)⟩
    obtain lands | lacks := sited.holder
    · exact elsewhere z lands here
    · exact absurd inside (Nat.not_lt.mpr (lacks shelf a here))
  plain := plain
  holder := by
    obtain rfl | lands | lacks := which
    · exact sited.holder
    · exact .inl lands
    · exact .inr (lacks.earlier fun shelf a inside => (sited.kept shelf a inside).1)
  lies := lies

/-- A write has put the value at the site, and nothing else but what it may change has changed. -/
structure Rewritten (r : Runtime) (name : String) (x : Value) (keys : List Segment) (z : Value)
    (mid : Runtime) (holder w : Value) (after : Runtime) : Prop where
  registry : after.registry = mid.registry
  spared : r.Spared x keys z mid after
  sited : r.Sited name x keys holder w after
  which : r.Rehoused x keys z holder mid

theorem Rewritten.of_but {c w holder : Value} (sited : r.Sited name x keys z v mid)
    (but : mid.GrewBut c after) (changed : r.Rehoused x keys z c mid)
    (which : r.Rehoused x keys z holder mid) (plain : ∀ a, w ≠ .ref a)
    (lies : r.Lies name x after keys holder w) : r.Rewritten name x keys z mid holder w after :=
  have spared := Spared.of_but but changed
  ⟨but.registry,spared,sited.onwards spared but.alive but.locks (fun other _ => but.rootValue? other) plain
    which lies,which⟩

end

end Runtime

namespace Reference
open PageRuntime.Runtime (Site Sited Spared)

variable (write : Address → Value → Act Unit) {r mid : Runtime} {name : String} {x z v : Value}
  {keys : List Segment} {path : Path}

theorem setRootPath_sited (sited : r.Sited name x [] z v mid)
    (kind : path.root.kind.dataRoot? = some name) {w : Value} (plain : ∀ a, w ≠ .ref a) :
    setRootPath write path w mid = (.done (),mid.setRoot name w) ∧
      r.Sited name x [] .null w (mid.setRoot name w) := by
  have root : mid.rootValue? name = some v := by
    cases sited.lies with
    | first root intact finds =>
      obtain rfl : x = v := Spot.value.inj finds.2
      exact root
    | bare root => exact root
  constructor
  · have settled := sited.plain
    rw [setRootPath,kind]
    dsimp only
    rw [Step.bind_done (Step.read_run mid),root]
    cases v <;> first | rfl | exact absurd rfl (settled _)
  · have nothing : r.Lacks .null := fun _ _ here => by cases here
    refine ⟨sited.alive,sited.writable,fun other differ => ?_,sited.kept,plain,.inr nothing,.bare ?_⟩
    · exact (Named.lookup_set_of_ne differ w mid.roots).trans (sited.roots other differ)
    · exact Named.lookup_set_self name w mid.roots

section

variable {key : Segment} {rest : List Segment} {w : Value} (site : r.Site name x (key :: rest))
  (sited : r.Sited name x (key :: rest) z v mid) (kind : path.root.kind.dataRoot? = some name)
  (near : path.root.caret ≤ 1) (plain : ∀ a, w ≠ .ref a) (scope : Address)
include sited kind near plain

/-- A write through the holder. -/
theorem setBelowRoot_again {y : Value} {last : Segment} (root : mid.rootValue? name = some y)
    (lodged : r.store.Lodged mid.store x y key rest z last v) : ∃ after,
    setBelowRoot write scope path key rest w mid = (.done (),after) ∧
      r.Rewritten name x (key :: rest) z mid z w after := by
  have started := root_run (Runtime.rootSpot_registered sited.alive root kind near scope)
  have found : Spot.value y ≠ .null := fun same => lodged.something sited.plain (Spot.value.inj same)
  obtain ⟨after,ran,-,but,fills⟩ := putInto_takes write lodged.takes lodged.counts lodged.inside
    (fun a => by rw [lodged.held]; exact sited.plain a) w
  refine ⟨after,?_,.of_but sited but (.inl rfl) (.inl rfl) plain
    (.lodged ((but.rootValue? name).trans root) (lodged.again fills))⟩
  rw [setBelowRoot,Step.bind_done started,if_neg found,
    descend_eq_land (lodged.sets sited.plain).here.1,lodged.lands sited.plain]
  exact ran

include site

/-- A write that finds no root and makes one. -/
theorem setBelowRoot_made (missing : x = .null) (root : mid.rootValue? name = some x) (bare : z = .null) :
    ∃ after holder, setBelowRoot write scope path key rest w mid = (.done (),after) ∧
      r.Rewritten name x (key :: rest) z mid holder w after := by
  subst missing bare
  have started := root_run (Runtime.rootSpot_registered sited.alive root kind near scope)
  obtain ⟨made,s,makes,grew,blank,lacks,-,-⟩ := emptyFor_run key mid
  generalize ({ mid with store := s } : Runtime) = base at makes grew blank
  have blank : (base.setRoot name made).Blank key made := blank
  obtain ⟨after,holder,last,ran,but,new,lodged⟩ :=
    descend_blank_lodged write (s := r.store) blank site.forward w
  have spared : r.Spared .null (key :: rest) .null mid after := by
    intro shelf a inside
    obtain ⟨between,same⟩ := grew.store shelf a inside
    obtain ⟨there,others⟩ := but.2 shelf a between
    refine ⟨there,fun _ _ => (others fun here => ?_).trans same⟩
    exact absurd inside (Nat.not_lt.mpr (lacks shelf a here))
  have newer : mid.Lacks holder := by
    obtain rfl | newer := new
    · exact lacks
    · exact newer.earlier fun shelf a inside => (grew.store shelf a inside).1
  refine ⟨after,holder,?_,but.registry.trans grew.registry,spared,?_,.inr (.inr newer)⟩
  · rw [setBelowRoot,Step.bind_done started,if_pos (show Spot.value .null = .null from rfl),kind]
    dsimp only
    rw [Step.bind_done makes]
    exact ran
  · refine sited.onwards spared (but.alive.trans grew.alive) (but.locks.trans grew.lockedRoots)
      (fun other differ => ?_) plain (.inr (.inr newer)) (.lodged ?_ lodged)
    · rw [but.rootValue?,← grew.rootValue? other]
      exact Named.lookup_set_of_ne differ made base.roots
    · rw [but.rootValue?]
      exact Named.lookup_set_self name made base.roots

/-- The first write below a root that is there. -/
theorem setBelowRoot_first (present : x ≠ .null) (root : mid.rootValue? name = some x)
    (intact : r.store.Intact mid.store x) : ∃ after holder,
    setBelowRoot write scope path key rest w mid = (.done (),after) ∧
      r.Rewritten name x (key :: rest) z mid holder w after := by
  have started := root_run (Runtime.rootSpot_registered sited.alive root kind near scope)
  have found : Spot.value x ≠ .null := fun same => present (Spot.value.inj same)
  obtain ⟨c,landed⟩ := (site.accepts.resolve_left present).resolve_left (List.cons_ne_nil key rest)
  obtain ⟨_,_,last,left,same,lands,takes⟩ := id landed
  cases same
  obtain ⟨-,after,holder,final,ran,but,new,lodged⟩ := descend_lodged write site.alone
    site.apart (fun _ => site.present) (fun shelf a inside => (sited.kept shelf a inside).1) intact
    site.forward lands takes w
  have which : r.Rehoused x (key :: rest) z holder mid := by
    obtain rfl | lacks := new
    · exact .inr (.inl landed)
    · exact .inr (.inr lacks)
  refine ⟨after,holder,?_,.of_but sited but (.inr (.inl landed)) which plain
    (.lodged ((but.rootValue? name).trans root) lodged)⟩
  rw [setBelowRoot,Step.bind_done started,if_neg found]
  exact ran

theorem setBelowRoot_sited : ∃ after holder,
    setBelowRoot write scope path key rest w mid = (.done (),after) ∧
      r.Rewritten name x (key :: rest) z mid holder w after := by
  cases sited.lies with
  | lodged root lodged =>
    obtain ⟨after,ran,rewritten⟩ := setBelowRoot_again write sited kind near plain scope root lodged
    exact ⟨after,z,ran,rewritten⟩
  | first root intact finds =>
    by_cases missing : x = .null
    · exact setBelowRoot_made write site sited kind near plain scope missing root rfl
    · exact setBelowRoot_first write site sited kind near plain scope missing root intact

end

/-- A write to the location. -/
theorem setPathValue_sited (site : r.Site name x keys) (sited : r.Sited name x keys z v mid)
    (spells : path.Spells name keys) {w : Value} (plain : ∀ a, w ≠ .ref a) (scope : Address) :
    ∃ after holder, setPathValue write scope path false w mid = (.done (),after) ∧
      r.Rewritten name x keys z mid holder w after := by
  have heeded : (false || path.root.kind.isComputed || path.root.kind.dataRoot?.any mid.isLocked) =
      false := by
    rw [isComputed_data spells.kind,spells.kind]
    exact sited.writable
  rw [setPathValue,Step.bind_done (isLocked_run sited.alive path false),heeded,
    if_neg Bool.false_ne_true,spells.segments]
  cases keys with
  | nil =>
    obtain ⟨ran,later⟩ := setRootPath_sited write sited spells.kind plain
    refine ⟨_,.null,ran,rfl,fun shelf a inside => ⟨inside,fun _ _ => rfl⟩,later,.inr (.inr ?_)⟩
    exact fun _ _ here => by cases here
  | cons key rest => exact setBelowRoot_sited write site sited spells.kind spells.near plain scope

end Reference
end PageRuntime
