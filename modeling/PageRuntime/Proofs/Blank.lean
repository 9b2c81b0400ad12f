import PageRuntime.Proofs.Closed

/-! Blank containers. A location that is missing is given a container made for it alone. Writing on
into such a container always succeeds and touches nothing else. -/
namespace PageRuntime
namespace Runtime

/-- Nothing has changed but `made` itself, that objects were made, and the journal. -/
def GrewBut (made : Value) (r after : Runtime) : Prop :=
  after.frame = r.frame ∧ ∀ shelf a, a < r.store.sizeOf shelf →
    a < after.store.sizeOf shelf ∧
      (made.spot? ≠ some (shelf,a) → after.store.object shelf a = r.store.object shelf a)

/-- The value has no place among the objects of the runtime. -/
def Lacks (r : Runtime) (v : Value) : Prop :=
  ∀ shelf a, v.spot? = some (shelf,a) → r.store.sizeOf shelf ≤ a

theorem Lacks.earlier {r mid : Runtime} {z : Value} (lacks : mid.Lacks z)
    (kept : ∀ shelf a, a < r.store.sizeOf shelf → a < mid.store.sizeOf shelf) : r.Lacks z :=
  fun shelf a here => Nat.not_lt.mp fun inside =>
    absurd (kept shelf a inside) (Nat.not_lt.mpr (lacks shelf a here))

theorem Grew.but {made : Value} {r after : Runtime} (grew : r.Grew after) : r.GrewBut made after :=
  ⟨grew.frame,fun shelf a inside =>
    ⟨(grew.store shelf a inside).1,fun _ => (grew.store shelf a inside).2⟩⟩

theorem GrewBut.rootValue? {made : Value} {r after : Runtime} (but : r.GrewBut made after)
    (name : String) : after.rootValue? name = r.rootValue? name := by
  have roots : after.roots = r.roots := show after.frame.roots = r.frame.roots by rw [but.1]
  rw [Runtime.rootValue?,roots]
  rfl

theorem GrewBut.alive {made : Value} {r after : Runtime} (but : r.GrewBut made after) :
    after.alive = r.alive := show after.frame.alive = r.frame.alive by rw [but.1]

theorem GrewBut.of_puts {made : Value} {r : Runtime} {s : Store} {shelf : Shelf} {a : Address}
    {o : Object} (puts : r.store.Puts s shelf a o) (here : made.spot? = some (shelf,a)) :
    r.GrewBut made { r with store := s } := by
  refine ⟨rfl,fun other b inside => ⟨by rwa [puts.sizes],fun differ => puts.others other b ?_⟩⟩
  refine Classical.not_and_iff_not_or_not.mp fun same => differ ?_
  rw [here,same.1,same.2]

/-- What is only done to objects that came later is growth. -/
theorem Grew.trans_but {made : Value} {base r after : Runtime} (grew : base.Grew r)
    (but : r.GrewBut made after) (lacks : base.Lacks made) : base.Grew after where
  store shelf a inside := by
    obtain ⟨between,same⟩ := grew.store shelf a inside
    obtain ⟨still,others⟩ := but.2 shelf a between
    refine ⟨still,(others fun here => ?_).trans same⟩
    exact absurd inside (Nat.not_lt.mpr (lacks shelf a here))
  frame := but.1.trans grew.frame

/-- A container without contents that `key` can be written into. -/
def Blank (r : Runtime) (key : Segment) (made : Value) : Prop :=
  match key with
  | .index _ => ∃ a, made = .list a ∧ a < r.store.lists.size ∧ r.store.listAt a = []
  | .field _ => ∃ a, made = .dict a ∧ a < r.store.dicts.size ∧ r.store.dictAt a = []

theorem Blank.inside {r : Runtime} {key : Segment} {made : Value} (blank : r.Blank key made) :
    ∃ shelf a, made.spot? = some (shelf,a) ∧ a < r.store.sizeOf shelf := by
  cases key with
  | index place =>
    obtain ⟨a,rfl,inside,-⟩ := blank
    exact ⟨_,a,rfl,inside⟩
  | field name =>
    obtain ⟨a,rfl,inside,-⟩ := blank
    exact ⟨_,a,rfl,inside⟩

/-- A container stays blank while another object changes. -/
theorem Blank.but {r after : Runtime} {key : Segment} {made other : Value}
    (blank : r.Blank key made) (but : r.GrewBut other after) (differ : other.spot? ≠ made.spot?) :
    after.Blank key made := by
  cases key with
  | index place =>
    obtain ⟨a,rfl,inside,empty⟩ := blank
    obtain ⟨still,same⟩ := but.2 .list a inside
    exact ⟨a,rfl,still,(Object.items.inj (same differ)).trans empty⟩
  | field name =>
    obtain ⟨a,rfl,inside,empty⟩ := blank
    obtain ⟨still,same⟩ := but.2 .dict a inside
    exact ⟨a,rfl,still,(Object.entries.inj (same differ)).trans empty⟩

theorem Blank.grew {r after : Runtime} {key : Segment} {made : Value} (blank : r.Blank key made)
    (grew : r.Grew after) : after.Blank key made := by
  obtain ⟨shelf,a,here,-⟩ := blank.inside
  exact blank.but (grew.but : r.GrewBut .null after) (by rw [here]; exact nofun)

theorem Blank.member {r : Runtime} {key : Segment} {made : Value} (blank : r.Blank key made)
    (other : Segment) : r.store.member (.value made) other = .null := by
  cases key with
  | index place =>
    obtain ⟨a,rfl,-,empty⟩ := blank
    show itemAt (r.store.listAt a) other = .null
    rw [empty]
    cases other <;> simp [itemAt,Value.ofOption]
  | field name =>
    obtain ⟨a,rfl,-,empty⟩ := blank
    show (r.store.dictAt a).get _ = .null
    rw [empty]
    rfl

theorem Blank.plain {r : Runtime} {key : Segment} {made : Value} (blank : r.Blank key made) :
    made ≠ .null ∧ (∀ a, made ≠ .ref a) ∧ Reference.isFixed (.value made) = false := by
  cases key with
  | index place =>
    obtain ⟨a,rfl,-,-⟩ := blank
    exact ⟨nofun,nofun,rfl⟩
  | field name =>
    obtain ⟨a,rfl,-,-⟩ := blank
    exact ⟨nofun,nofun,rfl⟩

end Runtime

theorem Spot.follow_plain (resolve : Address → Except Fault Spot) {v : Value}
    (plain : ∀ a, v ≠ .ref a) : (Spot.value v).follow resolve = .ok (.value v) :=
  Spot.follow_direct resolve fun a same => plain a (Spot.value.inj same)

namespace Reference

theorem emptyFor_run (key : Segment) (r : Runtime) : ∃ made s,
    emptyFor key r = (.done made,{ r with store := s }) ∧
      r.Grew { r with store := s } ∧ ({ r with store := s } : Runtime).Blank key made ∧
      r.Lacks made ∧ made.Present s ∧
      (r.Closed → ({ r with store := s } : Runtime).Closed) := by
  cases key with
  | index place =>
    have adds := r.store.newList_adds []
    have last : r.store.lists.size < (r.store.newList []).2.lists.size := by
      have size : (r.store.newList []).2.lists.size = r.store.lists.size + 1 := adds.size
      omega
    refine ⟨_,_,rfl,⟨.of_adds adds,rfl⟩,⟨_,rfl,last,Object.items.inj adds.object⟩,?_,
      .list ⟨rfl,last⟩,fun closed => closed.newList .nil⟩
    rintro shelf a ⟨⟩
    exact Nat.le_refl _
  | field name =>
    have adds := r.store.newDict_adds []
    have last : r.store.dicts.size < (r.store.newDict []).2.dicts.size := by
      have size : (r.store.newDict []).2.dicts.size = r.store.dicts.size + 1 := adds.size
      omega
    refine ⟨_,_,rfl,⟨.of_adds adds,rfl⟩,⟨_,rfl,last,Object.entries.inj adds.object⟩,?_,
      .dict ⟨rfl,last⟩,fun closed => closed.newDict .nil⟩
    rintro shelf a ⟨⟩
    exact Nat.le_refl _

theorem settle_run {spot settled : Spot} {r : Runtime}
    (followed : spot.follow r.resolve = .ok settled) : settle spot r = (.done settled,r) := by
  unfold settle
  rw [Step.bind_run,Step.read_run]
  dsimp only
  rw [followed]
  rfl

theorem step_run {spot settled : Spot} {r : Runtime}
    (followed : spot.follow r.resolve = .ok settled) (key : Segment) :
    step spot key r = (.done (r.store.member settled key),r) := by
  unfold step Spot.step
  rw [Step.bind_run,Step.read_run]
  dsimp only
  rw [followed]
  rfl

/-- The items that fill a list up to a place. -/
theorem extended_alike {link : Link} {items others : List Value}
    (alike : Values.Alike link items others) (place : Nat) {v w : Value} (same : v.Alike link w) :
    Values.Alike link (extended items place v) (extended others place w) := by
  unfold extended
  rw [alike.length_eq]
  refine List.rel_append (List.rel_append alike ?_) (.cons same .nil)
  induction place - others.length with
  | zero => exact .nil
  | succ n ih => exact .cons .null ih

theorem insert_alike {link : Link} (paired : link.Paired) {d other : Dict}
    (alike : d.Alike link other) {key otherKey : Key} (sameKey : key.Alike link otherKey)
    {label otherLabel value otherValue : Value} (sameLabel : label.Alike link otherLabel)
    (sameValue : value.Alike link otherValue) :
    Dict.Alike link (d.insert key label value) (other.insert otherKey otherLabel otherValue) := by
  induction alike with
  | nil => exact .cons ⟨sameKey,sameLabel,sameValue⟩ .nil
  | @cons slot otherSlot rest others one others ih =>
    have same := one.key.eq_iff paired sameKey
    unfold Dict.insert
    by_cases here : slot.key = key
    · rw [if_pos here,if_pos (same.mp here)]
      exact .cons ⟨one.key,one.label,sameValue⟩ others
    · rw [if_neg here,if_neg (mt same.mpr here)]
      exact .cons one ih

variable (write : Address → Value → Act Unit)

theorem put_plain {container : Spot} (plain : ∀ a, container ≠ .value (.ref a)) (key : Segment)
    (v : Value) : put write container key v = putInto write container key v := by
  unfold put
  split
  · exact absurd rfl (plain _)
  · rfl

section

variable {container settled : Spot} {r : Runtime}
  (followed : container.follow r.resolve = .ok settled) {key : Segment}
include followed

theorem descend_found (found : r.store.member settled key ≠ .null) (next : Segment)
    (rest : List Segment) (v : Value) : descend write container key (next :: rest) v r =
      descend write (.value (r.store.member settled key)) next rest v r := by
  rw [descend,Step.bind_done (step_run followed key),if_neg found]

theorem descend_fixed (missing : r.store.member settled key = .null)
    (fixed : isFixed settled = true) (next : Segment) (rest : List Segment) (v : Value) :
    descend write container key (next :: rest) v r = (.done (),r) := by
  rw [descend,Step.bind_done (step_run followed key),if_pos missing,
    Step.bind_done (settle_run followed),if_pos fixed]
  rfl

theorem descend_missing (missing : r.store.member settled key = .null)
    (free : isFixed settled = false) (next : Segment) (rest : List Segment) (v : Value) :
    descend write container key (next :: rest) v r = (do
      let made ← emptyFor next
      put write container key made
      descend write (.value made) next rest v) r := by
  rw [descend,Step.bind_done (step_run followed key),if_pos missing,
    Step.bind_done (settle_run followed),if_neg (by rw [free]; exact nofun)]

end

/-- One entry written into a blank container is all that changes. -/
theorem put_blank {r : Runtime} {key : Segment} {made : Value} (blank : r.Blank key made) (v : Value) :
    ∃ s, put write (.value made) key v r = (.done (),{ r with store := s }) ∧
      r.GrewBut made { r with store := s } ∧ (∀ shelf, s.sizeOf shelf = r.store.sizeOf shelf) ∧
      (r.Closed → v.Present r.store → ({ r with store := s } : Runtime).Closed) := by
  cases key with
  | index place =>
    obtain ⟨a,rfl,inside,empty⟩ := blank
    have absent : placeOf? 0 place = none := by
      unfold placeOf?
      split <;> simp
    have run : put write (.value (.list a)) (.index place) v r =
        (if place < 0 then return () else Act.update (·.putList a (extended [] place.toNat v))) r := by
      show putItem write (r.store.listAt a) (fun items => Act.update (·.putList a items))
        (.index place) v r = _
      rw [empty]
      simp only [putItem,List.length_nil,absent]
    rw [run]
    split
    · exact ⟨r.store,rfl,(Runtime.Grew.refl r).but,fun _ => rfl,fun closed _ => closed⟩
    · have puts := r.store.putList_puts a (extended [] place.toNat v)
      refine ⟨_,rfl,.of_puts puts rfl,puts.sizes,fun closed present => ?_⟩
      refine closed.puts puts inside nofun (.items ?_)
      rw [← puts.identity]
      exact extended_alike .nil _ present
  | field name =>
    obtain ⟨a,rfl,inside,empty⟩ := blank
    have puts := r.store.putDict_puts a (Dict.insert [] (.text name) (.str name) v)
    refine ⟨_,?_,.of_puts puts rfl,puts.sizes,fun closed present => ?_⟩
    · show putEntry write a (.field name) v r = _
      simp only [putEntry,Step.bind_run,Act.store_run,empty]
      rfl
    · refine closed.puts puts inside nofun (.entries ?_)
      rw [← puts.identity]
      exact .cons ⟨Key.text_alike _ _,.str name,present⟩ .nil

/-- Walking on from a blank container never meets anything, so it makes what is missing and writes
there. -/
theorem descend_blank {r : Runtime} {key : Segment} {made : Value} (blank : r.Blank key made)
    (rest : List Segment) (v : Value) : ∃ after,
    descend write (.value made) key rest v r = (.done (),after) ∧ r.GrewBut made after ∧
      (r.Closed → v.Present r.store → after.Closed) := by
  induction rest generalizing r key made with
  | nil =>
    obtain ⟨s,run,but,-,closed⟩ := put_blank write blank v
    exact ⟨_,run,but,closed⟩
  | cons next rest ih =>
    have followed := Spot.follow_plain r.resolve blank.plain.2.1
    obtain ⟨inner,s,makes,grew,innerBlank,lacks,present,closes⟩ := emptyFor_run next r
    obtain ⟨t,puts,but,sizes,keeps⟩ := put_blank write (blank.grew grew) inner
    obtain ⟨shelf,a,here,inside⟩ := blank.inside
    have differ : made.spot? ≠ inner.spot? := by
      intro same
      exact absurd inside (Nat.not_lt.mpr (lacks shelf a (same.symm.trans here)))
    obtain ⟨after,run,innerBut,closed⟩ := ih (innerBlank.but but differ)
    refine ⟨after,?_,?_,?_⟩
    · rw [descend_missing write followed (blank.member key) blank.plain.2.2,Step.bind_done makes,
        Step.bind_done puts]
      exact run
    · refine ⟨innerBut.1.trans (but.1.trans grew.frame),fun shelf a inside => ?_⟩
      obtain ⟨first,same⟩ := grew.store shelf a inside
      obtain ⟨second,others⟩ := but.2 shelf a first
      obtain ⟨third,innerOthers⟩ := innerBut.2 shelf a second
      refine ⟨third,fun apart => (innerOthers fun same => ?_).trans ((others apart).trans same)⟩
      exact absurd inside (Nat.not_lt.mpr (lacks shelf a same))
    · intro rClosed vPresent
      have wide := vPresent.grew grew.store
      refine closed (keeps (closes rClosed) present) ?_
      have same : s.identity = t.identity := by
        funext shelf a b
        unfold Store.identity
        rw [sizes]
      show v.Alike t.identity v
      rw [← same]
      exact wide

end Reference
end PageRuntime
