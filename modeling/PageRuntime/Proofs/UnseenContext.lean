import PageRuntime.Proofs.Deletions
import PageRuntime.Proofs.Entries
import PageRuntime.Proofs.ReadFrames
import PageRuntime.Proofs.Relinking

/-! Where the context is not seen. What a path reads and writes depends on the chain of its scope only
through the roots that it comes to. Where none of them shows the context, and no name is looked up in the
bindings visible from a scope, relinking the scopes leaves all that is met as it is, and so do the changes
that a write makes. -/
namespace PageRuntime

/-- An empty object that is made looks as the place did before. -/
theorem Store.Adds.blank {s t : Store} {shelf : Shelf} {o : Object} (adds : s.Adds t shelf o)
    (blank : o = empty.object shelf (s.sizeOf shelf)) (other : Shelf) (a : Address) :
    t.object other a = s.object other a := by
  by_cases here : other = shelf ∧ a = s.sizeOf shelf
  · obtain ⟨rfl,rfl⟩ := here
    rw [adds.object,blank,s.object_outside (Nat.le_refl _)]
  · exact adds.others other a (Classical.not_and_iff_not_or_not.mp here)

namespace Runtime

/-- Reading at the root seen from the scope, with the accessors `keys`, may come to the spot with these
accessors left to take. Writing may come further: the items of a list get other places as it grows, and
what a data root holds is written through whatever the caret of the path. -/
inductive Comes (r : Runtime) (writing : Bool) (scope : Address) (root : Root) (keys : List Segment) :
    Visits
  | start {start : Spot} (rooted : r.rootSpot scope root = .ok start) :
      Comes r writing scope root keys start keys
  | member {spot : Spot} {key : Segment} {rest : List Segment}
      (met : Comes r writing scope root keys spot (key :: rest)) :
      Comes r writing scope root keys (.value (r.store.member spot key)) rest
  | path {a seen : Address} {path : Path} {locked : Bool} {below : Spot} {rest : List Segment}
      (met : Comes r writing scope root keys (.value (.ref a)) rest)
      (here : r.store.handleAt a = .path seen path locked)
      (rooted : r.rootSpot seen path.root = .ok below) :
      Comes r writing scope root keys below (path.segments ++ rest)
  | sub {a parent : Address} {key : Segment} {rest : List Segment}
      (met : Comes r writing scope root keys (.value (.ref a)) rest)
      (here : r.store.handleAt a = .sub parent key) :
      Comes r writing scope root keys (.value (.ref parent)) (key :: rest)
  | locked {a inner : Address} {rest : List Segment}
      (met : Comes r writing scope root keys (.value (.ref a)) rest)
      (here : r.store.handleAt a = .locked inner) :
      Comes r writing scope root keys (.value (.ref inner)) rest
  | cell {a : Address} {v : Value} {label : String} {rest : List Segment}
      (met : Comes r writing scope root keys (.value (.ref a)) rest)
      (here : r.store.handleAt a = .cell v label) : Comes r writing scope root keys (.value v) rest
  | item {a : Address} {place other : Int} {rest : List Segment} (writes : writing = true)
      (met : Comes r writing scope root keys (.value (.list a)) (.index place :: rest)) :
      Comes r writing scope root keys (.value (itemAt (r.store.listAt a) (.index other))) rest
  | root {a seen : Address} {path : Path} {locked : Bool} {name : String} {v : Value}
      {rest : List Segment} (writes : writing = true)
      (met : Comes r writing scope root keys (.value (.ref a)) rest)
      (here : r.store.handleAt a = .path seen path locked)
      (kind : path.root.kind.dataRoot? = some name) (held : r.rootValue? name = some v) :
      Comes r writing scope root keys (.value v) (path.segments ++ rest)

/-- Nothing is met that shows the context: no name is looked up in the bindings visible from a scope, and
no path starts from a root that does. -/
structure Secluded (r : Runtime) (met : Visits) : Prop where
  views : ∀ spot key rest scope, met spot (key :: rest) → ¬ Shows r.store spot scope
  roots : ∀ a rest scope path locked, met (.value (.ref a)) rest →
    r.store.handleAt a = .path scope path locked → path.root.isContextual = false

/-- Nothing shows the context on the way from the root, seen from the scope, with the accessors `keys`. -/
def Unseen (r : Runtime) (writing : Bool) (scope : Address) (root : Root) (keys : List Segment) : Prop :=
  r.Secluded (r.Comes writing scope root keys)

theorem Comes.follows (r : Runtime) (writing : Bool) (scope : Address) (root : Root)
    (keys : List Segment) : r.Follows (r.Comes writing scope root keys) := ⟨.member,.path,.sub,.locked,.cell⟩

variable {r : Runtime} {t : Table Scope} {met : Visits}

theorem Secluded.unshown (secluded : r.Secluded met) {spot : Spot} {key : Segment} {rest : List Segment}
    (here : met spot (key :: rest)) :
    (∀ scope, spot ≠ .bindings scope) ∧ ∀ a, spot ≠ .value (.context a) := by
  have none := secluded.views spot key rest
  exact ⟨fun scope same => none scope here (.inl same),fun a same => none _ here (.inr ⟨a,same,rfl⟩)⟩

theorem Secluded.echoes (secluded : r.Secluded met) (relinks : r.store.Relinks t) :
    r.Echoes (r.withScopes t) met where
  handles := rfl
  member := by
    intro spot key rest here
    obtain ⟨unbound,unviewed⟩ := secluded.unshown here
    cases spot with
    | bindings scope => exact absurd rfl (unbound scope)
    | items values => rfl
    | value v =>
      cases v with
      | context a => exact absurd rfl (unviewed a)
      | _ => rfl
  handleAt _ := rfl
  roots here handle := rootSpot_withScopes relinks (secluded.roots _ _ _ _ _ here handle) _

/-- Where nothing shows the context, the spots that are walked to are the same, and what is behind them. -/
theorem Unseen.walk {scope : Address} {root : Root} {keys : List Segment} {start : Spot}
    (unseen : r.Unseen false scope root keys) (relinks : r.store.Relinks t)
    (rooted : r.rootSpot scope root = .ok start) :
    start.walk (r.withScopes t).resolve (r.withScopes t).store keys =
        start.walk r.resolve r.store keys ∧
      ∀ last, start.walk r.resolve r.store keys = .ok last →
        last.follow (r.withScopes t).resolve = last.follow r.resolve := by
  have follows := Comes.follows r false scope root keys
  have echoes := unseen.echoes relinks
  have agrees := follows.resolve echoes
  have here : r.Comes false scope root keys start (keys ++ []) := by
    rw [List.append_nil]
    exact .start rooted
  obtain ⟨same,meets⟩ := Follows.walk agrees follows echoes keys here
  exact ⟨same,fun last walked => (Follows.follow agrees (meets last walked)).1⟩

/-- What is seen at a root is what was seen there, or what a root newly holds. -/
theorem rootSpot_changed {after : Runtime} (scopes : after.store.scopes = r.store.scopes)
    (alive : after.alive = r.alive) {new : Value → Prop}
    (roots : ∀ name, after.rootValue? name = r.rootValue? name ∨
      ∃ v, after.rootValue? name = some v ∧ new v) {scope : Address} {root : Root} {below : Spot}
    (found : after.rootSpot scope root = .ok below) :
    r.rootSpot scope root = .ok below ∨ ∃ v, below = .value v ∧ new v := by
  by_cases same : ∀ name, root.kind.dataRoot? = some name → after.rootValue? name = r.rootValue? name
  · exact .inl (rootSpot_congr (.of_scopes scopes) alive same scope ▸ found)
  · simp only [not_forall] at same
    obtain ⟨name,kind,differ⟩ := same
    obtain ⟨v,held,all⟩ := (roots name).resolve_left differ
    have spot := Reference.rootValue_of_rootSpot kind found
    rw [held] at spot
    exact .inr ⟨v,spot,all⟩

/-- What is met shows nothing of the context, and keeps to that as containers fill: what is made later may
hold anything that is met. -/
structure Blind (t : Table Scope) (met : Visits) (r : Runtime) : Prop extends r.Follows met where
  relinks : r.store.Relinks t
  secluded : r.Secluded met
  item : ∀ {a place other rest}, met (.value (.list a)) (.index place :: rest) →
    met (.value (itemAt (r.store.listAt a) (.index other))) rest
  root : ∀ {a scope path locked name v rest}, met (.value (.ref a)) rest →
    r.store.handleAt a = .path scope path locked → path.root.kind.dataRoot? = some name →
      r.rootValue? name = some v → met (.value v) (path.segments ++ rest)
  null : ∀ rest, met .null rest
  lists : ∀ a rest, r.store.lists.size ≤ a → met (.value (.list a)) rest
  dicts : ∀ a rest, r.store.dicts.size ≤ a → met (.value (.dict a)) rest

namespace Blind

variable {after : Runtime} (blind : Blind t met r)
include blind

/-- A change keeps to what is met if new members of containers are met, and so are what roots and cells
newly hold, whatever is left to take there. -/
theorem change (scopes : after.store.scopes = r.store.scopes) (alive : after.alive = r.alive)
    (lists : r.store.lists.size ≤ after.store.lists.size)
    (dicts : r.store.dicts.size ≤ after.store.dicts.size)
    (members : ∀ {v key rest}, met (.value v) (key :: rest) →
      met (.value (after.store.member (.value v) key)) rest)
    (items : ∀ {a place other rest}, met (.value (.list a)) (.index place :: rest) →
      met (.value (itemAt (after.store.listAt a) (.index other))) rest)
    (handles : ∀ a, after.store.handleAt a = r.store.handleAt a ∨
      ∃ v label, after.store.handleAt a = .cell v label ∧ ∀ rest, met (.value v) rest)
    (roots : ∀ name, after.rootValue? name = r.rootValue? name ∨
      ∃ v, after.rootValue? name = some v ∧ ∀ rest, met (.value v) rest) : Blind t met after := by
  have handle {a : Address} {h : Handle} (here : after.store.handleAt a = h)
      (plain : ∀ v label, h ≠ .cell v label) : r.store.handleAt a = h := by
    obtain same | ⟨v,label,cell,-⟩ := handles a
    · exact same.symm.trans here
    · exact absurd (here.symm.trans cell) (plain v label)
  exact {
    relinks := blind.relinks.of_scopes scopes
    secluded := {
      views := by
        intro spot key rest scope here shows
        obtain ⟨unbound,unviewed⟩ := blind.secluded.unshown here
        obtain bound | ⟨a,view,-⟩ := shows
        · exact unbound scope bound
        · exact unviewed a view
      roots := fun a rest scope path locked here shown =>
        blind.secluded.roots a rest scope path locked here (handle shown (by simp)) }
    member := by
      intro spot key rest here
      obtain ⟨unbound,-⟩ := blind.secluded.unshown here
      cases spot with
      | bindings scope => exact absurd rfl (unbound scope)
      | items values => exact blind.member here
      | value v => exact members here
    path := by
      intro a scope path locked below rest here shown found
      have shown := handle shown (by simp)
      obtain found | ⟨v,rfl,all⟩ := rootSpot_changed scopes alive roots found
      · exact blind.path here shown found
      · exact all _
    sub := fun here shown => blind.sub here (handle shown (by simp))
    locked := fun here shown => blind.locked here (handle shown (by simp))
    cell := by
      intro a v label rest here shown
      obtain same | ⟨w,other,cell,all⟩ := handles a
      · exact blind.cell here (same.symm.trans shown)
      · obtain ⟨rfl,-⟩ := Handle.cell.inj (cell.symm.trans shown)
        exact all rest
    item := items
    root := by
      intro a scope path locked name v rest here shown kind held
      have shown := handle shown (by simp)
      obtain same | ⟨w,new,all⟩ := roots name
      · exact blind.root here shown kind (same.symm.trans held)
      · obtain rfl := Option.some.inj (new.symm.trans held)
        exact all _
    null := blind.null
    lists := fun a rest beyond => blind.lists a rest (Nat.le_trans lists beyond)
    dicts := fun a rest beyond => blind.dicts a rest (Nat.le_trans dicts beyond) }

theorem unviewed {v : Value} {key : Segment} {rest : List Segment}
    (here : met (.value v) (key :: rest)) (a : Address) : v ≠ .context a :=
  fun view => (blind.secluded.unshown here).2 a (congrArg Spot.value view)

/-- A change of containers alone. -/
theorem refill {s : Store} (scopes : s.scopes = r.store.scopes) (handles : s.handles = r.store.handles)
    (lists : r.store.lists.size ≤ s.lists.size) (dicts : r.store.dicts.size ≤ s.dicts.size)
    (members : ∀ {v key rest}, met (.value v) (key :: rest) →
      met (.value (s.member (.value v) key)) rest)
    (items : ∀ {a place other rest}, met (.value (.list a)) (.index place :: rest) →
      met (.value (itemAt (s.listAt a) (.index other))) rest) : Blind t met { r with store := s } :=
  blind.change scopes rfl lists dicts members items
    (fun a => .inl (by rw [Store.handleAt,Store.handleAt,handles])) fun _ => .inl rfl

theorem newList : Blind t met { r with store := (r.store.newList []).2 } := by
  have adds := r.store.newList_adds []
  refine blind.refill rfl rfl (Nat.le_trans (Nat.le_succ _) (Nat.le_of_eq adds.size.symm))
    (Nat.le_refl _) (fun {v key rest} here => ?_) fun {a place other rest} here => ?_
  · rw [Store.member_congr (blind.unviewed here) fun shelf a _ => adds.blank rfl shelf a]
    exact blind.member here
  · rw [show (r.store.newList []).2.listAt a = r.store.listAt a from
      Object.items.inj (adds.blank rfl .list a)]
    exact blind.item here

theorem newDict : Blind t met { r with store := (r.store.newDict []).2 } := by
  have adds := r.store.newDict_adds []
  refine blind.refill rfl rfl (Nat.le_refl _)
    (Nat.le_trans (Nat.le_succ _) (Nat.le_of_eq adds.size.symm)) (fun {v key rest} here => ?_) blind.item
  rw [Store.member_congr (blind.unviewed here) fun shelf a _ => adds.blank rfl shelf a]
  exact blind.member here

/-- Each item is met, whatever is left to take there, or was there before. -/
theorem putList (a : Address) {items : List Value}
    (held : ∀ w ∈ items, (∀ rest, met (.value w) rest) ∨ w ∈ r.store.listAt a) :
    Blind t met { r with store := r.store.putList a items } := by
  have puts := r.store.putList_puts a items
  have item {b : Address} {place other : Int} {rest : List Segment}
      (here : met (.value (.list b)) (.index place :: rest)) :
      met (.value (itemAt ((r.store.putList a items).listAt b) (.index other))) rest := by
    obtain ⟨-,rfl,put⟩ | same := puts.either .list b
    · rw [show (r.store.putList b items).listAt b = items from Object.items.inj put]
      obtain missing | member := itemAt_held items (.index other)
      · rw [missing]
        exact blind.null rest
      · obtain all | old := held _ member
        · exact all rest
        · obtain ⟨n,found⟩ := List.mem_iff_getElem?.mp old
          have before : met (.value (itemAt (r.store.listAt b) (.index n))) rest := blind.item here
          rw [itemAt_index _ (Int.natCast_nonneg n),Int.toNat_natCast,found] at before
          exact before
    · rw [show (r.store.putList a items).listAt b = r.store.listAt b from Object.items.inj same]
      exact blind.item here
  refine blind.refill rfl rfl (Nat.le_of_eq (puts.sizes .list).symm) (Nat.le_refl _)
    (fun {v key rest} here => ?_) item
  have before := blind.member here
  by_cases there : v = .list a
  · subst there
    cases key with
    | field name => exact before
    | index place => exact item here
  · rw [puts.member (blind.unviewed here) fun same => there (Value.spot_inj same rfl)]
    exact before

theorem record (entry : Entry) : Blind t met { r with journal := r.journal.push entry } :=
  blind.change rfl rfl (Nat.le_refl _) (Nat.le_refl _) blind.member blind.item (fun _ => .inl rfl)
    fun _ => .inl rfl

section

variable {w : Value} (all : ∀ rest, met (.value w) rest)
include all

theorem putDict (a : Address) (key : Key) (label : Value) :
    Blind t met { r with store := r.store.putDict a ((r.store.dictAt a).insert key label w) } := by
  have puts := r.store.putDict_puts a ((r.store.dictAt a).insert key label w)
  refine blind.refill rfl rfl (Nat.le_refl _) (Nat.le_of_eq (puts.sizes .dict).symm)
    (fun {v other rest} here => ?_) blind.item
  have before := blind.member here
  by_cases there : v = .dict a
  · subst there
    simp only [Store.member] at before ⊢
    obtain ⟨-,-,put⟩ | same := puts.either .dict a
    · rw [show (r.store.putDict a _).dictAt a = _ from Object.entries.inj put,Dict.get_insert]
      split
      · exact all rest
      · exact before
    · rw [show (r.store.putDict a _).dictAt a = r.store.dictAt a from Object.entries.inj same]
      exact before
  · rw [puts.member (blind.unviewed here) fun same => there (Value.spot_inj same rfl)]
    exact before

theorem putCell (a : Address) (label : String) :
    Blind t met { r with store := r.store.putHandle a (.cell w label) } := by
  have puts := r.store.putHandle_puts a (.cell w label)
  refine blind.change rfl rfl (Nat.le_refl _) (Nat.le_refl _) (fun {v key rest} here => ?_) blind.item
    (fun b => ?_) fun _ => .inl rfl
  · by_cases there : v = .ref a
    · subst there
      exact blind.null rest
    · rw [puts.member (blind.unviewed here) fun same => there (Value.spot_inj same rfl)]
      exact blind.member here
  · obtain ⟨-,-,put⟩ | same := puts.either .handle b
    · exact .inr ⟨w,label,Object.handle.inj put,all⟩
    · exact .inl (Object.handle.inj same)

theorem setRoot (name : String) : Blind t met (r.setRoot name w) := by
  refine blind.change rfl rfl (Nat.le_refl _) (Nat.le_refl _) blind.member blind.item (fun _ => .inl rfl)
    fun other => ?_
  by_cases here : other = name
  · subst here
    exact .inr ⟨w,Named.lookup_set_self other w r.roots,all⟩
  · exact .inl (Named.lookup_set_of_ne here w r.roots)

end

end Blind

/-- Null, and the places where lists and dictionaries will be made. -/
inductive Vacant (r : Runtime) : Spot → Prop
  | null : Vacant r .null
  | list (a : Address) (outside : r.store.lists.size ≤ a) : Vacant r (.value (.list a))
  | dict (a : Address) (outside : r.store.dicts.size ≤ a) : Vacant r (.value (.dict a))

theorem Vacant.member {spot : Spot} (vacant : r.Vacant spot) (key : Segment) :
    r.store.member spot key = .null := by
  cases vacant with
  | null => rfl
  | list a outside =>
    have empty : r.store.listAt a = [] := by
      rw [Store.listAt,Table.get?_outside _ outside]
      rfl
    simp only [Store.member,empty]
    obtain missing | member := itemAt_held [] key
    · exact missing
    · exact (List.not_mem_nil member).elim
  | dict a outside =>
    simp only [Store.member,Store.dictAt_outside outside]
    rfl

/-- Where nothing shows the context to a write, nothing does so throughout. -/
theorem Unseen.blind {scope : Address} {root : Root} {keys : List Segment}
    (unseen : r.Unseen true scope root keys) (relinks : r.store.Relinks t) :
    Blind t (fun spot rest => r.Vacant spot ∨ r.Comes true scope root keys spot rest) r where
  relinks := relinks
  secluded := by
    refine ⟨?_,?_⟩
    · rintro spot key rest scope (vacant | met) shows
      · obtain rfl | ⟨a,rfl,-⟩ := shows <;> cases vacant
      · exact unseen.views spot key rest scope met shows
    · rintro a rest scope path locked (vacant | met) here
      · cases vacant
      · exact unseen.roots a rest scope path locked met here
  member := by
    rintro spot key rest (vacant | met)
    · rw [vacant.member]
      exact .inl .null
    · exact .inr met.member
  path := by
    rintro a scope path locked below rest (vacant | met) here rooted
    · cases vacant
    · exact .inr (met.path here rooted)
  sub := by
    rintro a parent key rest (vacant | met) here
    · cases vacant
    · exact .inr (met.sub here)
  locked := by
    rintro a inner rest (vacant | met) here
    · cases vacant
    · exact .inr (met.locked here)
  cell := by
    rintro a v label rest (vacant | met) here
    · cases vacant
    · exact .inr (met.cell here)
  item := by
    rintro a place other rest (vacant | met)
    · rw [show itemAt (r.store.listAt a) (.index other) = .null from vacant.member (.index other)]
      exact .inl .null
    · exact .inr (met.item rfl)
  root := by
    rintro a scope path locked name v rest (vacant | met) here kind held
    · cases vacant
    · exact .inr (met.root rfl here kind held)
  null rest := .inl .null
  lists a rest outside := .inl (.list a outside)
  dicts a rest outside := .inl (.dict a outside)

end Runtime
end PageRuntime
