import PageRuntime.Proofs.Blank
import PageRuntime.Proofs.Places

/-! Tidy runtimes. Below the data roots, and below the values that a program has in hand, nothing
that can change is held twice; what can change there has been there from the start or is new; and
the bindings of a scope are not among it. Making an object, giving a value in hand to a container or
a root and dropping one all leave a runtime tidy. -/
namespace PageRuntime

theorem Dict.insert_values (d : Dict) (key : Key) (label v : Value) : ∃ rest,
    (Dict.values d).Perm ((d.get? key).toList ++ rest) ∧
      (Dict.values (d.insert key label v)).Perm (v :: rest) := by
  induction d with
  | nil => exact ⟨[],.refl _,.refl _⟩
  | cons slot d ih =>
    by_cases here : slot.key = key
    · refine ⟨Dict.values d,?_,?_⟩
      · simp [Dict.values,Dict.get?,here]
      · simp [Dict.values,Dict.insert,here]
    · obtain ⟨rest,before,after⟩ := ih
      have found : Dict.get? (slot :: d) key = Dict.get? d key := by
        simp [Dict.get?,here]
      refine ⟨slot.value :: rest,?_,?_⟩
      · rw [found]
        exact (before.cons slot.value).trans List.perm_middle.symm
      · have skipped : Dict.insert (slot :: d) key label v = slot :: Dict.insert d key label v := by
          rw [Dict.insert,if_neg here]
        rw [skipped]
        exact (after.cons slot.value).trans (.swap _ _ _)

theorem Named.set_values {α : Type} (named : Named α) (name : String) (x : α) : ∃ rest,
    (named.map (·.2)).Perm ((named.lookup name).toList ++ rest) ∧
      ((Named.set name x named).map (·.2)).Perm (x :: rest) := by
  induction named with
  | nil => exact ⟨[],.refl _,.refl _⟩
  | cons pair named ih =>
    obtain ⟨other,y⟩ := pair
    by_cases here : other = name
    · subst here
      refine ⟨named.map (·.2),?_,?_⟩
      · simp
      · simp [Named.set]
    · obtain ⟨rest,before,after⟩ := ih
      have missed : (name == other) = false := by simpa using Ne.symm here
      refine ⟨y :: rest,?_,?_⟩
      · rw [List.lookup_cons,missed]
        exact (before.cons y).trans List.perm_middle.symm
      · have skipped : Named.set name x ((other,y) :: named) = (other,y) :: Named.set name x named := by
          rw [Named.set,if_neg here]
        rw [skipped]
        exact (after.cons y).trans (.swap _ _ _)

theorem Value.spot_inj {v w : Value} {shelf : Shelf} {a : Address} (here : v.spot? = some (shelf,a))
    (there : w.spot? = some (shelf,a)) : v = w := by
  cases v <;> cases here <;> cases w <;> cases there <;> rfl

namespace Store

theorem members_congr {s after : Store} {v : Value} (same : ∀ shelf a, v.spot? = some (shelf,a) →
    after.object shelf a = s.object shelf a) : after.members v = s.members v := by
  cases v with
  | list a =>
    have same : after.listAt a = s.listAt a := Object.items.inj (same .list a rfl)
    simp only [members,mapping?,sequence?,same]
  | tuple a =>
    have same : after.tupleAt a = s.tupleAt a := Object.items.inj (same .tuple a rfl)
    simp only [members,mapping?,sequence?,same]
  | dict a =>
    have same : after.dictAt a = s.dictAt a := Object.entries.inj (same .dict a rfl)
    simp only [members,mapping?,same]
  | frozen a =>
    have same : after.frozenAt a = s.frozenAt a := Object.entries.inj (same .frozen a rfl)
    simp only [members,mapping?,same]
  | _ => rfl

theorem member_congr {s after : Store} {v : Value} (unbound : ∀ a, v ≠ .context a)
    (same : ∀ shelf a, v.spot? = some (shelf,a) → after.object shelf a = s.object shelf a)
    (key : Segment) : after.member (.value v) key = s.member (.value v) key := by
  cases v with
  | context a => exact absurd rfl (unbound a)
  | dict a =>
    have same : after.dictAt a = s.dictAt a := Object.entries.inj (same .dict a rfl)
    simp only [member,same]
  | frozen a =>
    have same : after.frozenAt a = s.frozenAt a := Object.entries.inj (same .frozen a rfl)
    simp only [member,same]
  | list a =>
    have same : after.listAt a = s.listAt a := Object.items.inj (same .list a rfl)
    simp only [member,same]
  | tuple a =>
    have same : after.tupleAt a = s.tupleAt a := Object.items.inj (same .tuple a rfl)
    simp only [member,same]
  | _ => rfl

/-- A value outside the store holds nothing. -/
theorem members_outside {s : Store} {v : Value} {shelf : Shelf} {a : Address}
    (here : v.spot? = some (shelf,a)) (outside : s.sizeOf shelf ≤ a) : s.members v = [] := by
  cases v <;> cases here <;>
    simp only [members,mapping?,sequence?,listAt,tupleAt,dictAt,frozenAt] <;>
    rw [Table.get?_outside _ outside] <;> rfl

theorem Grew.members {s after : Store} (grew : s.Grew after) {v : Value} (inside : v.Inside s) :
    after.members v = s.members v :=
  members_congr fun shelf a here => (grew shelf a (inside shelf a here)).2

theorem Puts.members {s after : Store} {shelf : Shelf} {a : Address} {o : Object}
    (puts : s.Puts after shelf a o) {v : Value} (elsewhere : v.spot? ≠ some (shelf,a)) :
    after.members v = s.members v := by
  refine members_congr fun other b here => puts.others other b ?_
  by_contra same
  push Not at same
  obtain ⟨rfl,rfl⟩ := same
  exact elsewhere here

theorem Adds.members {s after : Store} {shelf : Shelf} {o : Object} (adds : s.Adds after shelf o)
    {v : Value} (elsewhere : v.spot? ≠ some (shelf,s.sizeOf shelf)) :
    after.members v = s.members v := by
  refine members_congr fun other b here => adds.others other b ?_
  by_contra same
  push Not at same
  obtain ⟨rfl,rfl⟩ := same
  exact elsewhere here

/-- The scopes are the same in both stores. -/
structure SameScopes (s after : Store) : Prop where
  size : after.scopes.size = s.scopes.size
  scopeAt : ∀ scope, after.scopeAt scope = s.scopeAt scope

theorem SameScopes.refl (s : Store) : s.SameScopes s := ⟨rfl,fun _ => rfl⟩

theorem SameScopes.trans {s mid after : Store} (first : s.SameScopes mid)
    (second : mid.SameScopes after) : s.SameScopes after :=
  ⟨second.size.trans first.size,fun scope => (second.scopeAt scope).trans (first.scopeAt scope)⟩

theorem Puts.scopes {s after : Store} {shelf : Shelf} {a : Address} {o : Object}
    (puts : s.Puts after shelf a o) (notScope : Shelf.scope ≠ shelf) : s.SameScopes after :=
  ⟨puts.sizes .scope,fun scope => Object.scope.inj (puts.others .scope scope (.inl notScope))⟩

theorem Adds.scopes {s after : Store} {shelf : Shelf} {o : Object} (adds : s.Adds after shelf o)
    (notScope : Shelf.scope ≠ shelf) : s.SameScopes after :=
  ⟨adds.sizes .scope notScope,
    fun scope => Object.scope.inj (adds.others .scope scope (.inl notScope))⟩

/-- Tuples in containers and in the local data of scopes are tuples of the store, and scopes have
dictionaries of the store for their bindings. -/
structure Fenced (s : Store) : Prop where
  tuples : ∀ v a, .tuple a ∈ s.members v → a < s.tuples.size
  data : ∀ scope a, (s.scopeAt scope).data = .tuple a → a < s.tuples.size
  specials : ∀ scope, (s.scopeAt scope).specials < s.dicts.size

theorem Fenced.keep {s after : Store} (fenced : s.Fenced) (scopes : s.SameScopes after)
    (sizes : ∀ shelf, s.sizeOf shelf ≤ after.sizeOf shelf)
    (tuples : ∀ v a, .tuple a ∈ after.members v → a < s.tuples.size) : after.Fenced := by
  refine ⟨fun v a member => ?_,fun scope a held => ?_,fun scope => ?_⟩
  · exact Nat.lt_of_lt_of_le (tuples v a member) (sizes .tuple)
  · rw [scopes.scopeAt] at held
    exact Nat.lt_of_lt_of_le (fenced.data scope a held) (sizes .tuple)
  · rw [scopes.scopeAt]
    exact Nat.lt_of_lt_of_le (fenced.specials scope) (sizes .dict)

end Store

/-- What something holds is an object of the store, if it has identity at all. -/
theorem Runtime.Closed.members {r : Runtime} (closed : r.Closed) {v w : Value}
    (member : w ∈ r.store.members v) : w.Present r.store := by
  have items {values : List Value} (alike : Values.Alike r.store.identity values values)
      (member : w ∈ values) : w.Present r.store := List.forall₂_same.mp alike w member
  have entries {d : Dict} (alike : d.Alike r.store.identity d) (member : w ∈ Dict.values d) :
      w.Present r.store := by
    obtain ⟨slot,held,rfl⟩ := List.mem_map.mp member
    exact (List.forall₂_same.mp alike slot held).value
  by_cases inside : v.Inside r.store
  · have alike := closed.store
    cases v with
    | list a => exact items (alike.listAt ⟨rfl,inside .list a rfl⟩) member
    | tuple a => exact items (alike.tupleAt ⟨rfl,inside .tuple a rfl⟩) member
    | dict a => exact entries (alike.dictAt ⟨rfl,inside .dict a rfl⟩) member
    | frozen a => exact entries (alike.frozenAt ⟨rfl,inside .frozen a rfl⟩) member
    | _ => cases member
  · unfold Value.Inside at inside
    push Not at inside
    obtain ⟨shelf,a,here,outside⟩ := inside
    rw [Store.members_outside here outside] at member
    cases member

namespace Runtime

/-- Values in hand may be counted before the data roots. -/
theorem filter_hand (p : Value → Bool) (roots more spare : List Value) :
    (more.filter p ++ (roots ++ spare).filter p).Perm ((roots ++ (more ++ spare)).filter p) := by
  rw [← List.filter_append,← List.append_assoc,← List.append_assoc]
  exact (List.perm_append_comm.append_right spare).filter p

/-- The containers below the data roots and below some other values. -/
def besides (r : Runtime) (spare : List Value) : Layout :=
  r.store.layout (r.roots.map (·.2) ++ spare)

/-- Objects were made that are fenced in, none of them a scope. -/
structure Spreads (r after : Runtime) : Prop where
  grew : r.Grew after
  fenced : r.store.Fenced → after.store.Fenced
  scopes : r.store.SameScopes after.store

instance : Std.Refl Spreads := ⟨fun r => ⟨.refl r,id,.refl _⟩⟩

instance : Trans Spreads Spreads Spreads :=
  ⟨fun first second => ⟨first.grew.trans second.grew,fun fenced => second.fenced (first.fenced fenced),
    first.scopes.trans second.scopes⟩⟩

/-- Nothing that can change is held twice below the data roots and the values in hand. What can
change there was below the roots of `base` or has come since. -/
structure Tidy (base : Runtime) (spare : List Value) (r : Runtime) : Prop where
  wider : ∀ shelf, base.store.sizeOf shelf ≤ r.store.sizeOf shelf
  fenced : r.store.Fenced
  inside : ∀ v, (r.besides spare).Shows v → v.Inside r.store
  apart : (r.besides spare).Apart
  earlier : ∀ v, (r.besides spare).Shows v → v.isMutable = true → base.layout.Shows v ∨ base.Lacks v
  unbound : ∀ scope, scope < r.store.scopes.size →
    ¬ (r.besides spare).Shows (.dict (r.store.scopeAt scope).specials)

/-- The value has come since, and is not the bindings of a scope. -/
structure New (base r : Runtime) (v : Value) : Prop where
  lacks : base.Lacks v
  unbound : ∀ scope, v ≠ .dict (r.store.scopeAt scope).specials

namespace Tidy

variable {base r after : Runtime} {spare more : List Value}

theorem new (tidy : base.Tidy spare r) {v : Value} (lacks : r.Lacks v) : base.New r v where
  lacks shelf a here := Nat.le_trans (tidy.wider shelf) (lacks shelf a here)
  unbound scope := by
    rintro rfl
    exact absurd (tidy.fenced.specials scope) (Nat.not_lt.mpr (lacks .dict _ rfl))

/-- All that a change may show is what was shown before and what is new. -/
theorem change (tidy : base.Tidy spare r)
    (wider : ∀ shelf, r.store.sizeOf shelf ≤ after.store.sizeOf shelf)
    (fenced : after.store.Fenced) (scopes : r.store.SameScopes after.store)
    (apart : (after.besides more).Apart)
    (shows : ∀ v, (after.besides more).Shows v →
      (r.besides spare).Shows v ∨ base.New r v ∧ v.Inside after.store) : base.Tidy more after where
  wider shelf := Nat.le_trans (tidy.wider shelf) (wider shelf)
  fenced := fenced
  inside v shown := by
    obtain shown | ⟨-,inside⟩ := shows v shown
    · exact fun shelf a here => Nat.lt_of_lt_of_le (tidy.inside v shown shelf a here) (wider shelf)
    · exact inside
  apart := apart
  earlier v shown mutable := by
    obtain shown | ⟨new,-⟩ := shows v shown
    · exact tidy.earlier v shown mutable
    · exact .inr new.lacks
  unbound scope inside shown := by
    rw [scopes.size] at inside
    rw [scopes.scopeAt] at shown
    obtain shown | ⟨new,-⟩ := shows _ shown
    · exact tidy.unbound scope inside shown
    · exact new.unbound scope rfl

/-- Where the containers that are shown hold less, or the same, no more is shown. -/
theorem of_less (tidy : base.Tidy spare r)
    (wider : ∀ shelf, r.store.sizeOf shelf ≤ after.store.sizeOf shelf)
    (fenced : after.store.Fenced) (scopes : r.store.SameScopes after.store)
    (top : (after.besides more).top.Subperm (r.besides spare).top)
    (under : ∀ v, (r.besides spare).Shows v → (after.store.parts v).Subperm (r.store.parts v)) :
    base.Tidy more after := by
  have less : ∀ h, (r.besides spare).Open h →
      ((after.besides more).held h).Subperm ((r.besides spare).held h)
    | none, _ => top
    | some v, shown => under v shown
  exact tidy.change wider fenced scopes (.of_less less tidy.apart) fun v shown =>
    .inl (Layout.shows_of_less less shown)

/-- Containers in hand are objects of the store. -/
theorem given (tidy : base.Tidy spare r) {v : Value} (member : v ∈ spare)
    (container : v.isContainer = true) : v.Inside r.store :=
  tidy.inside v (.top (List.mem_filter.mpr ⟨List.mem_append_right _ member,container⟩))

/-- A value in hand may be dropped, and their order is nothing. -/
theorem less (tidy : base.Tidy spare r) (fewer : more.Subperm spare) : base.Tidy more r :=
  tidy.of_less (fun _ => Nat.le_refl _) tidy.fenced (.refl _)
    (((List.subperm_append_left _).mpr fewer).filter _) fun _ _ => .refl _

theorem drop (tidy : base.Tidy (more ++ spare) r) : base.Tidy spare r :=
  tidy.less (List.sublist_append_right more spare).subperm

/-- What is no container may be in hand at any time. -/
theorem plain (tidy : base.Tidy spare r) {v : Value} (plain : v.isContainer = false) :
    base.Tidy (v :: spare) r := by
  have same : r.besides (v :: spare) = r.besides spare := by
    simp only [besides,Store.layout,List.filter_append,List.filter_cons,plain,Bool.false_eq_true,
      if_false]
  refine tidy.change (fun _ => Nat.le_refl _) tidy.fenced (.refl _) (same ▸ tidy.apart) fun v shown => ?_
  exact .inl (same ▸ shown)

theorem held_of_spreads (tidy : base.Tidy spare r) (spreads : r.Spreads after) :
    ∀ h, (r.besides spare).Open h → (after.besides spare).held h = (r.besides spare).held h
  | none, _ => by simp only [Layout.held,besides,Store.layout,spreads.grew.roots]
  | some v, shown => by
    simp only [Layout.held,besides,Store.layout,Store.parts]
    rw [spreads.grew.store.members (tidy.inside v shown)]

theorem shows_of_spreads (tidy : base.Tidy spare r) (spreads : r.Spreads after) {v : Value}
    (shown : (after.besides spare).Shows v) : (r.besides spare).Shows v :=
  Layout.shows_of_less (fun h holds => (List.Perm.of_eq (tidy.held_of_spreads spreads h holds)).subperm) shown

theorem spreads (tidy : base.Tidy spare r) (spreads : r.Spreads after) : base.Tidy spare after :=
  have same := tidy.held_of_spreads spreads
  tidy.of_less spreads.grew.store.sizeOf_le (spreads.fenced tidy.fenced) spreads.scopes
    (List.Perm.of_eq (same none trivial)).subperm
    fun v shown => (List.Perm.of_eq (same (some v) shown)).subperm

/-- A container in hand is opened, and its members are in hand. -/
theorem members {v : Value} (tidy : base.Tidy (v :: spare) r) :
    base.Tidy (r.store.members v ++ spare) r := by
  by_cases container : v.isContainer = true
  · let rest := (r.roots.map (·.2) ++ spare).filter (·.isContainer)
    have leaves : (v :: rest).Subperm (r.besides (v :: spare)).top := by
      have order := filter_hand (·.isContainer) (r.roots.map (·.2)) [v] spare
      rw [List.filter_cons,if_pos container] at order
      exact order.subperm
    have opened := tidy.apart.unwrap leaves
    have less : ∀ h, Layout.Open ⟨(r.besides (v :: spare)).under v ++ rest,(r.besides (v :: spare)).under⟩ h →
        ((r.besides (r.store.members v ++ spare)).held h).Subperm
          (Layout.held ⟨(r.besides (v :: spare)).under v ++ rest,(r.besides (v :: spare)).under⟩ h)
      | none, _ => by
        have order := filter_hand (·.isContainer) (r.roots.map (·.2)) (r.store.members v) spare
        exact order.symm.subperm
      | some w, _ => .refl _
    refine tidy.change (fun _ => Nat.le_refl _) tidy.fenced (.refl _) (opened.of_less less) fun w shown => ?_
    exact .inl (Layout.shows_of_unwrap leaves (Layout.shows_of_less less shown))
  · rw [Bool.not_eq_true] at container
    rw [Store.members_none container]
    exact tidy.less (List.sublist_cons_self v spare).subperm

theorem setRoot {v : Value} (tidy : base.Tidy (v :: spare) r) (name : String) :
    base.Tidy spare (r.setRoot name v) := by
  refine tidy.of_less (fun _ => Nat.le_refl _) tidy.fenced (.refl _) ?_ fun _ _ => .refl _
  obtain ⟨rest,before,after⟩ := Named.set_values r.roots name v
  refine List.Subperm.filter _ ?_
  have more : (v :: rest).Subperm (v :: r.roots.map (·.2)) :=
    (List.subperm_cons v).mpr ((List.sublist_append_right _ rest).subperm.trans before.symm.subperm)
  exact ((List.subperm_append_right spare).mpr (after.subperm.trans more)).trans
    List.perm_middle.symm.subperm

section Writing

variable {v : Value} {s : Store} {shelf : Shelf} {a : Address} {o : Object}

/-- A value in hand is given to a container. -/
theorem fill (tidy : base.Tidy (v :: spare) r) (puts : r.store.Puts s shelf a o)
    (notScope : Shelf.scope ≠ shelf) {c : Value} (here : c.spot? = some (shelf,a))
    (mutable : c.isMutable = true)
    (comes : a < s.sizeOf shelf →
      (s.parts c).Subperm ((v :: r.store.members c).filter (·.isContainer))) :
    base.Tidy spare { r with store := s } := by
  have comes : (s.parts c).Subperm ((v :: r.store.members c).filter (·.isContainer)) := by
    by_cases inside : a < s.sizeOf shelf
    · exact comes inside
    · unfold Store.parts
      rw [Store.members_outside here (Nat.le_of_not_lt inside)]
      exact List.nil_subperm
  have elsewhere {w : Value} (other : w ≠ c) : s.members w = r.store.members w :=
    puts.members fun there => other (Value.spot_inj there here)
  have sizes (shelf : Shelf) : r.store.sizeOf shelf ≤ s.sizeOf shelf :=
    Nat.le_of_eq (puts.sizes shelf).symm
  have fenced : s.Fenced := by
    refine tidy.fenced.keep (puts.scopes notScope) sizes fun w b member => ?_
    by_cases other : w = c
    · subst other
      have part : .tuple b ∈ s.parts w := List.mem_filter.mpr ⟨member,rfl⟩
      obtain rfl | member := List.mem_cons.mp (List.mem_filter.mp (comes.subset part)).1
      · exact tidy.given List.mem_cons_self rfl .tuple b rfl
      · exact tidy.fenced.tuples w b member
    · rw [elsewhere other] at member
      exact tidy.fenced.tuples w b member
  let full : Runtime := { r with store := s }
  have leaves : ([v].filter (·.isContainer) ++ (full.besides spare).held none).Subperm
      ((r.besides (v :: spare)).held none) := (filter_hand _ (r.roots.map (·.2)) [v] spare).subperm
  have comes : ((full.besides spare).held (some c)).Subperm
      ([v].filter (·.isContainer) ++ (r.besides (v :: spare)).held (some c)) := by
    simp only [Layout.held,besides,Store.layout]
    unfold Store.parts at comes ⊢
    rwa [← List.filter_append]
  have others (h : Option Value) (notTop : h ≠ none) (other : h ≠ some c)
      (_ : (r.besides (v :: spare)).Open h) :
      ((full.besides spare).held h).Subperm ((r.besides (v :: spare)).held h) := by
    cases h with
    | none => exact absurd rfl notTop
    | some w =>
      simp only [Layout.held,besides,Store.layout]
      unfold Store.parts
      rw [elsewhere fun same => other (congrArg some same)]
  have top : (r.besides (v :: spare)).Open none := trivial
  have differ : none ≠ some c := by simp
  refine tidy.change sizes fenced (puts.scopes notScope) ?_ ?_
  · refine tidy.apart.move differ top ?_ leaves comes others
    rintro w (same | same)
    · cases same
    · exact Option.some.inj same ▸ mutable
  · exact fun w shown => .inl (Layout.shows_of_move top leaves comes others shown)

theorem putDict (tidy : base.Tidy (v :: spare) r) (a : Address) {d : Dict}
    (comes : (Dict.values d).Subperm (v :: Dict.values (r.store.dictAt a))) :
    base.Tidy spare { r with store := r.store.putDict a d } := by
  have puts := r.store.putDict_puts a d
  have here : (Value.dict a).spot? = some (.dict,a) := rfl
  refine tidy.fill puts nofun here rfl fun inside => ?_
  rw [puts.sizes] at inside
  have held : (r.store.putDict a d).dictAt a = d := Object.entries.inj (puts.object inside)
  simp only [Store.parts,Store.members,Store.mapping?,held]
  exact comes.filter _

theorem putList (tidy : base.Tidy (v :: spare) r) (a : Address) {items : List Value}
    (comes : (items.filter (·.isContainer)).Subperm
      ((v :: r.store.listAt a).filter (·.isContainer))) :
    base.Tidy spare { r with store := r.store.putList a items } := by
  have puts := r.store.putList_puts a items
  have here : (Value.list a).spot? = some (.list,a) := rfl
  refine tidy.fill puts nofun here rfl fun inside => ?_
  rw [puts.sizes] at inside
  have held : (r.store.putList a items).listAt a = items := Object.items.inj (puts.object inside)
  simp only [Store.parts,Store.members,Store.mapping?,Store.sequence?,held]
  exact comes

/-- Handles and octets hold nothing in this sense. -/
theorem aside (tidy : base.Tidy spare r) (puts : r.store.Puts s shelf a o)
    (other : shelf = .handle ∨ shelf = .blob) :
    base.Tidy spare { r with store := s } := by
  have members (w : Value) : s.members w = r.store.members w := by
    by_cases here : w.spot? = some (shelf,a)
    · obtain rfl | rfl := other <;> cases w <;> cases here <;> rfl
    · exact puts.members here
  have sizes (shelf : Shelf) : r.store.sizeOf shelf ≤ s.sizeOf shelf :=
    Nat.le_of_eq (puts.sizes shelf).symm
  have scopes : r.store.SameScopes s := puts.scopes (by obtain rfl | rfl := other <;> exact nofun)
  have fenced : s.Fenced := tidy.fenced.keep scopes sizes fun w b member =>
    tidy.fenced.tuples w b (members w ▸ member)
  refine tidy.of_less sizes fenced scopes (.refl _) ?_
  intro w _
  unfold Store.parts
  rw [members]

/-- Values in hand are put into a new container. -/
theorem make {parts : List Value} (tidy : base.Tidy (parts ++ spare) r)
    (adds : r.store.Adds s shelf o) (notScope : Shelf.scope ≠ shelf) {c : Value}
    (here : c.spot? = some (shelf,r.store.sizeOf shelf)) (container : c.isContainer = true)
    (holds : (s.members c).Subperm parts) : base.Tidy (c :: spare) { r with store := s } := by
  have grew : r.store.Grew s := .of_adds adds
  have elsewhere {w : Value} (other : w ≠ c) : s.members w = r.store.members w :=
    adds.members fun there => other (Value.spot_inj there here)
  have lacks : r.Lacks c := by
    intro other a there
    cases here.symm.trans there
    exact Nat.le_refl _
  have new : ¬ (r.besides (parts ++ spare)).Shows c := fun shown =>
    absurd (tidy.inside c shown shelf _ here) (Nat.lt_irrefl _)
  have inside : c.Inside s := by
    intro other a there
    cases here.symm.trans there
    rw [adds.size]
    exact Nat.lt_succ_self _
  have fenced : s.Fenced := by
    refine tidy.fenced.keep (adds.scopes notScope) grew.sizeOf_le fun w b member => ?_
    by_cases other : w = c
    · subst other
      exact tidy.given (List.mem_append_left _ (holds.subset member)) rfl .tuple b rfl
    · rw [elsewhere other] at member
      exact tidy.fenced.tuples w b member
  let full : Runtime := { r with store := s }
  let rest := (r.roots.map (·.2) ++ spare).filter (·.isContainer)
  have same : ∀ v, (r.besides (parts ++ spare)).Shows v →
      (full.besides (c :: spare)).under v = (r.besides (parts ++ spare)).under v := by
    intro v shown
    simp only [besides,Store.layout,Store.parts]
    rw [elsewhere (by rintro rfl; exact new shown)]
  have leaves : ((full.besides (c :: spare)).under c ++ rest).Subperm
      (r.besides (parts ++ spare)).top :=
    ((holds.filter _).append (.refl rest)).trans (filter_hand _ (r.roots.map (·.2)) parts spare).subperm
  have top : ((full.besides (c :: spare)).top).Subperm (c :: rest) := by
    have order := filter_hand (·.isContainer) (r.roots.map (·.2)) [c] spare
    rw [List.filter_cons,if_pos container] at order
    exact order.symm.subperm
  refine tidy.change grew.sizeOf_le fenced (adds.scopes notScope)
    (tidy.apart.wrap new same leaves top) fun v shown => ?_
  obtain rfl | shown := Layout.shows_of_wrap same leaves top shown
  · exact .inr ⟨tidy.new lacks,inside⟩
  · exact .inl shown

end Writing

theorem newList {items : List Value} (tidy : base.Tidy (items ++ spare) r) :
    base.Tidy (.list r.store.lists.size :: spare) { r with store := (r.store.newList items).2 } := by
  have adds := r.store.newList_adds items
  have held : (r.store.newList items).2.listAt r.store.lists.size = items :=
    Object.items.inj adds.object
  refine tidy.make adds nofun rfl rfl ?_
  simp only [Store.members,Store.mapping?,Store.sequence?,held]
  exact .refl _

theorem newTuple {items : List Value} (tidy : base.Tidy (items ++ spare) r) :
    base.Tidy (.tuple r.store.tuples.size :: spare)
      { r with store := (r.store.newTuple items).2 } := by
  have adds := r.store.newTuple_adds items
  have held : (r.store.newTuple items).2.tupleAt r.store.tuples.size = items :=
    Object.items.inj adds.object
  refine tidy.make adds nofun rfl rfl ?_
  simp only [Store.members,Store.mapping?,Store.sequence?,held]
  exact .refl _

theorem newDict {d : Dict} (tidy : base.Tidy (Dict.values d ++ spare) r) :
    base.Tidy (.dict r.store.dicts.size :: spare) { r with store := (r.store.newDict d).2 } := by
  have adds := r.store.newDict_adds d
  have held : (r.store.newDict d).2.dictAt r.store.dicts.size = d := Object.entries.inj adds.object
  refine tidy.make adds nofun rfl rfl ?_
  simp only [Store.members,Store.mapping?,held]
  exact .refl _

theorem newBlob (tidy : base.Tidy spare r) (b : Blob) :
    base.Tidy (.blob r.store.blobs.size :: spare) { r with store := (r.store.newBlob b).2 } := by
  have none : base.Tidy ([] ++ spare) r := tidy
  exact none.make (r.store.newBlob_adds b) nofun rfl rfl (.refl _)

end Tidy
end Runtime
end PageRuntime
