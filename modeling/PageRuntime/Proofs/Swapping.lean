import PageRuntime.Proofs.CaptureOnly
import PageRuntime.Proofs.Reach
import PageRuntime.Proofs.TidyWriting

/-! Containers that take the place of others. A new container holds what the one that was read
holds, and a payload besides. Written where the other was read, it takes its place: the other is
held no more, and what both hold is still held once. -/
namespace PageRuntime

namespace Layout

variable {l m : Layout} {cur made c : Value} {payload rest : List Value}

/-- A new container in hand is made of what lies on top and of what a container there holds. -/
theorem Apart.exchange (apart : l.Apart) {top : List Value} (leaves : (cur :: (payload ++ rest)).Subperm l.top)
    (fresh : ¬ l.Shows made) (parts : (l.under made).Subperm (l.under cur ++ payload))
    (onTop : top.Subperm (made :: rest)) : (⟨top,l.under⟩ : Layout).Apart ∧
      ∀ v, (⟨top,l.under⟩ : Layout).Shows v → v = made ∨ l.Shows v := by
  have opened := apart.unwrap leaves
  have shows {v : Value} (shown : (⟨l.under cur ++ (payload ++ rest),l.under⟩ : Layout).Shows v) :
      l.Shows v := shows_of_unwrap leaves shown
  have fits : (l.under made ++ rest).Subperm (l.under cur ++ (payload ++ rest)) := by
    rw [← List.append_assoc]
    exact (List.subperm_append_right rest).mpr parts
  have same (v : Value) (_ : (⟨l.under cur ++ (payload ++ rest),l.under⟩ : Layout).Shows v) :
      (⟨top,l.under⟩ : Layout).under v = l.under v := rfl
  exact ⟨opened.wrap (fun shown => fresh (shows shown)) same fits onTop,
    fun v shown => (shows_of_wrap same fits onTop shown).imp_right shows⟩

/-- A new container takes the place of another in a container that can change. -/
theorem Apart.replace (apart : l.Apart) (shown : l.Shows c) (mutable : c.isMutable = true)
    (fresh : ¬ l.Shows made)
    (parts : (l.under made).Subperm (l.under cur ++ payload)) {others : List Value}
    (before : (cur :: others).Subperm (l.under c)) (after : (m.under c).Subperm (made :: others))
    (top : (payload ++ m.top).Subperm l.top)
    (same : ∀ v, v ≠ c → (m.under v).Subperm (l.under v)) : m.Apart ∧
      ∀ v, m.Shows v → v = made ∨ l.Shows v := by
  let under := Function.update l.under c others
  let taken : Layout := ⟨cur :: l.top,under⟩
  have underSame {v : Value} (differ : v ≠ c) : under v = l.under v := Function.update_of_ne differ _ _
  have underHere : under c = others := Function.update_self _ _ _
  have differ : some c ≠ none := by simp
  -- the container that was read comes out of its place
  have leaves : ([cur] ++ taken.held (some c)).Subperm (l.held (some c)) := by
    simp only [held,taken,underHere]
    exact before
  have takes : taken.Apart ∧ ∀ v, taken.Shows v → l.Shows v := by
    have comes : (taken.held none).Subperm ([cur] ++ l.held none) := .refl _
    have others (h : Option Value) (other : h ≠ some c) (notTop : h ≠ none) (_ : l.Open h) :
        (taken.held h).Subperm (l.held h) := by
      cases h with
      | none => exact absurd rfl notTop
      | some v =>
        simp only [held,taken,underSame fun same => other (congrArg some same)]
        exact .refl _
    have open' : l.Open (some c) := shown
    refine ⟨apart.move differ open' ?_ leaves comes others,
      fun v shown => shows_of_move open' leaves comes others shown⟩
    rintro v (here | here)
    · exact Option.some.inj here ▸ mutable
    · cases here
  have curShown : l.Shows cur := .under shown (before.subset List.mem_cons_self)
  have notSelf : cur ≠ c := by
    rintro rfl
    exact apart.not_within shown (.itself mutable) (before.subset List.mem_cons_self)
  have madeNot : made ≠ c := by
    rintro rfl
    exact fresh shown
  -- its members and the payload are in the new container, in hand
  let taking : Layout := ⟨made :: m.top,under⟩
  have fits : (under made).Subperm (under cur ++ payload) := by
    rw [underSame madeNot,underSame notSelf]
    exact parts
  have exchanged : taking.Apart ∧ ∀ v, taking.Shows v → v = made ∨ taken.Shows v :=
    takes.1.exchange ((List.subperm_cons cur).mpr top) (fun shown => fresh (takes.2 made shown)) fits
      (.refl _)
  -- the new container comes to the place
  have leaves : ([made] ++ m.held none).Subperm (taking.held none) := .refl _
  have comes : (m.held (some c)).Subperm ([made] ++ taking.held (some c)) := by
    simp only [held,taking,underHere]
    exact after
  have shows {v : Value} (shown : taking.Shows v) : v = made ∨ l.Shows v :=
    (exchanged.2 v shown).imp_right (takes.2 v)
  have others (h : Option Value) (notTop : h ≠ none) (other : h ≠ some c) (_ : taking.Open h) :
      (m.held h).Subperm (taking.held h) := by
    cases h with
    | none => exact absurd rfl notTop
    | some v =>
      have differ : v ≠ c := fun same => other (congrArg some same)
      simp only [held,taking,underSame differ]
      exact same v differ
  have open' : taking.Open none := trivial
  refine ⟨exchanged.1.move differ.symm open' ?_ leaves comes others,
    fun v shown => shows (shows_of_move open' leaves comes others shown)⟩
  rintro v (here | here)
  · cases here
  · exact Option.some.inj here ▸ mutable

end Layout

namespace Runtime

/-- A new container is about to take the place of what was read. It holds no more than that and a
payload in hand, and is held by nothing yet. -/
structure Swapping (base : Runtime) (spot : Spot) (made : Value) (payload spare : List Value)
    (r : Runtime) : Prop where
  tidy : base.Tidy (payload ++ spare) r
  something : spot ≠ .null
  parts : ∀ cur, spot = .value cur → cur.isContainer = true ∧
    (r.store.parts made).Subperm (r.store.parts cur ++ payload.filter (·.isContainer))
  hidden : ¬ (r.besides (payload ++ spare)).Shows made
  mutable : made.isMutable = true
  new : base.New r made
  inside : made.Inside r.store

namespace Swapping

variable {base r : Runtime} {spot : Spot} {made : Value} {payload spare : List Value}
  (swapping : base.Swapping spot made payload spare r)
include swapping

/-- Without the new container everything stays as it was. -/
theorem kept : base.Tidy spare r := swapping.tidy.drop

theorem fill {s : Store} {shelf : Shelf} {a : Address} {o : Object}
    (puts : r.store.Puts s shelf a o) (notScope : Shelf.scope ≠ shelf) {c : Value}
    (here : c.spot? = some (shelf,a)) (mutable : c.isMutable = true)
    (comes : ∀ v ∈ s.members c, v = made ∨ v ∈ r.store.members c)
    (swaps : (r.besides (payload ++ spare)).Shows c → ∃ cur others, spot = .value cur ∧
      (r.store.members c).Perm (cur :: others) ∧ (s.members c).Perm (made :: others)) :
    base.Tidy spare { r with store := s } := by
  have tidy := swapping.tidy
  have elsewhere {w : Value} (other : w ≠ c) : s.members w = r.store.members w :=
    puts.members fun there => other (Value.spot_inj there here)
  have sizes (shelf : Shelf) : r.store.sizeOf shelf ≤ s.sizeOf shelf :=
    Nat.le_of_eq (puts.sizes shelf).symm
  have scopes := puts.scopes notScope
  have fenced : s.Fenced := by
    refine tidy.fenced.keep scopes sizes fun w b member => ?_
    by_cases other : w = c
    · subst other
      obtain rfl | member := comes _ member
      · cases swapping.mutable
      · exact tidy.fenced.tuples w b member
    · rw [elsewhere other] at member
      exact tidy.fenced.tuples w b member
  let full : Runtime := { r with store := s }
  have same (w : Value) (other : w ≠ c) :
      ((full.besides spare).under w).Subperm ((r.besides (payload ++ spare)).under w) := by
    have members : full.store.members w = r.store.members w := elsewhere other
    simp only [besides,Store.layout,Store.parts,members]
    exact .refl _
  have top : (payload.filter (·.isContainer) ++ (full.besides spare).top).Subperm
      (r.besides (payload ++ spare)).top := (filter_hand _ (r.roots.map (·.2)) payload spare).subperm
  by_cases shown : (r.besides (payload ++ spare)).Shows c
  · obtain ⟨cur,others,found,before,after⟩ := swaps shown
    obtain ⟨container,parts⟩ := swapping.parts cur found
    have before := (before.symm.filter (·.isContainer)).subperm
    rw [List.filter_cons,if_pos container] at before
    have after := (after.filter (·.isContainer)).subperm
    rw [List.filter_cons,if_pos (Value.isContainer_of_isMutable swapping.mutable)] at after
    obtain ⟨apart,shows⟩ := tidy.apart.replace shown mutable swapping.hidden parts before after top same
    refine tidy.change sizes fenced scopes apart fun v shown => ?_
    obtain rfl | shown := shows v shown
    · refine .inr ⟨swapping.new,fun shelf b there => ?_⟩
      exact Nat.lt_of_lt_of_le (swapping.inside shelf b there) (sizes shelf)
    · exact .inl shown
  · refine tidy.of_less sizes fenced scopes ?_ fun v held => ?_
    · exact (List.sublist_append_right _ _).subperm.trans top
    · exact same v (by rintro rfl; exact shown held)

/-- A shown dictionary is written where it was read; another one may be written anywhere. -/
theorem insert (a : Address) (key : Key) (label : Value)
    (held : (r.besides (payload ++ spare)).Shows (.dict a) →
      spot = .value ((r.store.dictAt a).get key)) : base.Tidy spare
        { r with store := r.store.putDict a ((r.store.dictAt a).insert key label made) } := by
  have puts := r.store.putDict_puts a ((r.store.dictAt a).insert key label made)
  have here : (Value.dict a).spot? = some (.dict,a) := rfl
  obtain ⟨rest,before,after⟩ := Dict.insert_values (r.store.dictAt a) key label made
  have members (inside : a < r.store.sizeOf .dict) :
      (r.store.putDict a ((r.store.dictAt a).insert key label made)).members (.dict a) =
        Dict.values ((r.store.dictAt a).insert key label made) := by
    have stored := Object.entries.inj (puts.object inside)
    simp only [Store.members,Store.mapping?,stored]
  refine swapping.fill puts (by decide) here rfl (fun v member => ?_) fun shown => ?_
  · by_cases inside : a < r.store.sizeOf .dict
    · rw [members inside] at member
      obtain same | member := List.mem_cons.mp (after.subset member)
      · exact .inl same
      · exact .inr (before.symm.subset (List.mem_append_right _ member))
    · rw [Store.members_outside here (by rw [puts.sizes]; exact Nat.le_of_not_lt inside)] at member
      cases member
  · have inside := swapping.tidy.inside _ shown .dict a rfl
    have found := held shown
    rw [Dict.get] at found
    cases entry : (r.store.dictAt a).get? key with
    | none =>
      rw [entry] at found
      exact absurd found swapping.something
    | some cur =>
      rw [entry] at found before
      exact ⟨cur,rest,found,before,members inside ▸ after⟩

theorem setItem (a : Address) {place : Nat} {cur : Value} (found : spot = .value cur)
    (held : (r.store.listAt a)[place]? = some cur) :
    base.Tidy spare { r with store := r.store.putList a ((r.store.listAt a).set place made) } := by
  have puts := r.store.putList_puts a ((r.store.listAt a).set place made)
  have here : (Value.list a).spot? = some (.list,a) := rfl
  obtain ⟨within,rfl⟩ := List.getElem?_eq_some_iff.mp held
  have before := List.getElem_cons_eraseIdx_perm within
  have after := List.set_perm_cons_eraseIdx within made
  have inside : a < r.store.sizeOf .list :=
    ActionBatch.list_inside (List.ne_nil_of_length_pos (Nat.zero_lt_of_lt within))
  have members : (r.store.putList a ((r.store.listAt a).set place made)).members (.list a) =
      (r.store.listAt a).set place made := by
    have stored := Object.items.inj (puts.object inside)
    simp only [Store.members,Store.mapping?,Store.sequence?,stored]
  refine swapping.fill puts (by decide) here rfl (fun v member => ?_) fun _ => ?_
  · rw [members] at member
    obtain same | member := List.mem_cons.mp (after.subset member)
    · exact .inl same
    · exact .inr (List.mem_of_mem_eraseIdx member)
  · rw [members]
    exact ⟨_,_,found,before.symm,after⟩

theorem setRoot (name : String) (found : spot = .value (Value.ofOption (r.rootValue? name))) :
    base.Tidy spare (r.setRoot name made) := by
  have tidy := swapping.tidy
  obtain ⟨rest,before,after⟩ := Named.set_values r.roots name made
  have found' : spot = .value (Value.ofOption (r.roots.lookup name)) := found
  cases held : r.roots.lookup name with
  | none =>
    rw [held] at found'
    exact absurd found' swapping.something
  | some cur =>
    rw [held] at found' before
    obtain ⟨container,parts⟩ := swapping.parts cur found'
    have madeContainer := Value.isContainer_of_isMutable swapping.mutable
    have leaves : (cur :: (payload.filter (·.isContainer) ++ (rest ++ spare).filter (·.isContainer))).Subperm
        (r.besides (payload ++ spare)).top := by
      have order := (before.append_right (payload ++ spare)).filter (·.isContainer)
      have hand := filter_hand (·.isContainer) rest payload spare
      rw [Option.toList_some,List.singleton_append,List.cons_append,List.filter_cons,
        if_pos container] at order
      exact ((hand.cons cur).trans order.symm).subperm
    have onTop : ((r.setRoot name made).besides spare).top.Subperm
        (made :: (rest ++ spare).filter (·.isContainer)) := by
      have order := (after.append_right spare).filter (·.isContainer)
      rw [List.cons_append,List.filter_cons,if_pos madeContainer] at order
      exact order.subperm
    obtain ⟨apart,shows⟩ := tidy.apart.exchange leaves swapping.hidden parts onTop
    refine tidy.change (fun _ => Nat.le_refl _) tidy.fenced (.refl _) apart fun v shown => ?_
    obtain rfl | shown := shows v shown
    · exact .inr ⟨swapping.new,swapping.inside⟩
    · exact .inl shown

end Swapping
end Runtime
end PageRuntime
