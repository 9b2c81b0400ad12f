import PageRuntime.Setop
import PageRuntime.Proofs.Rereading

/-! Set operations in tidy runtimes. Whatever the operation, a value in hand comes to one place at
most. Adding an item and merging entries put a new container in the place of the present one, with
what that holds. -/
namespace PageRuntime

theorem Dict.update_values (d added : Dict) :
    (Dict.values (d.update added)).Subperm (Dict.values d ++ Dict.values added) := by
  unfold Dict.update
  induction added generalizing d with
  | nil =>
    rw [List.foldl_nil]
    exact (List.sublist_append_left _ _).subperm
  | cons slot added ih =>
    obtain ⟨rest,before,after⟩ := Dict.insert_values d slot.key slot.label slot.value
    have written : (Dict.values (d.insert slot.key slot.label slot.value)).Subperm
        (slot.value :: Dict.values d) :=
      after.subperm.trans ((List.subperm_cons _).mpr
        ((List.sublist_append_right _ rest).subperm.trans before.symm.subperm))
    rw [List.foldl_cons]
    have order : (slot.value :: Dict.values d ++ Dict.values added).Perm
        (Dict.values d ++ Dict.values (slot :: added)) := List.perm_middle.symm
    exact ((ih _).trans ((List.subperm_append_right _).mpr written)).trans order.subperm

namespace Store

theorem members_of_sequence {s : Store} {v : Value} {items : List Value}
    (held : s.sequence? v = some items) : v.isContainer = true ∧ s.members v = items := by
  cases v <;> cases held <;> exact ⟨rfl,rfl⟩

theorem members_of_mapping {s : Store} {v : Value} {d : Dict} (held : s.mapping? v = some d) :
    v.isContainer = true ∧ s.members v = Dict.values d := by
  cases v <;> cases held <;> exact ⟨rfl,rfl⟩

end Store

namespace Runtime

variable {base r : Runtime} {s : Store} {shelf : Shelf} {o : Object} {made : Value}

/-- An object is made that holds no tuple but those of the store. -/
theorem Spreads.of_adds (adds : r.store.Adds s shelf o) (notScope : Shelf.scope ≠ shelf)
    (here : made.spot? = some (shelf,r.store.sizeOf shelf))
    (tuples : r.store.Fenced → ∀ a, .tuple a ∈ s.members made → a < r.store.tuples.size) :
    r.Spreads { r with store := s } := by
  have grew := Store.Grew.of_adds adds
  refine ⟨⟨grew,rfl⟩,fun fenced => ?_,adds.scopes notScope⟩
  refine fenced.keep (adds.scopes notScope) grew.sizeOf_le fun v a member => ?_
  by_cases new : v = made
  · subst new
    exact tuples fenced a member
  · rw [adds.members fun there => new (Value.spot_inj there here)] at member
    exact fenced.tuples v a member

theorem Spreads.realize {spot : Spot} (given : r.store.Fenced → spot.Fenced r.store) :
    r.Spreads (spot.realize r).2 := by
  cases spot with
  | value v => exact Std.Refl.refl r
  | bindings scope => exact Act.OnlySpreads.make (fun s => s.newContext_adds scope) (by decide) r
  | items values =>
    have adds := r.store.newList_adds values
    have held : (r.store.newList values).2.listAt r.store.lists.size = values :=
      Object.items.inj adds.object
    have here : (Value.list r.store.lists.size).spot? = some (.list,r.store.lists.size) := rfl
    have members : (r.store.newList values).2.members (.list r.store.lists.size) = values := by
      simp only [Store.members,Store.mapping?,Store.sequence?,held]
    exact .of_adds adds (by decide) here fun fenced a member => given fenced a (members ▸ member)

/-- A new container that is made of what was read and of what is in hand is about to take the place
of what was read. -/
theorem Swapping.of_adds {payload spare : List Value} (tidy : base.Tidy (payload ++ spare) r)
    {spot : Spot} {current : Value} (something : spot ≠ .null)
    (read : ∀ cur, spot = .value cur → cur = current) (container : current.isContainer = true)
    (adds : r.store.Adds s shelf o) (notScope : Shelf.scope ≠ shelf)
    (here : made.spot? = some (shelf,r.store.sizeOf shelf)) (mutable : made.isMutable = true)
    (holds : (s.members made).Subperm (r.store.members current ++ payload)) :
    base.Swapping spot made payload spare { r with store := s } := by
  have lacks : r.Lacks made := by
    intro other a there
    cases here.symm.trans there
    exact Nat.le_refl _
  have spreads : r.Spreads { r with store := s } := by
    refine .of_adds adds notScope here fun fenced a member => ?_
    obtain member | member := List.mem_append.mp (holds.subset member)
    · exact fenced.tuples current a member
    · exact tidy.given (List.mem_append_left spare member) rfl .tuple a rfl
  have new := tidy.new lacks
  refine ⟨tidy.spreads spreads,something,fun cur found => ?_,fun shown => ?_,mutable,
    ⟨new.lacks,fun scope => ?_⟩,fun other a there => ?_⟩
  · obtain rfl := read cur found
    refine ⟨container,?_⟩
    rw [Store.parts,Store.parts,← List.filter_append]
    by_cases same : cur = made
    · subst same
      exact ((List.sublist_append_left _ _).filter _).subperm
    · have kept : s.members cur = r.store.members cur :=
        adds.members fun there => same (Value.spot_inj there here)
      show (List.filter _ (s.members made)).Subperm (List.filter _ (s.members cur ++ payload))
      rw [kept]
      exact holds.filter _
  · exact absurd (tidy.inside made (tidy.shows_of_spreads spreads shown) shelf _ here)
      (Nat.lt_irrefl _)
  · rw [spreads.scopes.scopeAt]
    exact new.unbound scope
  · cases here.symm.trans there
    show r.store.sizeOf shelf < s.sizeOf shelf
    rw [adds.size]
    exact Nat.lt_succ_self _

end Runtime

namespace Reference
open PageRuntime.Act (Trades Spends)

variable {scope : Address} {path : Path}

theorem Target.get_run {r : Runtime} {spot : Spot}
    (found : r.readHandle r.resolve (.path scope path false) = .ok spot) :
    (place scope path).get r = spot.realize r := by
  show (Act.ofExcept (r.readHandle r.resolve _) >>= Spot.realize) r = _
  rw [found]
  rfl

theorem Target.get_fails {r : Runtime} {fault : Fault}
    (missed : r.readHandle r.resolve (.path scope path false) = .error fault) :
    (place scope path).get r = Act.fail fault r := by
  show (Act.ofExcept (r.readHandle r.resolve _) >>= Spot.realize) r = _
  rw [missed]
  rfl

theorem Target.get_onlySpreads (scope : Address) (path : Path) :
    ((place scope path).get).OnlySpreads := by
  intro r
  cases found : r.readHandle r.resolve (.path scope path false) with
  | error fault =>
    rw [get_fails found]
    exact Act.OnlySpreads.fail fault r
  | ok spot =>
    rw [get_run found]
    exact .realize fun fenced =>
      Runtime.readHandle_fenced fenced (fun _ _ => Runtime.resolve_fenced fenced) found

/-- The location is read as the value, or as items that the value lists. -/
def Target.Reads (r : Runtime) (scope : Address) (path : Path) (current : Value) : Prop :=
  ∃ spot, r.readHandle r.resolve (.path scope path false) = .ok spot ∧ spot ≠ .null ∧
    ∀ cur, spot = .value cur → cur = current

theorem Target.get_reads {r after : Runtime} {current : Value} (fenced : r.store.Fenced)
    (ran : (place scope path).get r = (.done current,after)) (container : current.isContainer = true) :
    Reads after scope path current := by
  cases found : r.readHandle r.resolve (.path scope path false) with
  | error fault =>
    rw [get_fails found] at ran
    cases ran
  | ok spot =>
    rw [get_run found] at ran
    cases spot with
    | value v =>
      cases ran
      refine ⟨_,found,?_,fun cur same => (Spot.value.inj same).symm⟩
      rintro null
      cases null
      cases container
    | bindings scope =>
      cases ran
      cases container
    | items values =>
      cases ran
      have something : Spot.items values ≠ .null := nofun
      have adds := r.store.newList_adds values
      exact ⟨_,Runtime.readHandle_again fenced adds (.inl rfl)
        (fun _ _ => Runtime.resolve_again fenced adds (.inl rfl)) something found,something,nofun⟩

theorem Target.get_spends {given : List Value} {next : Value → Act Unit}
    (later : ∀ current after, (current.isContainer = true → Reads after scope path current) →
      (next current).SpendsAt after given) : ((place scope path).get >>= next).Spends given := by
  intro r base spare tidy
  have mid := tidy.spreads (get_onlySpreads scope path r)
  rw [Step.bind_run]
  split <;> rename_i ran <;> rw [ran] at mid
  · exact later _ _ (get_reads tidy.fenced ran) base spare mid
  · exact mid.drop
  · exact mid.drop

/-- After a location was read, a new container with what it holds and with values in hand may be
written there. -/
theorem Target.set_exchanges {base r : Runtime} {payload spare : List Value}
    (tidy : base.Tidy (payload ++ spare) r) {current : Value} (reads : Reads r scope path current)
    (container : current.isContainer = true) {s : Store} {shelf : Shelf} {o : Object}
    (adds : r.store.Adds s shelf o) (kind : shelf = .list ∨ shelf = .dict) {made : Value}
    (here : made.spot? = some (shelf,r.store.sizeOf shelf))
    (holds : (s.members made).Subperm (r.store.members current ++ payload)) :
    base.Tidy spare ((place scope path).set made { r with store := s }).2 := by
  have notScope : Shelf.scope ≠ shelf := by obtain rfl | rfl := kind <;> exact nofun
  have mutable : made.isMutable = true := by
    obtain rfl | rfl := kind <;> cases made <;> cases here <;> rfl
  obtain ⟨spot,found,something,read⟩ := reads
  have again := Runtime.readHandle_again tidy.fenced adds kind
    (fun _ _ => Runtime.resolve_again tidy.fenced adds kind) something found
  exact Target.set_swaps something again base payload spare
    (.of_adds tidy something read container adds notScope here mutable holds)

end Reference

namespace Setop
open PageRuntime.Act (Spends)
open Reference (Target)

variable (scope : Address) (path : Path) (v : Value)

theorem addItem_spends (setop : Setop) : (addItem (.place scope path) setop v).Spends [v] := by
  refine Target.get_spends fun current r reads => .store ?_
  split
  · exact fun base spare tidy => Target.set_spends scope path _ _ base spare tidy.newList
  · next items _ held =>
    obtain ⟨container,members⟩ := Store.members_of_sequence held
    have exchange (later : List Value) (order : later.Perm (items ++ [v])) :
        (Act.make (·.newList later) >>= (Target.place scope path).set).SpendsAt r [v] := by
      intro base spare tidy
      have adds := r.store.newList_adds later
      have stored : (r.store.newList later).2.listAt r.store.lists.size = later :=
        Object.items.inj adds.object
      refine Target.set_exchanges tidy (reads container) container adds (.inl rfl) rfl ?_
      rw [members]
      simp only [Store.members,Store.mapping?,Store.sequence?,stored]
      exact order.subperm
    split
    · exact exchange _ (.refl _)
    · exact exchange _ (List.perm_append_singleton v items).symm
  · exact Spends.of_spreads (.fail _) r

theorem mergeEntries_spends : (mergeEntries (.place scope path) v).Spends [v] := by
  refine Target.get_spends fun current r reads => .store ?_
  split
  · exact Target.set_spends scope path v r
  · next present added _ given held =>
    obtain ⟨container,members⟩ := Store.members_of_mapping held
    intro base spare tidy
    have opened : base.Tidy (r.store.members v ++ spare) r := Runtime.Tidy.members tidy
    have adds := r.store.newDict_adds (present.update added)
    have stored : (r.store.newDict (present.update added)).2.dictAt r.store.dicts.size =
        present.update added := Object.entries.inj adds.object
    refine Target.set_exchanges opened (reads container) container adds (.inr rfl) rfl ?_
    rw [members,(Store.members_of_mapping given).2]
    simp only [Store.members,Store.mapping?,stored]
    exact Dict.update_values present added
  · exact Spends.of_spreads (.fail _) r

theorem apply_spends (setop : Setop) : (setop.apply (.place scope path) v).Spends [v] := by
  cases setop with
  | set => exact Target.set_spends scope path v
  | setUnless =>
    refine .after (Target.get_onlySpreads scope path) fun current => ?_
    split
    · exact Target.set_spends scope path v
    · exact .pure ()
  | append => exact addItem_spends scope path v .append
  | prepend => exact addItem_spends scope path v .prepend
  | merge => exact mergeEntries_spends scope path v
  | delete =>
    intro r base spare tidy
    exact Reference.deletePath_spends scope path false r base spare tidy.drop

theorem applyNamed_spends (setop : Value) :
    (applyNamed setop (.place scope path) v).Spends [v] := by
  unfold applyNamed
  dsimp only
  split
  · exact apply_spends scope path v _
  · exact .after .store fun _ => .of_spreads (.fail _)

end Setop
end PageRuntime
