import PageRuntime.ActionBatch
import PageRuntime.Proofs.Copies
import PageRuntime.Proofs.TidySetops

/-! Copies in tidy runtimes. The copy of a value is in hand: it holds nothing but what was made for
it, and what holds nothing that can change. -/
namespace PageRuntime

/-- A tuple is one of the store. -/
def Value.Fenced (s : Store) (v : Value) : Prop := ∀ a, v = .tuple a → a < s.tuples.size

theorem Value.Fenced.mono {s after : Store} {v : Value} (fenced : v.Fenced s)
    (wider : s.tuples.size ≤ after.tuples.size) : v.Fenced after :=
  fun a same => Nat.lt_of_lt_of_le (fenced a same) wider

theorem Store.Fenced.member {s : Store} (fenced : s.Fenced) {v w : Value} (member : w ∈ s.members v) :
    w.Fenced s := by
  rintro a rfl
  exact fenced.tuples v a member

namespace Layout

variable {l m : Layout} {v : Value} (top : m.top.Subperm (v :: l.top)) (under : m.under = l.under)
  (empty : l.under v = [])
include top under empty

theorem shows_of_leaf {w : Value} (shown : m.Shows w) : w = v ∨ l.Shows w := by
  induction shown with
  | top member =>
    obtain rfl | member := List.mem_cons.mp (top.subset member)
    · exact .inl rfl
    · exact .inr (.top member)
  | @under u w _ member ih =>
    rw [under] at member
    obtain rfl | ih := ih
    · rw [empty] at member
      cases member
    · exact .inr (.under ih member)

/-- What can never change and holds nothing may be put on top however often it is held. -/
theorem Apart.leaf (apart : l.Apart) (fixed : v.isMutable = false) : m.Apart := by
  have bears {w : Value} (here : m.Bears w) : l.Bears w := by
    induction here with
    | itself mutable => exact .itself mutable
    | under member _ ih => exact .under (under ▸ member) ih
  have differ {w : Value} (here : l.Bears w) : v ≠ w := by
    rintro rfl
    cases here with
    | itself mutable => rw [fixed] at mutable; cases mutable
    | under member _ => rw [empty] at member; cases member
  have less (h : Option Value) {w : Value} (here : l.Bears w) :
      (m.held h).count w ≤ (l.held h).count w := by
    cases h with
    | none =>
      have most := top.count_le w
      rwa [List.count_cons_of_ne (differ here)] at most
    | some u => exact Nat.le_of_eq (congrArg (fun under : Value → List Value => (under u).count w) under)
  have opens {h : Option Value} (holds : m.Open h) : l.Open h ∨ l.held h = [] := by
    cases h with
    | none => exact .inl trivial
    | some u =>
      obtain rfl | shown := shows_of_leaf top under empty holds
      · exact .inr empty
      · exact .inl shown
  refine apart_of ?_ ?_
  · intro h w holds _ here
    have here := bears here
    have less := less h here
    obtain holds | none := opens holds
    · exact Nat.le_trans less (apart.once h w holds here)
    · rw [none] at less
      exact Nat.le_trans less (Nat.zero_le 1)
  · intro h k w apartFrom holds other _ here
    have here := bears here
    have first := less h here
    have second := less k here
    have one (x : Option Value) (holds : m.Open x) : (l.held x).count w ≤ 1 := by
      obtain holds | none := opens holds
      · exact apart.once x w holds here
      · rw [none]
        exact Nat.zero_le 1
    obtain holds | none := opens holds
    · obtain other | none := opens other
      · have most := apart.alone h k w apartFrom holds other here
        omega
      · rw [none,List.count_nil] at second
        have most := apart.once h w holds here
        omega
    · rw [none,List.count_nil] at first
      have most := one k other
      omega

end Layout

namespace Runtime

variable {base r : Runtime} {spare : List Value}

/-- An empty tuple may be in hand at any time. -/
theorem Tidy.leaf (tidy : base.Tidy spare r) {a : Address} (inside : a < r.store.tuples.size)
    (empty : r.store.tupleAt a = []) : base.Tidy (.tuple a :: spare) r := by
  have none : (r.besides spare).under (.tuple a) = [] := by
    have members : r.store.members (.tuple a) = [] := by
      simp only [Store.members,Store.mapping?,Store.sequence?,empty]
    simp only [besides,Store.layout,Store.parts,members,List.filter_nil]
  have order := filter_hand (·.isContainer) (r.roots.map (·.2)) [.tuple a] spare
  have top : (r.besides (.tuple a :: spare)).top.Subperm (.tuple a :: (r.besides spare).top) :=
    order.symm.subperm
  have shows {v : Value} (shown : (r.besides (.tuple a :: spare)).Shows v) :
      v = .tuple a ∨ (r.besides spare).Shows v := Layout.shows_of_leaf top rfl none shown
  refine ⟨tidy.wider,tidy.fenced,fun v shown => ?_,tidy.apart.leaf top rfl none rfl,
    fun v shown mutable => ?_,fun scope within shown => ?_⟩
  · obtain rfl | shown := shows shown
    · rintro shelf b ⟨⟩
      exact inside
    · exact tidy.inside v shown
  · obtain rfl | shown := shows shown
    · cases mutable
    · exact tidy.earlier v shown mutable
  · obtain same | shown := shows shown
    · cases same
    · exact tidy.unbound scope within shown

variable {α β : Type}

/-- What is made from a store on is in hand, and no tuples are lost. -/
def Yields (base r : Runtime) (s : Store) (hand : β → List Value)
    (result : Except Fault (β × Store)) : Prop :=
  ∀ spare y after, result = .ok (y,after) → base.Tidy spare { r with store := s } →
    base.Tidy (hand y ++ spare) { r with store := after } ∧ s.tuples.size ≤ after.tuples.size

theorem mapStore_yields {of : α → Value} {hand : β → Value}
    {step : α → Store → Except Fault (β × Store)}
    (steps : ∀ x s, (of x).Fenced s → base.Yields r s (fun y => [hand y]) (step x s)) :
    ∀ (items : List α) (s : Store), (∀ x ∈ items, (of x).Fenced s) →
      base.Yields r s (fun ys => ys.map hand) (Store.mapStore step items s)
  | [], s, _ => by
    intro spare ys after ran tidy
    cases ran
    exact ⟨tidy,Nat.le_refl _⟩
  | x :: rest, s, fenced => by
    intro spare ys after ran tidy
    obtain ⟨⟨y,mid⟩,made,ran⟩ := ok_of_bind ran
    obtain ⟨⟨ys,last⟩,rests,ran⟩ := ok_of_bind ran
    cases ran
    obtain ⟨here,wider⟩ := steps x s (fenced x List.mem_cons_self) spare y mid made tidy
    obtain ⟨later,widest⟩ := mapStore_yields steps rest mid
      (fun x member => (fenced x (List.mem_cons_of_mem _ member)).mono wider) _ ys _ rests here
    exact ⟨later.less List.perm_middle.symm.subperm,Nat.le_trans wider widest⟩

theorem mapSlot_yields {step : Value → Store → Except Fault (Value × Store)} {slot : Slot} {s : Store}
    (yields : base.Yields r s (fun made => [made]) (step slot.value s)) :
    base.Yields r s (fun made => [made.value]) (Store.mapSlot step slot s) := by
  intro spare made after ran tidy
  exact yields spare made.value _ (Store.mapSlot_ok ran).1 tidy

/-- The parts of a container are copied first. Their copies are in hand until the new container is
made of them. -/
theorem copyWithin_yields (fuel : Nat) : ∀ (active : List Value) (v : Value) (s : Store),
    v.Fenced s → base.Yields r s (fun made => [made]) (Store.copyWithin fuel active v s) := by
  induction fuel with
  | zero => exact fun _ _ _ _ _ _ _ ran => by cases ran
  | succ fuel ih =>
    intro active v s fenced spare made after ran tidy
    have items {values copies : List Value} {mid : Store} (held : s.members v = values)
        (copied : Store.mapStore (Store.copyWithin fuel (v :: active)) values s = .ok (copies,mid)) :
        base.Tidy (copies ++ spare) { r with store := mid } ∧ s.tuples.size ≤ mid.tuples.size := by
      have inner := mapStore_yields (ih (v :: active)) values s
        (fun x member => tidy.fenced.member (held ▸ member)) spare copies mid copied tidy
      dsimp only at inner
      rwa [List.map_id'] at inner
    have entries {d copies : Dict} {mid : Store} (held : s.members v = Dict.values d)
        (copied : Store.mapStore (Store.mapSlot (Store.copyWithin fuel (v :: active))) d s =
          .ok (copies,mid)) :
        base.Tidy (.dict mid.dicts.size :: spare) { r with store := (mid.newDict copies).2 } ∧
          s.tuples.size ≤ mid.tuples.size := by
      have slots (slot : Slot) (s : Store) (fenced : slot.value.Fenced s) :=
        mapSlot_yields (ih (v :: active) slot.value s fenced)
      have fenced (slot : Slot) (member : slot ∈ d) : slot.value.Fenced s := by
        have within : slot.value ∈ s.members v := by
          rw [held]
          exact List.mem_map_of_mem member
        exact tidy.fenced.member within
      have inner := mapStore_yields slots d s fenced spare copies mid copied tidy
      exact ⟨inner.1.newDict,inner.2⟩
    cases Store.copyWithin_step ran with
    | same plain => exact ⟨tidy.plain plain,Nat.le_refl _⟩
    | empty nothing => exact ⟨tidy.leaf (fenced _ rfl) nothing,Nat.le_refl _⟩
    | blob => exact ⟨tidy.newBlob _,Nat.le_refl _⟩
    | list copied =>
      obtain ⟨inner,wider⟩ := items rfl copied
      exact ⟨inner.newList,wider⟩
    | tuple copied =>
      obtain ⟨inner,wider⟩ := items rfl copied
      refine ⟨inner.newTuple,Nat.le_trans wider ?_⟩
      exact (Store.Grew.of_adds (Store.newTuple_adds _ _)).sizeOf_le .tuple
    | mapping mapping copied =>
      refine entries ?_ copied
      cases v with
      | dict a => rfl
      | frozen a => rfl
      | _ => cases mapping

end Runtime

namespace ActionBatch

/-- The copy of a value is in hand, unless it has none. -/
theorem copyOf_hands {base r : Runtime} {spare : List Value} (tidy : base.Tidy spare r) {v : Value}
    (fenced : v.Fenced r.store) :
    base.Tidy ((copyOf v r).1.yields (fun made => [made]) ++ spare) (copyOf v r).2 := by
  rw [copyOf,Step.bind_done (Act.store_run r)]
  cases copies : r.store.deepCopy v with
  | error fault => exact tidy.spreads (Act.OnlySpreads.fail fault r)
  | ok made => exact (Runtime.copyWithin_yields _ _ v _ fenced spare _ _ copies tidy).1

end ActionBatch
end PageRuntime
