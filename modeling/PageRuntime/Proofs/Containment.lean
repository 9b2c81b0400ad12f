import PageRuntime.Value.Cycle
import PageRuntime.Proofs.LikeCopies
import PageRuntime.Proofs.Tidy

/-! What lies inside a value. The search for a cycle keeps only the containers on its way, and finds
one exactly when some container in the value contains itself: a way without repetition is no longer
than the store has containers, so the search has fuel enough. -/
namespace PageRuntime
namespace Store

/-- What is held within a value, at any depth. -/
inductive Within (s : Store) (v : Value) : Value → Prop
  | self : Within s v v
  | member {outer inner : Value} (within : Within s v outer) (held : inner ∈ s.members outer) :
      Within s v inner

/-- A mapping or sequence in the value, which may be the value, holds something that it lies in. -/
def Cyclic (s : Store) (v : Value) : Prop := ∃ c, s.Within v c ∧ ∃ w ∈ s.members c, s.Within w c

variable {s : Store} {v w : Value}

theorem Within.of_held {u : Value} (held : w ∈ s.members v) (within : s.Within w u) :
    s.Within v u := by
  induction within with
  | self => exact .member .self held
  | member _ held ih => exact .member ih held

theorem Within.first {u : Value} (within : s.Within v u) :
    u = v ∨ ∃ w ∈ s.members v, s.Within w u := by
  induction within with
  | self => exact .inl rfl
  | member _ held ih =>
    obtain rfl | ⟨w,first,within⟩ := ih
    · exact .inr ⟨_,held,.self⟩
    · exact .inr ⟨w,first,.member within held⟩

theorem Within.trans {u : Value} (within : s.Within v w) (inner : s.Within w u) : s.Within v u := by
  induction inner with
  | self => exact within
  | member _ held ih => exact .member ih held

theorem Within.present {r : Runtime} (closed : r.Closed) {v w : Value} (present : v.Present r.store)
    (within : r.store.Within v w) : w.Present r.store := by
  cases within with
  | self => exact present
  | member _ held => exact closed.members held

theorem members_of_leaf (leaf : (v.isMapping || v.kind == .sequence) = false) :
    s.members v = [] := by
  cases v <;> first | rfl | cases leaf

theorem isContainer_of_held (held : w ∈ s.members v) :
    (v.isMapping || v.kind == .sequence) = true := by
  by_contra leaf
  rw [members_of_leaf (Bool.not_eq_true _ ▸ leaf)] at held
  cases held

theorem containers_of_held (held : w ∈ s.members v) : v ∈ s.containers := by
  have place {shelf : Shelf} {a : Address} (here : v.spot? = some (shelf,a)) :
      a < s.sizeOf shelf := by
    by_contra outside
    rw [members_outside here (Nat.le_of_not_lt outside)] at held
    cases held
  cases v with
  | list a => exact mem_containers rfl (place rfl) (by simp)
  | tuple a => exact mem_containers rfl (place rfl) (by simp)
  | dict a => exact mem_containers rfl (place rfl) (by simp)
  | frozen a => exact mem_containers rfl (place rfl) (by simp)
  | _ => cases held

theorem Cyclic.of_held (held : w ∈ s.members v) (cyclic : s.Cyclic w) : s.Cyclic v := by
  obtain ⟨c,within,turn⟩ := cyclic
  exact ⟨c,within.of_held held,turn⟩

/-- Every container on the way holds the value, so one that is met again contains itself. -/
theorem cyclic_of_cyclicWithin (fuel : Nat) : ∀ {active : List Value} {v : Value},
    s.Nested fuel active → (∀ c ∈ active, ∃ w ∈ s.members c, s.Within w v) →
    s.cyclicWithin fuel active v = true → s.Cyclic v := by
  induction fuel with
  | zero =>
    intro active v nested
    obtain ⟨less,impossible⟩ := nested.pos
    cases impossible
  | succ fuel ih =>
    intro active v nested around found
    unfold cyclicWithin at found
    split at found
    · rw [Bool.or_eq_true,List.any_eq_true] at found
      by_cases again : active.contains v = true
      · exact ⟨v,.self,around v (List.contains_iff_mem.mp again)⟩
      · obtain ⟨w,held,found⟩ := found.resolve_left again
        have inner := nested.inner (Bool.not_eq_true _ ▸ again) (containers_of_held held)
        refine .of_held held (ih inner (fun c on => ?_) found)
        obtain rfl | on := List.mem_cons.mp on
        · exact ⟨w,held,.self⟩
        · obtain ⟨first,holds,within⟩ := around c on
          exact ⟨first,holds,.member within held⟩
    · cases found

theorem acc_of_cyclicWithin (fuel : Nat) : ∀ {active : List Value} {v : Value},
    s.cyclicWithin fuel active v = false → Acc (fun w v => w ∈ s.members v) v := by
  induction fuel with
  | zero =>
    intro active v none
    cases none
  | succ fuel ih =>
    intro active v none
    refine ⟨v,fun w held => ?_⟩
    unfold cyclicWithin at none
    rw [if_pos (isContainer_of_held held),Bool.or_eq_false_iff,List.any_eq_false] at none
    exact ih (Bool.not_eq_true _ ▸ none.2 w held)

theorem Within.acc (ends : Acc (fun w v => w ∈ s.members v) v) (within : s.Within v w) :
    Acc (fun w v => w ∈ s.members v) w := by
  induction within with
  | self => exact ends
  | member _ held ih => exact ih.inv held

theorem not_cyclic_of_acc (ends : Acc (fun w v => w ∈ s.members v) v) : ¬ s.Cyclic v := by
  rintro ⟨c,within,turn⟩
  induction within.acc ends with
  | intro c _ ih =>
    -- Going around once more, what the container holds contains itself as well.
    obtain ⟨w,held,inner⟩ := turn
    refine ih w held (.member within held) ?_
    obtain rfl | ⟨u,first,onward⟩ := inner.first
    · exact ⟨c,held,.self⟩
    · exact ⟨u,first,.member onward held⟩

theorem hasCycle_iff (s : Store) (v : Value) : s.hasCycle v = true ↔ s.Cyclic v := by
  constructor
  · exact cyclic_of_cyclicWithin _ ⟨.nil,by simp,by simp⟩ (by simp)
  · intro cyclic
    by_contra none
    exact not_cyclic_of_acc (acc_of_cyclicWithin _ (Bool.not_eq_true _ ▸ none)) cyclic

end Store
end PageRuntime
