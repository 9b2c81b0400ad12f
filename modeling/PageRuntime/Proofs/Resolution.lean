import PageRuntime.Proofs.Stages
import PageRuntime.Reference.Reading

/-! Reading through references is independent of fuel. A reading that comes to an end enters each
handle at most once, so the fuel that a store is given decides every reading: more of it changes
nothing, and what a handle refers to satisfies the equation that defines it. -/
namespace PageRuntime

theorem ok_of_bind {ε α β : Type} {first : Except ε α} {next : α → Except ε β} {y : β}
    (ok : first >>= next = .ok y) : ∃ x, first = .ok x ∧ next x = .ok y := by
  cases first with
  | error fault => cases ok
  | ok x => exact ⟨x,rfl,ok⟩

/-- A result is reached by another if it is the same or was only cut short. -/
def Reaches {α : Type} (result other : Except Fault α) : Prop :=
  result = .error endlessReference ∨ result = other

namespace Reaches

variable {α β : Type} {result other third : Except Fault α}

theorem refl (result : Except Fault α) : Reaches result result := .inr rfl

theorem trans (first : Reaches result other) (second : Reaches other third) :
    Reaches result third := by
  obtain cut | rfl := first
  · exact .inl cut
  · exact second

theorem bind {next nextOther : α → Except Fault β} (first : Reaches result other)
    (later : ∀ x, Reaches (next x) (nextOther x)) :
    Reaches (result >>= next) (other >>= nextOther) := by
  obtain rfl | rfl := first
  · exact .inl rfl
  · cases result with
    | error fault => exact refl _
    | ok x => exact later x

theorem ok {x : α} (reached : Reaches (.ok x) other) : other = .ok x := by
  obtain cut | same := reached
  · cases cut
  · exact same.symm

end Reaches

theorem Spot.follow_direct (resolve : Address → Except Fault Spot) {spot : Spot}
    (direct : ∀ a, spot ≠ .value (.ref a)) : spot.follow resolve = .ok spot := by
  unfold follow
  split
  · exact absurd rfl (direct _)
  · rfl

section

variable {resolve more : Address → Except Fault Spot} (reaches : ∀ a, Reaches (resolve a) (more a))
include reaches

theorem Spot.follow_reaches (spot : Spot) : Reaches (spot.follow resolve) (spot.follow more) := by
  unfold Spot.follow
  split
  · exact reaches _
  · exact .refl _

theorem Spot.walk_reaches (s : Store) (keys : List Segment) (spot : Spot) :
    Reaches (spot.walk resolve s keys) (spot.walk more s keys) := by
  induction keys generalizing spot with
  | nil => exact .refl _
  | cons key rest ih =>
    refine .bind (.bind (spot.follow_reaches reaches) fun _ => .refl _) fun next => ?_
    split
    · exact .refl _
    · exact ih _

theorem Runtime.readHandle_reaches (r : Runtime) (handle : Handle) :
    Reaches (r.readHandle resolve handle) (r.readHandle more handle) := by
  cases handle with
  | path scope path locked =>
    exact .bind (.refl _) fun start => .bind (start.walk_reaches reaches _ _) fun last =>
      last.follow_reaches reaches
  | sub parent key => exact .bind (reaches parent) fun container => Spot.follow_reaches reaches _
  | locked inner => exact reaches inner
  | cell v label => exact Spot.follow_reaches reaches _

end

/-- A function on handles, of which each entry into a handle is decided by `body` in terms of what
one entry less decides. -/
structure Unrolls (body : (Address → Except Fault Spot) → Address → Except Fault Spot) (size : Nat)
    (within : Nat → Address → Except Fault Spot) : Prop where
  zero : ∀ a, within 0 a = .error endlessReference
  succ : ∀ fuel a, within (fuel + 1) a = body (within fuel) a
  mono : ∀ resolve more : Address → Except Fault Spot, (∀ a, Reaches (resolve a) (more a)) →
    ∀ a, Reaches (body resolve a) (body more a)
  outside : ∀ resolve a, size ≤ a → body resolve a ≠ .error endlessReference

namespace Unrolls

variable {body : (Address → Except Fault Spot) → Address → Except Fault Spot} {size : Nat}
  {within : Nat → Address → Except Fault Spot} (unrolls : Unrolls body size within)
include unrolls

theorem step (fuel : Nat) (a : Address) : Reaches (within fuel a) (within (fuel + 1) a) := by
  induction fuel generalizing a with
  | zero => exact .inl (unrolls.zero a)
  | succ fuel ih =>
    rw [unrolls.succ,unrolls.succ (fuel + 1)]
    exact unrolls.mono _ _ ih a

theorem reaches {fuel more : Nat} (enough : fuel ≤ more) (a : Address) :
    Reaches (within fuel a) (within more a) := by
  induction enough with
  | refl => exact .refl _
  | step _ ih => exact ih.trans (unrolls.step _ a)

/-- Fuel decides in stages: what one more entry decides depends on what was decided. -/
theorem staged :
    Staged (fun fuel a => within fuel a ≠ .error endlessReference) (Finset.range size) where
  grows fuel a decided := by
    obtain cut | same := unrolls.step fuel a
    · exact absurd cut decided
    · rwa [← same]
  closes fuel back a decided := by
    have same : within (fuel + 1) = within fuel := by
      funext a
      obtain cut | equal := unrolls.step fuel a
      · have cutNext : within (fuel + 1) a = .error endlessReference :=
          Classical.not_not.mp fun decided => back a decided cut
        rw [cutNext,cut]
      · exact equal.symm
    rw [unrolls.succ] at decided ⊢
    rwa [same] at decided
  inside fuel a decided undecided := by
    simp only [Finset.mem_range]
    refine Nat.lt_of_not_le fun outside => undecided ?_
    rw [unrolls.succ]
    exact unrolls.outside _ a outside

theorem stable (fuel : Nat) (a : Address) : Reaches (within fuel a) (within (size + 1) a) := by
  by_cases cut : within fuel a = .error endlessReference
  · exact .inl cut
  · have decided := unrolls.staged.stable fuel a cut
    rw [Finset.card_range] at decided
    obtain few | more := Nat.le_total fuel (size + 1)
    · exact unrolls.reaches few a
    · obtain undecided | same := unrolls.reaches more a
      · exact absurd undecided decided
      · exact .inr same.symm

theorem eq_of_enough {fuel : Nat} (enough : size + 1 ≤ fuel) : within fuel = within (size + 1) := by
  funext a
  obtain cut | same := unrolls.stable fuel a
  · obtain undecided | same := unrolls.reaches enough a
    · exact cut.trans undecided.symm
    · exact same.symm
  · exact same

theorem fixed (a : Address) : within (size + 1) a = body (within (size + 1)) a := by
  rw [← unrolls.succ,unrolls.eq_of_enough (Nat.le_succ _)]

end Unrolls

/-- A handle that was never given out is a cell that holds null. -/
theorem Store.handleAt_outside (s : Store) {a : Address} (outside : s.handles.size ≤ a) :
    s.handleAt a = .cell .null "" := by
  rw [handleAt,s.handles.get?_outside outside]
  rfl

namespace Runtime

variable (r : Runtime)

theorem handleAt_outside {a : Address} (outside : r.store.handles.size ≤ a) :
    r.store.handleAt a = .cell .null "" := r.store.handleAt_outside outside

theorem resolveWithin_unrolls : Unrolls
    (fun resolve a => r.readHandle resolve (r.store.handleAt a)) r.store.handles.size
    r.resolveWithin where
  zero _ := rfl
  succ _ _ := rfl
  mono _ _ reaches _ := r.readHandle_reaches reaches _
  outside resolve a outside := by
    rw [r.handleAt_outside outside]
    exact nofun

theorem readWithin_unrolls : Unrolls
    (fun resolve a => match r.store.handleAt a with
      | .cell v _ => .ok (.value v)
      | .locked inner => resolve inner
      | _ => r.resolve a) r.store.handles.size r.readWithin where
  zero _ := rfl
  succ _ _ := rfl
  mono _ _ reaches a := by
    split
    · exact .refl _
    · exact reaches _
    · exact .refl _
  outside resolve a outside := by
    rw [r.handleAt_outside outside]
    exact nofun

theorem resolveWithin_stable (fuel : Nat) (a : Address) :
    Reaches (r.resolveWithin fuel a) (r.resolve a) := r.resolveWithin_unrolls.stable fuel a

theorem resolveWithin_eq_resolve {fuel : Nat} (enough : r.store.handles.size + 1 ≤ fuel) :
    r.resolveWithin fuel = r.resolve := r.resolveWithin_unrolls.eq_of_enough enough

theorem readWithin_eq_readReference {fuel : Nat} (enough : r.store.handles.size + 1 ≤ fuel) :
    r.readWithin fuel = r.readReference := r.readWithin_unrolls.eq_of_enough enough

/-- What a handle refers to is what its form says, in terms of what the handles it leads through
refer to. -/
theorem resolve_eq (a : Address) : r.resolve a = r.readHandle r.resolve (r.store.handleAt a) :=
  r.resolveWithin_unrolls.fixed a

/-- No reading comes to an end at a reference. -/
theorem resolveWithin_ne_ref (fuel : Nat) (a b : Address) :
    r.resolveWithin fuel a ≠ .ok (.value (.ref b)) := by
  induction fuel generalizing a with
  | zero => exact nofun
  | succ fuel ih =>
    have settled (spot : Spot) :
        spot.follow (r.resolveWithin fuel) ≠ .ok (.value (.ref b)) := by
      unfold Spot.follow
      split
      · exact ih _
      · next other => exact fun same => other b (Except.ok.inj same)
    intro reached
    unfold resolveWithin readHandle at reached
    split at reached
    · obtain ⟨start,-,reached⟩ := ok_of_bind reached
      obtain ⟨last,-,reached⟩ := ok_of_bind reached
      exact settled last reached
    · obtain ⟨container,-,reached⟩ := ok_of_bind reached
      exact settled _ reached
    · exact ih _ reached
    · exact settled _ reached

theorem resolve_ne_ref (a b : Address) : r.resolve a ≠ .ok (.value (.ref b)) :=
  r.resolveWithin_ne_ref _ a b

end Runtime
end PageRuntime
