import PageRuntime.Call
import PageRuntime.Proofs.TrailsApart

/-! Fuel. A run that ends is the same with more fuel, so what a call settles to does not depend on
the fuel that it was awaited with. -/
namespace PageRuntime

variable {η : Type}

namespace Step

variable {σ α β : Type}

/-- Wherever the first step ends, the other one does as it does. -/
def Agrees (step other : Step σ α) : Prop :=
  ∀ state, (step state).1 ≠ .exhausted → other state = step state

namespace Agrees

theorem refl (step : Step σ α) : Agrees step step := fun _ _ => rfl

theorem exhaust (other : Step σ α) : Agrees Step.exhaust other := fun _ ends => absurd rfl ends

theorem bind {step other : Step σ α} {next nextOther : α → Step σ β} (agrees : Agrees step other)
    (onwards : ∀ x, Agrees (next x) (nextOther x)) : Agrees (step >>= next) (other >>= nextOther) := by
  intro state ends
  rw [bind_run] at ends
  rw [bind_run,bind_run]
  cases ran : step state with
  | mk ending mid =>
    rw [ran] at ends
    cases ending with
    | done x =>
      rw [agrees state (by rw [ran]; exact done_ends x),ran]
      exact onwards x mid ends
    | raised failure => rw [agrees state (by rw [ran]; exact raised_ends failure),ran]
    | exhausted => exact absurd rfl ends

theorem attempt {step other : Step σ α} (agrees : Agrees step other) :
    Agrees (Step.attempt step) (Step.attempt other) := by
  intro state ends
  unfold Step.attempt at ends ⊢
  cases ran : step state with
  | mk ending mid =>
    rw [ran] at ends
    cases ending with
    | done x => rw [agrees state (by rw [ran]; exact done_ends x),ran]
    | raised failure => rw [agrees state (by rw [ran]; exact raised_ends failure),ran]
    | exhausted => exact absurd rfl ends

end Agrees
end Step

namespace Handler
open Step (Agrees)

theorem framed_agrees {α : Type} {step other : Run η α} (agrees : Agrees step other) (trail : Address)
    (frame : String) : Agrees (framed trail frame step) (framed trail frame other) :=
  .bind (.refl _) fun _ => .bind agrees fun _ => .refl _

theorem runSteps_agrees {step other : Dict → Run η (Option Value)}
    (agrees : ∀ d, Agrees (step d) (other d)) :
    ∀ values, Agrees (runSteps step values) (runSteps other values)
  | [] => .refl _
  | _ :: rest => .bind (.refl _) fun _ => .bind (agrees _) fun returned => by
    cases returned with
    | some v => exact .refl _
    | none => exact runSteps_agrees agrees rest

theorem runBlock_agrees {step other : Dict → Run η (Option Value)}
    (agrees : ∀ d, Agrees (step d) (other d)) (block : Value) :
    Agrees (runBlock step block) (runBlock other block) :=
  .bind (.refl _) fun _ => runSteps_agrees agrees _

/-- Whatever ends with the one fuel ends in the same way with the other. -/
structure Suffices (host : Host η) (fuel more : Nat) : Prop where
  fire : ∀ scope event trail raising,
    Agrees (fire host fuel scope event trail raising) (fire host more scope event trail raising)
  runHandler : ∀ scope text label trail,
    Agrees (runHandler host fuel scope text label trail) (runHandler host more scope text label trail)
  reportFailure : ∀ scope report,
    Agrees (reportFailure host fuel scope report) (reportFailure host more scope report)
  runStep : ∀ scope trail step,
    Agrees (runStep host fuel scope trail step) (runStep host more scope trail step)
  settle : ∀ pending, Agrees (settle host fuel pending) (settle host more pending)
  runLocal : ∀ node data scope trail name,
    Agrees (runLocal host fuel node data scope trail name) (runLocal host more node data scope trail name)

namespace Suffices

variable {host : Host η} {fuel more : Nat} (enough : Suffices host fuel more)
include enough

theorem fire_succ (scope : Address) (event : Event) (trail : Address) (raising : Bool) :
    Agrees (Handler.fire host (fuel + 1) scope event trail raising)
      (Handler.fire host (more + 1) scope event trail raising) := by
  unfold Handler.fire
  refine .bind (.refl _) fun w => ?_
  dsimp only
  split
  · exact .refl _
  · split
    · exact .refl _
    · refine .bind (.refl _) fun running =>
        .bind (.attempt (enough.runHandler _ _ _ _)) fun result => ?_
      cases result with
      | ok v => exact .refl _
      | error failure =>
        dsimp only
        split
        · exact .refl _
        · exact .bind (.refl _) fun frames => .bind (.refl _) fun report => .bind (.refl _) fun _ =>
            .bind (enough.reportFailure _ _) fun _ => .refl _

theorem runHandler_succ (scope : Address) (text label : String) (trail : Address) :
    Agrees (Handler.runHandler host (fuel + 1) scope text label trail)
      (Handler.runHandler host (more + 1) scope text label trail) :=
  .bind (.refl _) fun block => framed_agrees (runBlock_agrees (enough.runStep scope trail) block) _ _

theorem reportFailure_succ (scope report : Address) :
    Agrees (Handler.reportFailure host (fuel + 1) scope report)
      (Handler.reportFailure host (more + 1) scope report) := by
  refine .bind (.refl _) fun w => ?_
  dsimp only
  split
  · exact .refl _
  · refine .bind (.refl _) fun trail => .bind (.attempt (enough.fire _ _ _ _)) fun result => ?_
    cases result with
    | ok _ => exact .refl _
    | error failure => exact .refl _

theorem runStep_succ (scope trail : Address) (step : Dict) :
    Agrees (Handler.runStep host (fuel + 1) scope trail step)
      (Handler.runStep host (more + 1) scope trail step) := by
  unfold Handler.runStep
  refine .bind (.refl _) fun w => ?_
  dsimp only
  -- only events and calls nest
  split
  · exact .refl _
  split
  · exact .refl _
  split
  · exact .bind (.refl _) fun event => .bind (enough.fire _ _ _ _) fun _ => .refl _
  split
  · exact .bind (.refl _) fun arguments =>
      .bind (framed_agrees (.bind (.refl _) enough.settle) _ _) fun v => .refl _
  · exact .refl _

theorem answerOf_agrees (pending : Pending) :
    Agrees (answerOf host fuel pending) (answerOf host more pending) := by
  cases pending with
  | localBlock node name request =>
    refine .bind (.refl _) fun scope => ?_
    dsimp only
    split <;> exact .bind (.refl _) fun trail => enough.runLocal _ _ _ _ _
  | custom token request => exact .refl _
  | fetch plan request => exact .refl _

theorem settle_succ (pending : Pending) :
    Agrees (Handler.settle host (fuel + 1) pending) (Handler.settle host (more + 1) pending) := by
  rw [settle_eq,settle_eq]
  exact .bind (enough.answerOf_agrees pending) fun answer => .refl _

theorem runLocal_succ (node : Address) (data : Value) (scope trail : Address) (name : String) :
    Agrees (Handler.runLocal host (fuel + 1) node data scope trail name)
      (Handler.runLocal host (more + 1) node data scope trail name) :=
  .bind (.refl _) fun _ => framed_agrees (.bind (.refl _) fun _ => .bind (.refl _) fun _ =>
    .bind (.refl _) fun block => runBlock_agrees (enough.runStep _ _) block) _ _

end Suffices

/-- The functions that run handlers use the fuel for one another only. -/
theorem suffices_of_le (host : Host η) : ∀ {fuel more : Nat}, fuel ≤ more → Suffices host fuel more
  | 0, _, _ => ⟨fun _ _ _ _ => .exhaust _,fun _ _ _ _ => .exhaust _,fun _ _ => .exhaust _,
    fun _ _ _ => .exhaust _,fun _ => .exhaust _,fun _ _ _ _ _ => .exhaust _⟩
  | _ + 1, _ + 1, less =>
    have inner := suffices_of_le host (Nat.le_of_succ_le_succ less)
    ⟨inner.fire_succ,inner.runHandler_succ,inner.reportFailure_succ,inner.runStep_succ,
      inner.settle_succ,inner.runLocal_succ⟩

end Handler

theorem Call.await_agrees (host : Host η) {fuel more : Nat} (le : fuel ≤ more) (call : Call) :
    Step.Agrees (await host fuel call) (await host more call) :=
  .bind (.attempt ((Handler.suffices_of_le host le).settle call.pending)) fun _ => .refl _

end PageRuntime
