import PageRuntime.Fault
import PageRuntime.Value

/-! Steps over a state. A step always leaves a state behind, whichever way it ends: with a value,
with a raised failure, or without fuel. The last is an ending of the interpretation and not a
failure that page code could catch. -/
namespace PageRuntime

inductive Outcome (α : Type)
  | done (value : α)
  | raised (failure : Address)
  | exhausted
deriving DecidableEq

def Step (σ α : Type) : Type := σ → Outcome α × σ

namespace Step

variable {σ α β : Type}

def pure (x : α) : Step σ α := fun state => (.done x, state)

def bind (first : Step σ α) (next : α → Step σ β) : Step σ β := fun state =>
  match first state with
  | (.done x, state) => next x state
  | (.raised failure, state) => (.raised failure, state)
  | (.exhausted, state) => (.exhausted, state)

instance : Monad (Step σ) where
  pure := pure
  bind := bind

def read : Step σ σ := fun state => (.done state, state)

def modify (change : σ → σ) : Step σ Unit := fun state => (.done (), change state)

def raise (failure : Address) : Step σ α := fun state => (.raised failure, state)

def exhaust : Step σ α := fun state => (.exhausted, state)

/-- Runs a step and turns a raised failure into a value; the state stays as the step left it. -/
def attempt (step : Step σ α) : Step σ (Except Address α) := fun state =>
  match step state with
  | (.done x, state) => (.done (.ok x), state)
  | (.raised failure, state) => (.done (.error failure), state)
  | (.exhausted, state) => (.exhausted, state)

/-- Runs `last` after a step however it ends, then ends as the step did. -/
def thenAlways (step : Step σ α) (last : Step σ Unit) : Step σ α := fun state =>
  match step state with
  | (.exhausted, state) => (.exhausted, state)
  | (ending, state) =>
    match last state with
    | (.done _, state) => (ending, state)
    | (.raised failure, state) => (.raised failure, state)
    | (.exhausted, state) => (.exhausted, state)

theorem pure_bind (x : α) (next : α → Step σ β) : (Pure.pure x : Step σ α) >>= next = next x := rfl

theorem bind_pure (step : Step σ α) : (step >>= fun x => Pure.pure x) = step := by
  funext state
  show Step.bind step Step.pure state = step state
  unfold Step.bind
  split <;> simp_all [Step.pure]

end Step

end PageRuntime
