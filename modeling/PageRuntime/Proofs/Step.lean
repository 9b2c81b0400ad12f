import PageRuntime.Host
import PageRuntime.Journal

/-! What steps keep. A relation between the state that a step starts from and the state it leaves,
if it is reflexive and transitive, holds of a program as soon as it holds of each of its steps,
whichever way they end. -/
namespace PageRuntime
namespace Step

variable {σ τ α β : Type} {R : σ → σ → Prop}

theorem bind_run (first : Step σ α) (next : α → Step σ β) (state : σ) :
    (first >>= next) state = match first state with
      | (.done x, state) => next x state
      | (.raised failure, state) => (.raised failure, state)
      | (.exhausted, state) => (.exhausted, state) := rfl

@[simp] theorem pure_run (x : α) (state : σ) : (Pure.pure x : Step σ α) state = (.done x, state) := rfl

@[simp] theorem read_run (state : σ) : (read : Step σ σ) state = (.done state, state) := rfl

@[simp] theorem modify_run (change : σ → σ) (state : σ) :
    modify change state = (.done (), change state) := rfl

@[simp] theorem raise_run (failure : Address) (state : σ) :
    (raise failure : Step σ α) state = (.raised failure, state) := rfl

theorem bind_done {first : Step σ α} {next : α → Step σ β} {state after : σ} {x : α}
    (ran : first state = (.done x, after)) : (first >>= next) state = next x after := by
  rw [bind_run,ran]

theorem bind_raised {first : Step σ α} {next : α → Step σ β} {state after : σ} {failure : Address}
    (ran : first state = (.raised failure, after)) :
    (first >>= next) state = (.raised failure, after) := by
  rw [bind_run,ran]

theorem bind_exhausted {first : Step σ α} {next : α → Step σ β} {state after : σ}
    (ran : first state = (.exhausted, after)) : (first >>= next) state = (.exhausted, after) := by
  rw [bind_run,ran]

theorem ended {run : Outcome α × σ} {ending : Outcome α} (ends : run.1 = ending) :
    ∃ after, run = (ending,after) :=
  ⟨run.2,Prod.ext ends rfl⟩

theorem attempt_done {step : Step σ α} {state after : σ} {x : α}
    (ran : step state = (.done x, after)) : attempt step state = (.done (.ok x), after) := by
  unfold attempt
  rw [ran]

theorem attempt_raised {step : Step σ α} {state after : σ} {failure : Address}
    (ran : step state = (.raised failure, after)) :
    attempt step state = (.done (.error failure), after) := by
  unfold attempt
  rw [ran]

theorem attempt_exhausted {step : Step σ α} {state after : σ}
    (ran : step state = (.exhausted, after)) : attempt step state = (.exhausted, after) := by
  unfold attempt
  rw [ran]

theorem bind_assoc {γ : Type} (first : Step σ α) (next : α → Step σ β) (last : β → Step σ γ) :
    first >>= next >>= last = first >>= fun x => next x >>= last := by
  funext state
  simp only [bind_run]
  cases first state with
  | mk ending after => cases ending <;> rfl

instance : LawfulMonad (Step σ) :=
  LawfulMonad.mk' _ bind_pure pure_bind bind_assoc

/-- However the step ends, the state it leaves is related to the state it started from. -/
def Keeps (R : σ → σ → Prop) (step : Step σ α) : Prop := ∀ state, R state (step state).2

/-- Two states look alike from one side. -/
def Same (view : σ → τ) (state after : σ) : Prop := view after = view state

instance (view : σ → τ) : Std.Refl (Same view) := ⟨fun _ => rfl⟩

instance (view : σ → τ) : Trans (Same view) (Same view) (Same view) :=
  ⟨fun first second => second.trans first⟩

namespace Keeps

theorem imp {S : σ → σ → Prop} {step : Step σ α} (kept : Keeps R step)
    (weaker : ∀ state after, R state after → S state after) : Keeps S step :=
  fun state => weaker _ _ (kept state)

section

variable [Std.Refl R]

theorem pure (x : α) : Keeps R (Pure.pure x : Step σ α) := fun state => Std.Refl.refl state

theorem read : Keeps R (Step.read : Step σ σ) := fun state => Std.Refl.refl state

theorem raise (failure : Address) : Keeps R (Step.raise failure : Step σ α) :=
  fun state => Std.Refl.refl state

theorem exhaust : Keeps R (Step.exhaust : Step σ α) := fun state => Std.Refl.refl state

end

theorem attempt {step : Step σ α} (kept : Keeps R step) : Keeps R (Step.attempt step) := by
  intro state
  have here := kept state
  unfold Step.attempt
  split <;> rename_i ran <;> rw [ran] at here <;> exact here

theorem bind [Trans R R R] {first : Step σ α} {next : α → Step σ β} (kept : Keeps R first)
    (keptNext : ∀ x, Keeps R (next x)) : Keeps R (first >>= next) := by
  intro state
  have before := kept state
  rw [bind_run]
  split <;> rename_i ran <;> rw [ran] at before
  · exact Trans.trans before (keptNext _ _)
  · exact before
  · exact before

/-- From one state, what follows matters only where the first step ends. -/
theorem bind_from {first : Step σ α} {next : α → Step σ β} {state : σ} (kept : Keeps R first)
    (onwards : ∀ x after, first state = (.done x,after) → R state (next x after).2) :
    R state ((first >>= next) state).2 := by
  have before := kept state
  rw [bind_run]
  split <;> rename_i ran <;> rw [ran] at before
  · exact onwards _ _ ran
  · exact before
  · exact before

end Keeps

theorem done_ends (x : α) : Outcome.done x ≠ .exhausted := by simp

theorem raised_ends (failure : Address) : (Outcome.raised failure : Outcome α) ≠ .exhausted := by
  simp

/-- The step ends, with a value or a raised failure, in a related state. -/
def Concludes (R : σ → σ → Prop) (step : Step σ α) : Prop :=
  ∀ state, (step state).1 ≠ .exhausted ∧ R state (step state).2

namespace Concludes

theorem keeps {step : Step σ α} (concludes : Concludes R step) : Keeps R step :=
  fun state => (concludes state).2

section

variable [Std.Refl R]

theorem pure (x : α) : Concludes R (Pure.pure x : Step σ α) :=
  fun state => ⟨done_ends x,Std.Refl.refl state⟩

theorem read : Concludes R (Step.read : Step σ σ) :=
  fun state => ⟨done_ends state,Std.Refl.refl state⟩

theorem raise (failure : Address) : Concludes R (Step.raise failure : Step σ α) :=
  fun state => ⟨raised_ends failure,Std.Refl.refl state⟩

end

theorem bind [Trans R R R] {first : Step σ α} {next : α → Step σ β} (concludes : Concludes R first)
    (onwards : ∀ x, Concludes R (next x)) : Concludes R (first >>= next) := by
  intro state
  obtain ⟨ends,before⟩ := concludes state
  rw [bind_run]
  split <;> rename_i ran <;> rw [ran] at ends before
  · exact ⟨(onwards _ _).1,Trans.trans before (onwards _ _).2⟩
  · exact ⟨raised_ends _,before⟩
  · exact absurd rfl ends

theorem attempt {step : Step σ α} (concludes : Concludes R step) : Concludes R (Step.attempt step) := by
  intro state
  obtain ⟨ends,kept⟩ := concludes state
  unfold Step.attempt
  split <;> rename_i ran <;> rw [ran] at ends kept
  · exact ⟨done_ends _,kept⟩
  · exact ⟨done_ends _,kept⟩
  · exact absurd rfl ends

end Concludes

/-- A property that giving a value and reading have, and steps one after the other if each has it. -/
structure Composes (P : (α : Type) → Step σ α → Prop) : Prop where
  pure : ∀ {α : Type} (x : α), P α (Pure.pure x)
  read : P σ Step.read
  bind : ∀ {α β : Type} {first : Step σ α} {next : α → Step σ β},
    P α first → (∀ x, P β (next x)) → P β (first >>= next)

namespace Composes

variable {P : (α : Type) → Step σ α → Prop} (composes : Composes P)
include composes

theorem mapM {step : α → Step σ β} (has : ∀ x, P β (step x)) :
    ∀ items : List α, P (List β) (items.mapM step)
  | [] => by rw [List.mapM_nil]; exact composes.pure _
  | x :: rest => by
    rw [List.mapM_cons]
    exact composes.bind (has x) fun _ => composes.bind (mapM has rest) fun _ => composes.pure _

/-- What follows is the same whichever step is taken first. -/
theorem ite_bind {c : Prop} [Decidable c] {one other : Step σ α} {next : α → Step σ β}
    (has : P α one) (otherHas : P α other) (nextHas : ∀ x, P β (next x)) :
    P β (if c then one >>= next else other >>= next) := by
  split
  · exact composes.bind has nextHas
  · exact composes.bind otherHas nextHas

end Composes

section

variable [Std.Refl R] [Trans R R R]

theorem Keeps.composes : Composes fun _ step => Keeps R step := ⟨.pure,.read,.bind⟩

theorem Concludes.composes : Composes fun _ step => Concludes R step := ⟨.pure,.read,.bind⟩

theorem Keeps.mapM {step : α → Step σ β} (kept : ∀ x, Keeps R (step x)) (items : List α) :
    Keeps R (items.mapM step) := Keeps.composes.mapM kept items

end
end Step

namespace Act

variable {α : Type} {R : Runtime → Runtime → Prop}

@[simp] theorem store_run (r : Runtime) : store r = (.done r.store, r) := rfl

@[simp] theorem update_run (change : Store → Store) (r : Runtime) :
    update change r = (.done (), { r with store := change r.store }) := rfl

@[simp] theorem make_run (change : Store → α × Store) (r : Runtime) :
    make change r = (.done (change r.store).1, { r with store := (change r.store).2 }) := rfl

theorem fail_run (fault : Fault) (r : Runtime) :
    (fail fault : Act α) r = (.raised r.store.failures.size,
      { r with store := (r.store.newFailure ⟨fault, none, none⟩).2 }) := rfl

@[simp] theorem ofExcept_ok (x : α) (r : Runtime) : (ofExcept (.ok x) : Act α) r = (.done x, r) := rfl

theorem ofExcept_ok_bind {β : Type} (x : α) (next : α → Act β) :
    (ofExcept (.ok x) >>= next) = next x := rfl

@[simp] theorem ofExcept_error (fault : Fault) : (ofExcept (.error fault) : Act α) = fail fault := rfl

theorem ofExcept_done {result : Except Fault α} {r after : Runtime} {x : α}
    (ran : ofExcept result r = (.done x, after)) : result = .ok x ∧ after = r := by
  cases result with
  | ok y => cases ran; exact ⟨rfl,rfl⟩
  | error fault => rw [ofExcept_error,fail_run] at ran; cases ran

end Act

/-- A step of the runtime alone, run beside a host. -/
theorem Run.ofAct_run {η α : Type} {act : Act α} {w : World η} {ending : Outcome α}
    {after : Runtime} (ran : act w.runtime = (ending,after)) :
    (act : Run η α) w = (ending,{ w with runtime := after }) := by
  show ((act w.runtime).1,_) = _
  rw [ran]

theorem Run.of_ofAct {η α : Type} {act : Act α} {w after : World η} {ending : Outcome α}
    (ran : (act : Run η α) w = (ending,after)) :
    act w.runtime = (ending,after.runtime) ∧ after.host = w.host := by
  obtain ⟨ended,left⟩ := Prod.mk.inj ran
  subst left
  exact ⟨Prod.ext ended rfl,rfl⟩

theorem Run.ofAct_bind {η α β : Type} (first : Act α) (next : α → Act β) :
    ((first >>= next : Act β) : Run η β) = (first : Run η α) >>= fun x => (next x : Run η β) := by
  funext w
  show ((Step.bind first next w.runtime).1,_) = Step.bind _ _ w
  unfold Step.bind
  cases ran : first w.runtime with
  | mk ending after =>
    rw [show (first : Run η α) w = _ from Run.ofAct_run ran]
    cases ending <;> rfl

theorem Run.ofExcept_done {η α : Type} {result : Except Fault α} {w after : World η} {x : α}
    (ran : (Act.ofExcept result : Run η α) w = (.done x,after)) : result = .ok x ∧ w = after := by
  cases result with
  | ok y => cases ran; exact ⟨rfl,rfl⟩
  | error fault => cases ran

/-- A host that does nothing. -/
def Host.idle {η : Type} : Host η where
  refresh _ := return ()
  accept _ _ := return ()
  answer _ _ := return .null
  report := none
  postInit _ := return ()
  parseMarkup := none
  csrfHeaders := return .null
  adjust _ _ := return ()
  send _ := return ⟨200,[],[]⟩
  pause _ := return ()

end PageRuntime
