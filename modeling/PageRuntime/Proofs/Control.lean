import PageRuntime.Proofs.ActionSteps

/-! The control side of a runtime: the scopes and trails of its store, and everything beside its
store, its data roots and its journal. Steps that read and write data leave it as it is, whichever
way they end. -/
namespace PageRuntime

namespace Store

/-- A store without its data. -/
def control (s : Store) : Store := { empty with trails := s.trails, scopes := s.scopes }

/-- The stores differ in their data alone. -/
def SameControl (s after : Store) : Prop := after.control = s.control

instance : Std.Refl SameControl := ⟨fun _ => rfl⟩

instance : Trans SameControl SameControl SameControl := ⟨fun first second => second.trans first⟩

theorem makes_sameControl : Makes SameControl :=
  ⟨fun _ _ => rfl,fun _ _ => rfl,fun _ _ => rfl,fun _ _ => rfl⟩

end Store

namespace Runtime

/-- A runtime without its data. -/
def control (r : Runtime) : Runtime :=
  { r with store := r.store.control, roots := [], journal := #[] }

theorem same_control {r : Runtime} {s : Store} (same : r.store.SameControl s) :
    Step.Same control r { r with store := s } := by
  unfold Step.Same control
  rw [show s.control = r.store.control from same]

end Runtime

/-- The step touches data alone. -/
def Act.OnlyData {α : Type} (act : Act α) : Prop := Step.Keeps (Step.Same Runtime.control) act

namespace Act.OnlyData

variable {α β : Type}

theorem registry {act : Act α} (only : act.OnlyData) (r : Runtime) :
    (act r).2.registry = r.registry := by
  have same := congrArg Runtime.registry (only r : (act r).2.control = r.control)
  exact same

theorem trails {act : Act α} (only : act.OnlyData) (r : Runtime) :
    (act r).2.store.trails = r.store.trails := by
  have same := congrArg (·.store.trails) (only r : (act r).2.control = r.control)
  exact same

theorem pure (x : α) : OnlyData (Pure.pure x) := Step.Keeps.pure x

theorem bind {act : Act α} {next : α → Act β} (only : act.OnlyData)
    (onlyNext : ∀ x, (next x).OnlyData) : (act >>= next).OnlyData := Step.Keeps.bind only onlyNext

theorem read : OnlyData Step.read := Step.Keeps.read

theorem store : OnlyData Act.store := fun _ => rfl

theorem update {change : Store → Store} (same : ∀ s, Store.SameControl s (change s)) :
    OnlyData (Act.update change) :=
  fun r => Runtime.same_control (same r.store)

theorem make {change : Store → α × Store} (same : ∀ s, Store.SameControl s (change s).2) :
    OnlyData (Act.make change) :=
  fun r => Runtime.same_control (same r.store)

theorem fail (fault : Fault) : OnlyData (Act.fail fault : Act α) := fun _ => rfl

theorem ofExcept (result : Except Fault α) : OnlyData (Act.ofExcept result) := by
  cases result with
  | ok x => exact pure x
  | error fault => exact fail fault

theorem record (entry : Entry) : OnlyData (Act.record entry) := fun _ => rfl

theorem debugLine (text : String) : OnlyData (PageRuntime.debugLine text) := by
  refine bind read fun r => ?_
  split
  · exact record _
  · exact pure ()

end Act.OnlyData

namespace Journal

/-- What logging a failure adds to the journal. -/
def added (r : Runtime) (text : String) (failure : Address) : Array Entry :=
  let line := " ".intercalate ([.str text,.failure failure].map (partText r.store))
  if r.debugEnabled then #[.log line,.debug ("[DBG] " ++ line)] else #[.log line]

theorem logFailure_run (text : String) (failure : Address) (r : Runtime) :
    logFailure text failure r = (.done (),{ r with journal := r.journal ++ added r text failure }) := by
  have debug (entry : Entry) :
      ({ r with journal := r.journal.push entry } : Runtime).debugEnabled = r.debugEnabled := rfl
  simp only [logFailure,log,write,Act.record,debugLine,Step.bind_run,Act.store_run,Step.modify_run,
    Step.read_run,debug,added]
  cases r.debugEnabled
  · rfl
  · simp only [if_true,Step.modify_run,Array.push_eq_append,Array.append_assoc]
    rfl

end Journal

theorem Journal.logFailure_onlyData (text : String) (failure : Address) :
    (Journal.logFailure text failure).OnlyData :=
  .bind .store fun _ => .bind (.record _) fun _ => .debugLine _

/-- Actions on data touch data alone. -/
theorem Act.OnlyData.serves : Act.Serves (Step.Same Runtime.control) where
  fail := Act.OnlyData.fail
  record _ := Act.OnlyData.record _
  makes := ⟨fun _ _ _ here => here ▸ rfl,fun _ _ _ here => here ▸ rfl,fun _ _ _ here => here ▸ rfl,
    fun _ _ _ here => here ▸ rfl⟩
  newContext _ _ := rfl
  newNode _ _ := rfl
  putList _ _ _ := rfl
  putDict _ _ _ := rfl
  putBlob _ _ _ := rfl
  putCell _ _ _ _ _ _ := rfl
  setRoot _ _ _ := rfl

open Act.OnlyData (serves)

theorem Reference.set_onlyData (a : Address) (v : Value) : (set a v).OnlyData := serves.set a v

theorem Node.ofValue_onlyData (v : Value) : (Node.ofValue v).OnlyData := serves.node v

namespace ActionBatch

theorem capture_onlyData (action : Action) (returned : Value) : (capture action returned).OnlyData :=
  serves.capture action returned

theorem applyData_onlyData (scope : Address) (action : Action) : (applyData scope action).OnlyData :=
  serves.applyData scope action

theorem applyBlob_onlyData (scope : Address) (action : Action) : (applyBlob scope action).OnlyData :=
  serves.applyBlob scope action

theorem extendBlob_onlyData (scope : Address) (action : Action) : (extendBlob scope action).OnlyData :=
  serves.extendBlob scope action

theorem failed_onlyData (index : Nat) (record : Value) (failure : Address) :
    (failed index record failure).OnlyData := by
  refine .bind .read fun r => .bind (.ofExcept _) fun kind => ?_
  split
  · exact Step.Keeps.raise _
  · exact Journal.logFailure_onlyData _ _

end ActionBatch
end PageRuntime
