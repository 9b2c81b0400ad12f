import PageRuntime.Proofs.BatchClosing
import PageRuntime.Proofs.FailedActions

/-! What an attempt at a record leaves alone while a batch is open: the settings, the batches that are open,
the handles that there are, what was logged, and the host. -/
namespace PageRuntime

variable {η α : Type}

def Entry.logged? : Entry → Option String
  | .log text => some text
  | .debug _ => none

/-- The texts that were logged, debug lines left out. -/
def Runtime.logged (r : Runtime) : List String := r.journal.toList.filterMap Entry.logged?

structure Runtime.Steady (r after : Runtime) : Prop where
  settings : after.settings = r.settings
  depth : after.registry.depth = r.registry.depth
  handles : after.store.handles.size = r.store.handles.size
  logged : after.logged = r.logged

namespace Runtime.Steady

instance : Std.Refl Steady := ⟨fun _ => ⟨rfl,rfl,rfl,rfl⟩⟩

instance : Trans Steady Steady Steady :=
  ⟨fun first second => ⟨second.settings.trans first.settings,second.depth.trans first.depth,
    second.handles.trans first.handles,second.logged.trans first.logged⟩⟩

theorem of_store {r : Runtime} {s : Store} (handles : s.handles.size = r.store.handles.size) :
    r.Steady { r with store := s } := ⟨rfl,rfl,handles,rfl⟩

theorem serves : Act.Serves Steady where
  fail fault r := of_store rfl
  record line r := ⟨rfl,rfl,rfl,by simp [Runtime.logged,Act.record,Entry.logged?]⟩
  makes := ⟨fun _ _ _ here => of_store (here ▸ rfl),fun _ _ _ here => of_store (here ▸ rfl),
    fun _ _ _ here => of_store (here ▸ rfl),fun _ _ _ here => of_store (here ▸ rfl)⟩
  newContext _ _ := of_store rfl
  newNode _ _ := of_store rfl
  putList _ _ _ := of_store rfl
  putDict _ _ _ := of_store rfl
  putBlob _ _ _ := of_store rfl
  putCell r a _ v label _ := of_store (Table.size_set _ _ _)
  setRoot _ _ _ := ⟨rfl,rfl,rfl,rfl⟩

end Runtime.Steady

/-- Objects other than handles were made, and nothing else has happened. -/
structure World.Makes (w after : World η) : Prop where
  grew : w.runtime.Grew after.runtime
  handles : after.runtime.store.handles.size = w.runtime.store.handles.size
  logged : after.runtime.logged = w.runtime.logged
  host : after.host = w.host

/-- The markup parser makes the nodes of a document and does nothing else. -/
def Host.ParserMakes (host : Host η) : Prop :=
  ∀ parse, host.parseMarkup = some parse → ∀ text, Step.Keeps World.Makes (parse text)

theorem Host.ParserMakes.failsCleanly {host : Host η} (parser : host.ParserMakes) :
    host.ParserFailsCleanly := by
  intro parse given text w failure after ran
  have made := (parser parse given text w).grew
  rwa [ran] at made

/-- While a batch is open, the runtime is steady and the host is left as it is. -/
def World.Steady (w after : World η) : Prop :=
  0 < w.depth → w.runtime.Steady after.runtime ∧ after.host = w.host

namespace World.Steady
open Step.Keeps (bind read)

instance : Std.Refl (Steady (η := η)) := ⟨fun w _ => ⟨Std.Refl.refl w.runtime,rfl⟩⟩

instance : Trans (Steady (η := η)) (Steady (η := η)) (Steady (η := η)) where
  trans first second inside := by
    obtain ⟨before,host⟩ := first inside
    obtain ⟨after,hostAfter⟩ := second (by rw [World.depth,before.depth]; exact inside)
    exact ⟨Trans.trans before after,hostAfter.trans host⟩

theorem act {act : Act α} (kept : Step.Keeps Runtime.Steady act) :
    Step.Keeps Steady (act : Run η α) := fun w _ => ⟨kept w.runtime,rfl⟩

theorem of_makes {w after : World η} (made : w.Makes after) : w.Steady after := by
  have frame := made.grew.frame
  have settings : after.runtime.frame.settings = w.runtime.frame.settings := by rw [frame]
  have depth : after.runtime.frame.registry.depth = w.runtime.frame.registry.depth := by rw [frame]
  exact fun _ => ⟨⟨settings,depth,made.handles,made.logged⟩,made.host⟩

open Runtime.Steady (serves)

variable (host : Host η)

theorem sweepRun (wanted : String → Bool) : Step.Keeps Steady (Sweep.run host wanted) := by
  intro w inside
  rw [Sweep.run_inside host wanted inside]
  exact ⟨⟨rfl,rfl,rfl,rfl⟩,rfl⟩

theorem sweep (action : Action) : Step.Keeps Steady (ActionBatch.sweep host action) := by
  unfold ActionBatch.sweep
  dsimp only
  split
  · exact bind (sweepRun host _) fun _ => .pure ()
  · refine bind ?_ fun _ => .pure ()
    unfold Sweep.invalidatePattern
    split
    · exact sweepRun host _
    · exact act (serves.fail _)

variable {host} (parser : host.ParserMakes)
include parser

theorem replace (payload : Value) : Step.Keeps Steady (Document.replace host payload) := by
  refine bind ?_ fun document w _ => ⟨⟨rfl,rfl,rfl,rfl⟩,rfl⟩
  unfold Document.ofPayload
  cases payload with
  | node a => exact .pure a
  | str text =>
    dsimp only
    cases given : host.parseMarkup with
    | some parse => exact fun w => of_makes (parser parse given text w)
    | none => exact act (serves.fail _)
  | _ =>
    dsimp only
    split
    · exact act (serves.node _)
    · exact bind read fun w => act (serves.fail _)

theorem applyAction (scope : Address) (action : Action) :
    Step.Keeps Steady (ActionBatch.apply host scope action) := by
  unfold ActionBatch.apply
  cases action.kind with
  | setData => exact act (serves.applyData scope action)
  | blob => exact act (serves.applyBlob scope action)
  | extendBlob => exact act (serves.extendBlob scope action)
  | invalidate => exact sweep host action
  | html => exact replace parser action.data

theorem attemptRecord (scope : Address) (captureOnly : Bool) (record returned : Value) :
    Step.Keeps Steady (ActionBatch.attemptRecord host scope captureOnly record returned) := by
  refine bind read fun w => bind (act (serves.ofExcept _)) fun action => ?_
  split
  · exact act (serves.capture action returned)
  · split
    · exact .pure returned
    · exact bind (applyAction parser scope action) fun _ => .pure returned

end World.Steady
end PageRuntime
