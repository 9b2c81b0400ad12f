import PageRuntime.Page
import PageRuntime.Proofs.Control

/-! Refreshes wait for the end of a batch of actions. Inside a batch a sweep only notes what it
selects, so the pass over the records runs alike whatever the refreshes would do. When the outermost
batch closes, the first refresh starts from the data that the whole pass has left, and all of them
run before the batch ends as the pass did. -/
namespace PageRuntime

variable {η α β : Type}

def World.depth (w : World η) : Nat := w.runtime.registry.depth

/-- The markup parser may use the registry if it closes each batch that it opens. -/
def Host.ParserKeepsDepth (host : Host η) : Prop :=
  ∀ parse, host.parseMarkup = some parse →
    ∀ text, Step.Keeps (Step.Same World.depth) (parse text)

/-- Inside a batch two programs run alike and leave as many batches open as there were. -/
def AlikeInBatch (one other : Run η α) : Prop :=
  ∀ w, 0 < w.depth → one w = other w ∧ (one w).2.depth = w.depth

namespace AlikeInBatch

theorem of_keeps {run : Run η α} (kept : Step.Keeps (Step.Same World.depth) run) :
    AlikeInBatch run run := fun w _ => ⟨rfl,kept w⟩

theorem act {act : Act α} (only : act.OnlyData) :
    AlikeInBatch (act : Run η α) (act : Run η α) :=
  of_keeps fun w => congrArg Registry.depth (only.registry w.runtime)

theorem pure (x : α) : AlikeInBatch (Pure.pure x : Run η α) (Pure.pure x) :=
  of_keeps (Step.Keeps.pure x)

theorem read : AlikeInBatch (Step.read : Run η (World η)) Step.read := of_keeps Step.Keeps.read

theorem bind {one other : Run η α} {next nextOther : α → Run η β} (alike : AlikeInBatch one other)
    (alikeNext : ∀ x, AlikeInBatch (next x) (nextOther x)) :
    AlikeInBatch (one >>= next) (other >>= nextOther) := by
  intro w inside
  obtain ⟨same,kept⟩ := alike w inside
  rw [Step.bind_run,Step.bind_run,← same]
  cases ran : one w with
  | mk ending after =>
    rw [ran] at kept
    cases ending with
    | done x =>
      obtain ⟨sameNext,keptNext⟩ := alikeNext x after (by rw [kept]; exact inside)
      exact ⟨sameNext,keptNext.trans kept⟩
    | raised failure => exact ⟨rfl,kept⟩
    | exhausted => exact ⟨rfl,kept⟩

theorem attempt {one other : Run η α} (alike : AlikeInBatch one other) :
    AlikeInBatch (Step.attempt one) (Step.attempt other) := by
  intro w inside
  obtain ⟨same,kept⟩ := alike w inside
  unfold Step.attempt
  rw [← same]
  cases ran : one w with
  | mk ending after =>
    rw [ran] at kept
    cases ending <;> exact ⟨rfl,kept⟩

end AlikeInBatch

namespace Sweep

/-- A sweep inside a batch looks at no refresh. -/
theorem run_alike (host : Host η) (refresh : Nat → Run η Unit) (wanted : String → Bool) :
    AlikeInBatch (run host wanted) (run { host with refresh } wanted) := by
  intro w inside
  have inBatch : w.runtime.registry.inBatch = true := by
    simpa [Registry.inBatch,World.depth] using inside
  have ran (host : Host η) : run host wanted w = (.done (w.runtime.registry.select wanted).length,
      { w with runtime.registry :=
        w.runtime.registry.postpone (w.runtime.registry.select wanted) }) := by
    simp only [run,Step.bind_run,Step.read_run,inBatch,if_true]
    rfl
  rw [ran,ran]
  exact ⟨rfl,rfl⟩

end Sweep

namespace ActionBatch

variable (host : Host η) (refresh : Nat → Run η Unit)

theorem sweep_alike (action : Action) :
    AlikeInBatch (sweep host action) (sweep { host with refresh } action) := by
  unfold sweep
  dsimp only
  split
  · exact .bind (Sweep.run_alike host refresh _) fun _ => .pure ()
  · refine .bind ?_ fun _ => .pure ()
    unfold Sweep.invalidatePattern
    split
    · exact Sweep.run_alike host refresh _
    · exact .act (.fail _)

variable (keeps : host.ParserKeepsDepth)
include keeps

theorem replace_alike (payload : Value) :
    AlikeInBatch (Document.replace host payload)
      (Document.replace { host with refresh } payload) := by
  refine .bind ?_ fun document => .of_keeps fun w => rfl
  unfold Document.ofPayload
  cases payload with
  | node a => exact .pure a
  | str text =>
    dsimp only
    split
    · next parse given => exact .of_keeps (keeps parse given text)
    · exact .act (.fail _)
  | _ =>
    dsimp only
    split
    · exact .act (Node.ofValue_onlyData _)
    · exact .bind .read fun w => .act (.fail _)

theorem apply_alike (scope : Address) (action : Action) :
    AlikeInBatch (apply host scope action) (apply { host with refresh } scope action) := by
  unfold apply
  cases action.kind with
  | setData => exact .act (applyData_onlyData scope action)
  | blob => exact .act (applyBlob_onlyData scope action)
  | extendBlob => exact .act (extendBlob_onlyData scope action)
  | invalidate => exact sweep_alike host refresh action
  | html => exact replace_alike host refresh keeps action.data

theorem attemptRecord_alike (scope : Address) (captureOnly : Bool) (record returned : Value) :
    AlikeInBatch (attemptRecord host scope captureOnly record returned)
      (attemptRecord { host with refresh } scope captureOnly record returned) := by
  refine .bind .read fun w => .bind (.act (.ofExcept _)) fun action => ?_
  split
  · exact .act (capture_onlyData action returned)
  · split
    · exact .pure returned
    · exact .bind (apply_alike host refresh keeps scope action) fun _ => .pure returned

theorem processRecord_alike (scope : Address) (captureOnly : Bool) (index : Nat)
    (record returned : Value) :
    AlikeInBatch (processRecord host scope captureOnly index record returned)
      (processRecord { host with refresh } scope captureOnly index record returned) := by
  refine .bind (.attempt (attemptRecord_alike host refresh keeps scope captureOnly record returned))
    fun result => ?_
  cases result with
  | ok returned => exact .pure returned
  | error failure => exact .bind (.act (failed_onlyData _ _ _)) fun _ => .pure returned

theorem processAll_alike (scope : Address) (captureOnly : Bool) (index : Nat)
    (records : List Value) (returned : Value) :
    AlikeInBatch (processAll host scope captureOnly index records returned)
      (processAll { host with refresh } scope captureOnly index records returned) := by
  induction records generalizing index returned with
  | nil => exact .pure returned
  | cons record rest ih =>
    exact .bind (processRecord_alike host refresh keeps scope captureOnly index record returned)
      fun returned => ih _ _

theorem processLive_alike (scope : Address) (captureOnly : Bool) (list : Address)
    (fuel index : Nat) (returned : Value) :
    AlikeInBatch (processLive host scope captureOnly list fuel index returned)
      (processLive { host with refresh } scope captureOnly list fuel index returned) := by
  induction fuel generalizing index returned with
  | zero => exact .of_keeps Step.Keeps.exhaust
  | succ fuel ih =>
    refine .bind .read fun w => ?_
    split
    · exact .pure returned
    · exact .bind (processRecord_alike host refresh keeps scope captureOnly index _ returned)
        fun returned => ih _ _

theorem processItems_alike (scope : Address) (captureOnly : Bool) (actions : Value) :
    AlikeInBatch (processItems host scope captureOnly actions)
      (processItems { host with refresh } scope captureOnly actions) := by
  refine .bind .read fun w => ?_
  split
  · exact processLive_alike host refresh keeps scope captureOnly _ _ _ _
  · exact .bind (.act (.ofExcept _)) fun records =>
      processAll_alike host refresh keeps scope captureOnly _ records _

/-- What a batch does from its opening up to its closing. -/
def pass (actions : Value) (captureOnly : Bool) : Run η Value := do
  let scope ← Scope.makeRoot
  Sweep.change fun registry => { registry with depth := registry.depth + 1 }
  processItems host scope captureOnly actions

omit keeps in
theorem process_eq_pass {actions : Value} (given : actions ≠ .null) (captureOnly : Bool) :
    process host actions captureOnly =
      Step.thenAlways (pass host actions captureOnly) (Sweep.leave host) := by
  have listed : (actions == .null) = false := by simpa using given
  funext w
  simp only [process,listed]
  rfl

theorem pass_alike (actions : Value) (captureOnly : Bool) (w : World η) :
    pass host actions captureOnly w = pass { host with refresh } actions captureOnly w ∧
      (pass host actions captureOnly w).2.depth = w.depth + 1 := by
  let opened := (Scope.makeRoot w.runtime).2
  let inside : World η := { w with
    runtime := { opened with registry := { opened.registry with depth := w.depth + 1 } } }
  have run (host : Host η) : pass host actions captureOnly w =
      processItems host w.runtime.store.scopes.size captureOnly actions inside := rfl
  rw [run,run]
  exact processItems_alike host refresh keeps _ captureOnly actions inside (Nat.succ_pos _)

end ActionBatch

/-! The closing of a batch. -/

namespace Registry

/-- What is left of the waiting registrations once those before the first refresh are passed over:
registrations that have been replaced or removed, and those whose owner is gone, which leave the
registry. -/
def skipStale : Registry → List Registration → Registry × List Registration
  | registry, [] => (registry, [])
  | registry, registration :: rest =>
    if !registry.isCurrent registration then registry.skipStale rest
    else if !registry.isAlive registration then
      (registry.removeEntry registration.key).skipStale rest
    else (registry, registration :: rest)

/-- The registration whose refresh comes first is the current one of its id and its owner lives. -/
theorem skipStale_head (registry : Registry) (waiting : List Registration) :
    ∀ first rest, (registry.skipStale waiting).2 = first :: rest →
      (registry.skipStale waiting).1.isCurrent first = true ∧
        (registry.skipStale waiting).1.isAlive first = true := by
  induction waiting generalizing registry with
  | nil => intro first rest due; cases due
  | cons registration waiting ih =>
    intro first rest
    unfold skipStale
    split
    · exact ih registry first rest
    · split
      · exact ih _ first rest
      · next current alive =>
        intro due
        cases due
        exact ⟨by simpa using current,by simpa using alive⟩

theorem skipStale_depth (registry : Registry) (waiting : List Registration) :
    (registry.skipStale waiting).1.depth = registry.depth ∧
      (registry.skipStale waiting).1.pending = registry.pending := by
  induction waiting generalizing registry with
  | nil => exact ⟨rfl,rfl⟩
  | cons registration waiting ih =>
    unfold skipStale
    split
    · exact ih registry
    · split
      · exact ih _
      · exact ⟨rfl,rfl⟩

/-- The registry once its outermost batch is closed and nothing waits any more. -/
def closed (registry : Registry) : Registry := { registry with depth := 0, pending := [] }

end Registry

namespace Sweep

variable (host : Host η)

/-- A refresh of a registration, whatever has become of the registration. -/
def refreshNow (registration : Registration) : Run η Unit := do
  match ← Step.attempt (host.refresh registration.callback) with
  | .ok () => return ()
  | .error failure => refreshFailed registration failure

theorem refresh_run (registration : Registration) (w : World η) :
    refresh host registration w =
      if !w.runtime.registry.isCurrent registration then (.done (),w)
      else if !w.runtime.registry.isAlive registration then
        (.done (),{ w with runtime.registry := w.runtime.registry.removeEntry registration.key })
      else refreshNow host registration w := by
  unfold refresh
  rw [Step.bind_run,Step.read_run]
  dsimp only
  split
  · rfl
  · split
    · rfl
    · rfl

theorem refreshAll_skipStale (waiting : List Registration) (w : World η) :
    refreshAll host waiting w =
      refreshAll host (w.runtime.registry.skipStale waiting).2
        { w with runtime.registry := (w.runtime.registry.skipStale waiting).1 } := by
  induction waiting generalizing w with
  | nil => rfl
  | cons registration waiting ih =>
    have run : refreshAll host (registration :: waiting) w =
        (refresh host registration >>= fun _ => refreshAll host waiting) w := rfl
    unfold Registry.skipStale
    split
    · next stale =>
      rw [run,Step.bind_run,refresh_run,if_pos stale]
      exact ih w
    · next current =>
      split
      · next gone =>
        rw [run,Step.bind_run,refresh_run,if_neg current,if_pos gone]
        exact ih _
      · rfl

theorem refreshAll_due {first : Registration} {w : World η}
    (current : w.runtime.registry.isCurrent first = true)
    (alive : w.runtime.registry.isAlive first = true) (rest : List Registration) :
    refreshAll host (first :: rest) w =
      (refreshNow host first >>= fun _ => refreshAll host rest) w := by
  have run : refreshAll host (first :: rest) w =
      (refresh host first >>= fun _ => refreshAll host rest) w := rfl
  rw [run,Step.bind_run,refresh_run,Step.bind_run]
  simp [current,alive]

theorem refreshFailed_done (registration : Registration) (failure : Address) (w : World η) :
    ∃ after, (refreshFailed registration failure : Run η Unit) w = (.done (),after) := by
  have logged := Journal.logFailure_run ("Error refreshing data node " ++
    w.runtime.store.shown registration.id ++ " (query " ++
    Text.quote registration.query ++ "):") failure w.runtime
  exact ⟨{ w with runtime := _ },congrArg
    (fun ended : Outcome Unit × Runtime => (ended.1,{ w with runtime := ended.2 })) logged⟩

/-- A refresh that fails is logged, so refreshes end or run out of fuel. -/
theorem refreshAll_quiet (waiting : List Registration) (w after : World η) (failure : Address) :
    refreshAll host waiting w ≠ (.raised failure,after) := by
  induction waiting generalizing w with
  | nil => intro ran; cases ran
  | cons registration waiting ih =>
    have run : refreshAll host (registration :: waiting) w =
        (refresh host registration >>= fun _ => refreshAll host waiting) w := rfl
    have quiet (found : Address) (after : World η) :
        refresh host registration w ≠ (.raised found,after) := by
      rw [refresh_run]
      split
      · intro ran; cases ran
      · split
        · intro ran; cases ran
        · unfold refreshNow
          rw [Step.bind_run]
          unfold Step.attempt
          split <;> rename_i ran <;> split at ran <;> cases ran
          · intro ran; cases ran
          · next failure _ =>
            obtain ⟨logged,logging⟩ := refreshFailed_done registration failure _
            dsimp only
            rw [logging]
            intro ran; cases ran
          · intro ran; cases ran
    rw [run,Step.bind_run]
    split
    · exact ih _
    · next found between ran => exact absurd ran (quiet found between)
    · intro ran; cases ran

/-- The registrations that are refreshed when the batch of a world closes. -/
def due (w : World η) : List Registration :=
  (w.runtime.registry.closed.skipStale w.runtime.registry.pending).2

/-- The world that the first refresh starts from when the batch of a world closes: the same data,
beside a registry in which nothing waits. -/
def closing (w : World η) : World η :=
  { w with
    runtime.registry := (w.runtime.registry.closed.skipStale w.runtime.registry.pending).1 }

theorem leave_outermost {w : World η} (outermost : w.depth = 1) :
    leave host w = refreshAll host (due w) (closing w) := by
  have down : w.runtime.registry.depth - 1 = 0 := by
    simp only [World.depth] at outermost
    omega
  have skipped := refreshAll_skipStale host w.runtime.registry.pending
    { w with runtime.registry := w.runtime.registry.closed }
  refine Eq.trans ?_ skipped
  have run : leave host w = (if (w.runtime.registry.depth - 1) == 0 &&
        !w.runtime.registry.pending.isEmpty then (do
          (change fun registry => { registry with pending := [] } : Act Unit)
          refreshAll host w.runtime.registry.pending : Run η Unit) else Pure.pure ())
      { w with runtime.registry :=
        { w.runtime.registry with depth := w.runtime.registry.depth - 1 } } := rfl
  rw [run,down]
  cases waiting : w.runtime.registry.pending with
  | nil =>
    show (Outcome.done (),_) = (Outcome.done (),_)
    simp only [Registry.closed]
    rw [← waiting]
  | cons first rest => rfl

end Sweep

namespace ActionBatch
open Sweep

/-- A batch outside all others runs its whole pass without a refresh, whatever the refreshes would
do. Those that are due then start from the data and the document that the pass has left, and the
batch ends as the pass did once they have run, be it with a failure. -/
theorem process_refreshes_last (host : Host η) (keeps : host.ParserKeepsDepth) {actions : Value}
    (given : actions ≠ .null) (captureOnly : Bool) {w : World η} (outside : w.depth = 0) :
    (∀ refresh, pass { host with refresh } actions captureOnly w =
      pass host actions captureOnly w) ∧
    ∀ ending mid, pass host actions captureOnly w = (ending,mid) →
      (ending = .exhausted → process host actions captureOnly w = (.exhausted,mid)) ∧
      (ending ≠ .exhausted →
        (∃ registry, closing mid = { mid with runtime.registry := registry } ∧
          registry.depth = 0 ∧ registry.pending = []) ∧
        (∀ first rest, due mid = first :: rest →
          (closing mid).runtime.registry.isCurrent first = true ∧
          (closing mid).runtime.registry.isAlive first = true ∧
          refreshAll host (due mid) (closing mid) =
            (refreshNow host first >>= fun _ => refreshAll host rest) (closing mid)) ∧
        ((∃ after, refreshAll host (due mid) (closing mid) = (.done (),after) ∧
            process host actions captureOnly w = (ending,after)) ∨
          ∃ after, refreshAll host (due mid) (closing mid) = (.exhausted,after) ∧
            process host actions captureOnly w = (.exhausted,after))) := by
  refine ⟨fun refresh => (pass_alike host refresh keeps actions captureOnly w).1.symm,?_⟩
  intro ending mid ran
  have outermost : mid.depth = 1 := by
    have opened := (pass_alike host host.refresh keeps actions captureOnly w).2
    rwa [ran,outside] at opened
  have left := leave_outermost host outermost
  have closes : process host actions captureOnly w =
      Step.thenAlways (pass host actions captureOnly) (leave host) w :=
    congrFun (process_eq_pass host given captureOnly) w
  unfold Step.thenAlways at closes
  rw [ran] at closes
  refine ⟨?_,?_⟩
  · intro out
    subst out
    exact closes
  · intro finished
    refine ⟨⟨_,rfl,Registry.skipStale_depth _ _⟩,?_,?_⟩
    · intro first rest dueFirst
      obtain ⟨current,alive⟩ := Registry.skipStale_head _ _ first rest dueFirst
      rw [dueFirst]
      exact ⟨current,alive,refreshAll_due host current alive rest⟩
    · cases refreshed : refreshAll host (due mid) (closing mid) with
      | mk result after =>
        rw [refreshed] at left
        cases ending with
        | exhausted => exact absurd rfl finished
        | done returned =>
          dsimp only at closes
          rw [left] at closes
          cases result with
          | done _ => exact .inl ⟨after,rfl,closes⟩
          | raised failure => exact absurd refreshed (refreshAll_quiet host _ _ _ _)
          | exhausted => exact .inr ⟨after,rfl,closes⟩
        | raised failure =>
          dsimp only at closes
          rw [left] at closes
          cases result with
          | done _ => exact .inl ⟨after,rfl,closes⟩
          | raised failure => exact absurd refreshed (refreshAll_quiet host _ _ _ _)
          | exhausted => exact .inr ⟨after,rfl,closes⟩

/-- A host whose refreshes note the document they see. -/
def noting : Host (List (Option Address)) where
  refresh _ := Step.modify fun w => { w with host := w.runtime.document :: w.host }
  accept _ _ := return ()
  answer _ _ := return .null
  report := none
  postInit _ := return ()
  parseMarkup := none
  csrfHeaders := return .null
  adjust _ _ := return ()
  send _ := return ⟨200,[],[]⟩
  pause _ := return ()

/-- A mounted query, and a batch that invalidates all queries before it replaces the document. -/
def mounted : World (List (Option Address)) where
  runtime := { Page.initial with
    store := { Page.initial.store with
      nodes := ⟨#[⟨.str "page",[],[],.null,.null⟩]⟩
      dicts := ⟨#[[],[],Dict.put [] "type" (.str "invalidate"),
        Dict.put (Dict.put [] "type" (.str "html")) "data" (.node 0)]⟩
      tuples := ⟨#[[.dict 2,.dict 3]]⟩ }
    registry := Registry.empty.add (.text "q") (.str "q") "q" 0 none }
  host := []

theorem process_refreshes_last_mounted : ∃ mid after,
    pass noting (.tuple 0) false mounted = (.done .null,mid) ∧ mid.host = [] ∧
      refreshAll noting (due mid) (closing mid) = (.done (),after) ∧
      process noting (.tuple 0) false mounted = (.done .null,after) ∧ after.host = [some 0] := by
  have keeps : noting.ParserKeepsDepth := by
    intro parse given
    cases given
  obtain ⟨-,ends⟩ := @process_refreshes_last _ noting keeps (.tuple 0) nofun false mounted rfl
  obtain ⟨-,finished⟩ := ends (.done .null) (pass noting (.tuple 0) false mounted).2 rfl
  obtain ⟨-,-,⟨after,refreshed,processed⟩ | ⟨after,out,-⟩⟩ := finished nofun
  · exact ⟨_,after,rfl,rfl,refreshed,processed,by cases refreshed; rfl⟩
  · cases out

end ActionBatch
end PageRuntime
