import PageRuntime.Proofs.HostSteps
import PageRuntime.Proofs.TidyCopies

/-! Batches of actions in tidy worlds. Every action leaves a tidy world, applied or failed, and so
does a batch of them while no query is mounted. -/
namespace PageRuntime

theorem Act.Trades.spends {α : Type} {given : List Value} {act : Act α} {out : α → List Value}
    (trades : act.Trades given out) : act.Spends given :=
  fun r base spare tidy => (trades base spare r tidy).drop

theorem Runtime.Tidy.of_same {base r after : Runtime} {spare : List Value} (tidy : base.Tidy spare r)
    (store : after.store = r.store) (roots : after.roots = r.roots) : base.Tidy spare after := by
  refine tidy.of_less (fun shelf => Nat.le_of_eq (by rw [store])) (store ▸ tidy.fenced)
    (store ▸ .refl _) ?_ fun v _ => store ▸ .refl _
  rw [Runtime.besides,Runtime.besides,store,roots]

theorem Journal.log_onlySpreads (parts : List Value) : (log parts).OnlySpreads :=
  .bind .store fun _ => .bind (.record _) fun _ => .debugLine _

theorem Node.ofValue_onlySpreads (v : Value) : (ofValue v).OnlySpreads :=
  ofValue_keeps Act.OnlySpreads.fail
    (fun _ => Act.OnlySpreads.make (fun s => s.newNode_adds _) (by decide)) v

theorem ok_of_guard {ε α : Type} {c : Prop} [Decidable c] {fault : ε} {next : Except ε α} {x : α}
    (ok : (if c then .error fault else next) = .ok x) : next = .ok x := by
  split at ok
  · cases ok
  · exact ok

/-- The data of an action is a field of its record. -/
theorem Action.ofRecord_data {s : Store} {record : Value} {action : Action}
    (read : ofRecord s record = .ok action) :
    ∃ d, s.mapping? record = some d ∧ action.data = d.field "data" := by
  unfold ofRecord at read
  cases held : s.mapping? record with
  | none =>
    rw [held] at read
    cases read
  | some d =>
    rw [held] at read
    refine ⟨d,rfl,?_⟩
    unfold ofDict at read
    dsimp only at read
    split at read
    · cases read
    · split at read <;> obtain ⟨selector,given,read⟩ := ok_of_bind read <;> cases given
      all_goals
        obtain ⟨_,-,read⟩ := ok_of_bind (ok_of_guard read)
        exact congrArg data (Except.ok.inj (ok_of_guard (ok_of_guard (ok_of_guard read)))).symm

theorem Dict.get_values (d : Dict) (key : Key) : d.get key = .null ∨ d.get key ∈ Dict.values d := by
  obtain ⟨rest,before,-⟩ := Dict.insert_values d key .null .null
  rw [Dict.get]
  cases found : d.get? key with
  | none => exact .inl rfl
  | some v =>
    rw [found] at before
    exact .inr (before.symm.subset List.mem_cons_self)

theorem Action.data_fenced {s : Store} (fenced : s.Fenced) {record : Value} {action : Action}
    (read : ofRecord s record = .ok action) : action.data.Fenced s := by
  obtain ⟨d,held,data⟩ := ofRecord_data read
  have members := (Store.members_of_mapping held).2
  obtain null | member := Dict.get_values d (.text "data")
  · rw [data,Dict.field,null]
    exact nofun
  · rw [data]
    exact fenced.member (members ▸ member)

namespace Blob
open PageRuntime.Act (Trades Spends)

theorem make_trades (mediaType base64 : Value) :
    (make mediaType base64).Trades [] fun made => [made] :=
  .bind (.of_spreads .store) fun _ => .bind (.of_spreads (.ofExcept _)) fun _ _ _ _ tidy =>
    tidy.newBlob _

theorem extend_spends (a : Address) (base64 : Value) : (extend a base64).Spends [] :=
  .after .store fun _ => .after (.ofExcept _) fun _ r _ _ tidy =>
    tidy.aside (r.store.putBlob_puts a _) (.inr rfl)

end Blob

namespace ActionBatch
open PageRuntime.Act (Trades Spends)
open Reference (Target)

theorem target_bind {β : Type} (scope : Address) (action : Action) (next : Target → Act β) :
    (target scope action >>= next) =
      Act.ofExcept (Path.read (action.selector.getD "")) >>= fun path => next (.place scope path) :=
  Step.bind_assoc _ _ _

theorem capture_spends (action : Action) (returned : Value) : (capture action returned).Spends [] := by
  unfold capture
  split
  · exact .pure _
  · exact (Blob.make_trades _ _).spends
  · split
    · exact .bind (Blob.extend_spends _ _) fun _ => .pure _
    · exact .of_spreads (.fail _)
  · exact .pure _
  · exact .pure _

theorem applyBlob_spends (scope : Address) (action : Action) : (applyBlob scope action).Spends [] := by
  unfold applyBlob
  rw [target_bind]
  exact .after (.ofExcept _) fun path => .trade (Blob.make_trades _ _) fun blob =>
    Target.set_spends scope path blob

theorem extendBlob_spends (scope : Address) (action : Action) :
    (extendBlob scope action).Spends [] := by
  unfold extendBlob
  rw [target_bind]
  refine .after (.ofExcept _) fun path => .after (Target.get_onlySpreads scope path) fun current => ?_
  split
  · exact Blob.extend_spends _ _
  · exact .of_spreads (.fail _)

/-- The data of an action is copied, so nothing of it but the copy is written. -/
theorem applyData_spends {scope : Address} {action : Action} {r : Runtime}
    (fenced : action.data.Fenced r.store) : (applyData scope action).SpendsAt r [] := by
  intro base spare tidy
  have tidy : base.Tidy spare r := tidy
  unfold applyData
  rw [target_bind]
  cases Path.read (action.selector.getD "") with
  | error fault =>
    rw [Act.ofExcept_error,Step.bind_raised (Act.fail_run fault r)]
    exact tidy.spreads (Act.OnlySpreads.fail fault r)
  | ok path =>
    rw [Act.ofExcept_ok_bind,Step.bind_run]
    have mid := copyOf_hands tidy fenced
    split <;> rename_i ran <;> rw [ran] at mid
    · exact Setop.applyNamed_spends scope path _ _ _ base spare mid
    · exact mid
    · exact mid

theorem failed_onlySpreads (index : Nat) (record : Value) (failure : Address) :
    (failed index record failure).OnlySpreads := by
  refine .bind .read fun r => .bind (.ofExcept _) fun kind => ?_
  split
  · exact .raise failure
  · exact Journal.log_onlySpreads _

end ActionBatch

variable {η : Type}

/-- The world is tidy, and no query is mounted in it. -/
structure World.Calm (base : Runtime) (w : World η) : Prop where
  tidy : base.Tidy [] w.runtime
  unmounted : w.runtime.registry.entries = []

/-- The markup parser makes objects and does nothing else. -/
def Host.ParserSpreads (host : Host η) : Prop :=
  ∀ parse, host.parseMarkup = some parse → ∀ text (w : World η),
    w.runtime.Spreads (parse text w).2.runtime

def World.StaysCalm (base : Runtime) (w after : World η) : Prop := w.Calm base → after.Calm base

namespace World.StaysCalm
open Step.Keeps (bind read attempt)

variable {base : Runtime} {α : Type}

instance : Std.Refl (StaysCalm (η := η) base) := ⟨fun _ calm => calm⟩

instance : Trans (StaysCalm (η := η) base) (StaysCalm (η := η) base) (StaysCalm (η := η) base) :=
  ⟨fun first second calm => second (first calm)⟩

theorem of_spendsAt {act : Act α} (only : act.OnlyData) {w : World η}
    (spends : act.SpendsAt w.runtime []) : StaysCalm base w ((act : Run η α) w).2 := by
  intro calm
  have registry : ((act : Run η α) w).2.runtime.registry = w.runtime.registry := only.registry _
  exact ⟨spends base [] calm.tidy,registry ▸ calm.unmounted⟩

theorem of_spends {act : Act α} (only : act.OnlyData) (spends : act.Spends []) :
    Step.Keeps (StaysCalm base) (act : Run η α) := fun w => of_spendsAt only (spends w.runtime)

theorem of_spreads {w after : World η} (spreads : w.runtime.Spreads after.runtime) :
    StaysCalm base w after := by
  intro calm
  have registry := spreads.grew.registry
  exact ⟨calm.tidy.spreads spreads,registry ▸ calm.unmounted⟩

theorem of_onlySpreads {act : Act α} (only : act.OnlySpreads) :
    Step.Keeps (StaysCalm base) (act : Run η α) := fun w => of_spreads (only w.runtime)

/-- What changes the registry mounts nothing. -/
theorem change {f : Registry → Registry} (keeps : ∀ g, (f g).entries = g.entries) :
    Step.Keeps (StaysCalm base) (Sweep.change f : Run η Unit) :=
  fun w calm => ⟨calm.tidy.of_same rfl rfl,(keeps w.runtime.registry).trans calm.unmounted⟩

variable (host : Host η)

/-- Nothing is selected where nothing is mounted. -/
theorem sweepRun (wanted : String → Bool) : Step.Keeps (StaysCalm base) (Sweep.run host wanted) := by
  intro w calm
  have none : w.runtime.registry.select wanted = [] := by
    rw [Registry.select,calm.unmounted]
    rfl
  unfold Sweep.run
  rw [Step.bind_done (Step.read_run w),none]
  split
  · exact ⟨calm.tidy.of_same rfl rfl,calm.unmounted⟩
  · exact calm

/-- A registration that has waited is not the current one of its id. -/
theorem refreshAll (waiting : List Registration) :
    Step.Keeps (StaysCalm base) (Sweep.refreshAll host waiting) := by
  induction waiting with
  | nil => exact .pure ()
  | cons registration rest ih =>
    refine bind (fun w calm => ?_) fun _ => ih
    have stale : w.runtime.registry.isCurrent registration = false := by
      rw [Registry.isCurrent,Registry.find?,calm.unmounted]
      rfl
    unfold Sweep.refresh
    rw [Step.bind_done (Step.read_run w),stale]
    exact calm

theorem sweep (action : Action) : Step.Keeps (StaysCalm base) (ActionBatch.sweep host action) := by
  unfold ActionBatch.sweep
  dsimp only
  split
  · exact bind (sweepRun host _) fun _ => .pure ()
  · refine bind ?_ fun _ => .pure ()
    unfold Sweep.invalidatePattern
    cases Text.Pattern.read? (action.selector.getD "") with
    | some pattern => exact sweepRun host _
    | none => exact of_onlySpreads (.fail _)

theorem leave : Step.Keeps (StaysCalm base) (Sweep.leave host) := by
  refine bind (change fun _ => rfl) fun _ => bind read fun w => ?_
  dsimp only
  split
  · exact bind (change fun _ => rfl) fun _ => refreshAll host _
  · exact .pure ()

variable {host} (parser : host.ParserSpreads)
include parser

theorem replace (payload : Value) : Step.Keeps (StaysCalm base) (Document.replace host payload) := by
  refine bind ?_ fun document _ calm => ⟨calm.tidy.of_same rfl rfl,calm.unmounted⟩
  unfold Document.ofPayload
  cases payload with
  | node a => exact .pure a
  | str text =>
    dsimp only
    cases given : host.parseMarkup with
    | some parse => exact fun w => of_spreads (parser parse given text w)
    | none => exact of_onlySpreads (.fail _)
  | _ =>
    dsimp only
    split
    · exact of_onlySpreads (Node.ofValue_onlySpreads _)
    · exact bind read fun w => of_onlySpreads (.fail _)

theorem applyAction (scope : Address) {action : Action} {w : World η}
    (fenced : action.data.Fenced w.runtime.store) :
    StaysCalm base w (ActionBatch.apply host scope action w).2 := by
  unfold ActionBatch.apply
  cases action.kind with
  | setData =>
    exact of_spendsAt (ActionBatch.applyData_onlyData scope action) (ActionBatch.applyData_spends fenced)
  | blob =>
    exact of_spends (ActionBatch.applyBlob_onlyData scope action)
      (ActionBatch.applyBlob_spends scope action) w
  | extendBlob =>
    exact of_spends (ActionBatch.extendBlob_onlyData scope action)
      (ActionBatch.extendBlob_spends scope action) w
  | invalidate => exact sweep host action w
  | html => exact replace parser action.data w

theorem attemptRecord (scope : Address) (captureOnly : Bool) (record returned : Value) :
    Step.Keeps (StaysCalm base) (ActionBatch.attemptRecord host scope captureOnly record returned) := by
  intro w calm
  rw [ActionBatch.attemptRecord,Step.bind_done (Step.read_run w)]
  cases read : Action.ofRecord w.runtime.store record with
  | error fault =>
    rw [Act.ofExcept_error,Step.bind_raised (Run.ofAct_run (Act.fail_run fault w.runtime))]
    exact of_onlySpreads (.fail fault) w calm
  | ok action =>
    have fenced := Action.data_fenced calm.tidy.fenced read
    rw [Step.bind_done (Run.ofAct_run (Act.ofExcept_ok action w.runtime))]
    split
    · exact of_spends (ActionBatch.capture_onlyData action returned)
        (ActionBatch.capture_spends action returned) w calm
    · split
      · exact calm
      · have applied := applyAction parser scope fenced calm
        rw [Step.bind_run]
        split <;> rename_i ran <;> rw [ran] at applied <;> exact applied

theorem processRecord (scope : Address) (captureOnly : Bool) (index : Nat) (record returned : Value) :
    Step.Keeps (StaysCalm base)
      (ActionBatch.processRecord host scope captureOnly index record returned) := by
  refine bind (attempt (attemptRecord parser scope captureOnly record returned)) fun result => ?_
  cases result with
  | ok returned => exact .pure _
  | error failure =>
    exact bind (of_onlySpreads (ActionBatch.failed_onlySpreads _ _ _)) fun _ => .pure _

theorem processAll (scope : Address) (captureOnly : Bool) (records : List Value) :
    ∀ index returned, Step.Keeps (StaysCalm base)
      (ActionBatch.processAll host scope captureOnly index records returned) := by
  induction records with
  | nil => exact fun _ returned => .pure returned
  | cons record rest ih =>
    exact fun index returned =>
      bind (processRecord parser _ _ _ _ _) fun returned => ih _ returned

theorem processLive (scope : Address) (captureOnly : Bool) (list : Address) (fuel : Nat) :
    ∀ index returned, Step.Keeps (StaysCalm base)
      (ActionBatch.processLive host scope captureOnly list fuel index returned) := by
  induction fuel with
  | zero => exact fun _ _ => Step.Keeps.exhaust
  | succ fuel ih =>
    intro index returned
    refine bind read fun w => ?_
    cases (w.runtime.store.listAt list)[index]? with
    | none => exact .pure _
    | some record =>
      exact bind (processRecord parser _ _ _ _ _) fun returned => ih _ returned

theorem processItems (scope : Address) (captureOnly : Bool) (actions : Value) :
    Step.Keeps (StaysCalm base) (ActionBatch.processItems host scope captureOnly actions) := by
  refine bind read fun w => ?_
  cases actions with
  | list a => exact processLive parser _ _ _ _ _ _
  | _ => exact bind (of_onlySpreads (.ofExcept _)) fun records => processAll parser _ _ _ _ _

theorem batch (scope : Address) (captureOnly : Bool) (actions : Value) :
    Step.Keeps (StaysCalm base)
      (Sweep.batch host (ActionBatch.processItems host scope captureOnly actions)) :=
  bind (change fun _ => rfl) fun _ =>
    (processItems parser scope captureOnly actions).thenAlways (leave host)

end World.StaysCalm
end PageRuntime
