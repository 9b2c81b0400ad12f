import PageRuntime.Proofs.CheckedCalls
import PageRuntime.Proofs.Dispatch

/-! Runs on other trails. Handlers write the trail that they run on, and those that they start for a
failure run on trails of their own, so a trail stays as it is while runs go on elsewhere. -/
namespace PageRuntime

variable {η α β : Type}

/-- The callbacks of the host leave the trail alone. -/
structure Host.Spares (host : Host η) (trail : Address) : Prop
    extends host.Callbacks (World.Spares trail) where
  report : ∀ receive, host.report = some receive →
    ∀ report, Step.Keeps (World.Spares trail) (receive report)

theorem Host.idle_spares (trail : Address) : (Host.idle : Host η).Spares trail where
  refresh _ := .pure _
  accept _ _ := .pure _
  answer _ _ := .pure _
  parseMarkup _ given := by cases given
  csrfHeaders := .pure _
  adjust _ _ := .pure _
  send _ := .pure _
  pause _ := .pure _
  report _ given := by cases given

namespace Step.Keeps

variable {σ : Type} {R : σ → σ → Prop}

/-- What follows need only keep the relation where the first step can lead. -/
theorem bind_at [Trans R R R] {first : Step σ α} {next : α → Step σ β} (kept : Keeps R first)
    (later : ∀ state x mid, first state = (.done x,mid) → R mid (next x mid).2) :
    Keeps R (first >>= next) := fun state => kept.bind_from fun x mid ran => by
  have before := kept state
  rw [ran] at before
  exact Trans.trans before (later state x mid ran)

end Step.Keeps

/-- A call that is made asks for what it is given: on its trail, and as purely. -/
theorem Gateway.start_request {host : Host η} {path arguments : Value} {trail : Option Address}
    {isPure : Bool} {w after : World η} {pending : Pending}
    (ran : start host path arguments trail isPure w = (.done pending,after)) :
    ∃ found data, pending.request = ⟨found,data,trail,isPure⟩ := by
  obtain ⟨found,_,_,-,-,-,serves⟩ := start_checked ran
  cases serves <;> exact ⟨found,_,rfl⟩

theorem Gateway.start_trail {host : Host η} {path arguments : Value} {trail : Option Address}
    {isPure : Bool} {w after : World η} {pending : Pending}
    (ran : start host path arguments trail isPure w = (.done pending,after)) :
    pending.request.trail = trail := by
  obtain ⟨_,_,asks⟩ := start_request ran
  rw [asks]

namespace Host.Spares

variable {host : Host η} {trail : Address} (spares : host.Spares trail)
include spares

theorem untraced : host.KeepsUntraced (World.Spares trail) :=
  { spares with act := fun untraced w => untraced trail w.runtime }

theorem deliver (report : Address) :
    Step.Keeps (World.Spares trail) (Report.deliver host report) :=
  Report.deliver_keeps spares.untraced.grows spares.report report

theorem deliverNew (report : Report) : Step.Keeps (World.Spares trail) (do
    Report.deliver host (← Report.make report)) :=
  .bind (spares.untraced.grows (Report.make_onlyGrows _)) spares.deliver

theorem unhandled (event : Event) (own : Address) :
    Step.Keeps (World.Spares trail) (event.unhandled host own) := by
  refine .bind .read fun w => ?_
  dsimp only
  split
  · exact spares.untraced.grows (.bind (.record _) fun _ => .debugLine _)
  · exact spares.deliver _
  · exact spares.deliverNew _
  · exact spares.deliverNew _

theorem settleAnswer (answer : Value) (isPure : Bool) :
    Step.Keeps (World.Spares trail) (Handler.settleAnswer host answer isPure) := by
  refine .bind .read fun w => ?_
  split
  · exact spares.untraced.process _ _
  · exact .pure _

end Host.Spares

namespace Handler

/-- What a step leads to: an event, a call of what is written in it, or nothing of the kind. -/
inductive Nesting
  | event
  | call (written : Value)
  | nothing

def nesting (step : Dict) : Nesting :=
  match step.field? "return", step.field? "set", step.field? "fire", step.field? "call" with
  | none, none, some _, _ => .event
  | none, none, none, some written => .call written
  | _, _, _, _ => .nothing

/-- A `fire` step. -/
def fireStep (host : Host η) (fuel : Nat) (scope trail : Address) (step : Dict) :
    Run η (Option Value) := do
  let event ← eventOf scope step
  let _ ← fire host fuel scope event trail false
  return none

/-- The frame around a call. -/
def callFrame (path : String) : String := "Calling handler " ++ path

/-- The value that a `call` step gets. -/
def called (host : Host η) (fuel : Nat) (scope trail : Address) (step : Dict) (path : String)
    (isPure : Bool) : Run η Value := do
  let arguments ← argumentsOf scope step
  framed trail (callFrame path) (do
    let pending ← Gateway.start host (.str path) arguments (some trail) isPure
    settle host fuel pending)

/-- A `call` step. -/
def callStep (host : Host η) (fuel : Nat) (scope trail : Address) (step : Dict) (path : String)
    (isPure : Bool) : Run η (Option Value) := do
  let v ← called host fuel scope trail step path isPure
  storeInto scope step v
  return none

/-- What a made call is answered, before actions in the answer are processed. -/
def answerOf (host : Host η) (fuel : Nat) : Pending → Run η Value
  | .custom token request => host.answer token request
  | .localBlock node name request => do
    let scope ← Scope.makeRoot
    let trail ← match request.trail with
      | some trail => pure trail
      | none => Trail.make []
    runLocal host fuel node request.data scope trail name
  | .fetch plan _ => Fetch.perform host plan

theorem settle_eq (host : Host η) (fuel : Nat) (pending : Pending) : settle host (fuel + 1) pending =
    answerOf host fuel pending >>= (settleAnswer host · pending.request.isPure) := by
  cases pending with
  | localBlock node name request =>
    rw [settle,answerOf,Step.bind_assoc]
    cases request.trail with
    | some own => rfl
    | none => exact congrArg (_ >>= ·) (funext fun _ => (Step.bind_assoc _ _ _).symm)
  | _ => rfl

section Steps

variable {host : Host η} {step : Dict} (fuel : Nat) (scope trail : Address)

theorem runStep_fire (leads : nesting step = .event) :
    runStep host (fuel + 1) scope trail step = fireStep host fuel scope trail step := by
  unfold nesting at leads
  split at leads
  · next returns sets fires =>
    funext w
    rw [runStep,Step.bind_done (Step.read_run w),returns,sets,fires]
    rfl
  · cases leads
  · cases leads

theorem runStep_call {written : Value} (leads : nesting step = .call written) (w : World η) :
    runStep host (fuel + 1) scope trail step w =
      callStep host fuel scope trail step (w.runtime.store.display written)
        (w.runtime.store.isTrue (step.field "pure")) w := by
  unfold nesting at leads
  split at leads
  · cases leads
  · next returns sets fires calls =>
    cases leads
    rw [runStep,Step.bind_done (Step.read_run w),returns,sets,fires,calls,callStep,called,
      Step.bind_assoc]
    rfl
  · cases leads

/-- All other steps leave trails alone. -/
theorem runStep_keeps {R : World η → World η → Prop} [Std.Refl R] [Trans R R R]
    (keeps : host.KeepsUntraced R) (leads : nesting step = .nothing) :
    Step.Keeps R (runStep host (fuel + 1) scope trail step) := by
  have argument (v : Value) : Step.Keeps R (Block.argument scope v : Run η Value) :=
    keeps.grows (Block.argument_onlyGrows scope v)
  unfold runStep
  refine .bind .read fun w => ?_
  dsimp only
  split
  · exact .bind (argument _) fun _ => .pure _
  split
  · exact .bind (keeps.act (setStep_untraced _ _ _)) fun _ => .pure _
  next returns _ sets =>
  split
  · next fires => simp [nesting,returns,sets,fires] at leads
  next fires =>
  split
  · next calls => simp [nesting,returns,sets,fires,calls] at leads
  split
  · exact .bind (keeps.invalidatePattern _) fun _ => .pure _
  split
  · exact .bind (argument _) fun _ => .bind (keeps.process _ _) fun _ => .pure _
  split
  · exact .bind (argument _) fun _ => .bind (keeps.grows (Journal.log_onlyGrows _)) fun _ => .pure _
  · exact .pure _

end Steps

section Apart

variable {host : Host η} {trail : Address} (spares : host.Spares trail)

theorem framed_spares {own : Address} (apart : own ≠ trail) (frame : String) {step : Run η α}
    (kept : Step.Keeps (World.Spares trail) step) :
    Step.Keeps (World.Spares trail) (framed own frame step) :=
  .bind (fun _ => Store.putTrail_spares apart.symm _) fun _ => .bind kept fun _ =>
    .bind (fun _ => Store.putTrail_spares apart.symm _) fun _ => .pure _

/-- A trail that is just started is none of those that were there. -/
theorem make_spares (frames : List String) {next : Address → Run η α}
    (later : ∀ own, own ≠ trail → Step.Keeps (World.Spares trail) (next own)) :
    Step.Keeps (World.Spares trail) (Trail.make frames >>= next) := by
  intro w present
  have made : w.Spares trail { w with runtime := (Trail.make frames w.runtime).2 } :=
    (Store.Grew.of_adds (w.runtime.store.newTrail_adds frames)).spares trail
  exact made.trans (later _ (Nat.ne_of_gt present) _) present

theorem runBlock_spares {step : Dict → Run η (Option Value)}
    (kept : ∀ d, Step.Keeps (World.Spares trail) (step d)) (block : Value) :
    Step.Keeps (World.Spares trail) (runBlock step block) := by
  refine .bind .read fun w => ?_
  generalize w.runtime.store.members block = items
  induction items with
  | nil => exact .pure _
  | cons v rest ih =>
    refine .bind .read fun w => .bind (kept _) fun result => ?_
    cases result with
    | some returned => exact .pure _
    | none => exact ih

/-- What is done on other trails leaves the trail as it is, up to some depth of nesting. -/
structure RunsApart (host : Host η) (trail : Address) (fuel : Nat) : Prop where
  fire : ∀ scope event own raising, own ≠ trail →
    Step.Keeps (World.Spares trail) (fire host fuel scope event own raising)
  runHandler : ∀ scope text label own, own ≠ trail →
    Step.Keeps (World.Spares trail) (runHandler host fuel scope text label own)
  reportFailure : ∀ scope report,
    Step.Keeps (World.Spares trail) (reportFailure host fuel scope report)
  runStep : ∀ scope own step, own ≠ trail →
    Step.Keeps (World.Spares trail) (runStep host fuel scope own step)
  settle : ∀ pending, pending.request.trail ≠ some trail →
    Step.Keeps (World.Spares trail) (settle host fuel pending)
  runLocal : ∀ node data scope own name, own ≠ trail →
    Step.Keeps (World.Spares trail) (runLocal host fuel node data scope own name)

include spares

variable {fuel : Nat} (inner : RunsApart host trail fuel)
include inner

theorem fire_spares (scope : Address) (event : Event) {own : Address} (raising : Bool)
    (apart : own ≠ trail) :
    Step.Keeps (World.Spares trail) (fire host (fuel + 1) scope event own raising) := by
  unfold fire
  refine .bind .read fun w => ?_
  dsimp only
  split
  · exact .bind (spares.unhandled event own) fun _ => .pure _
  · split
    · exact .pure _
    · refine .bind (spares.untraced.grows (Scope.makeSpecialChild_onlyGrows _ _ _)) fun running =>
        .bind (.attempt (inner.runHandler _ _ _ _ apart)) fun result => ?_
      cases result with
      | ok v => exact .pure _
      | error failure =>
        dsimp only
        split
        · exact .bind (spares.untraced.grows (wrapped_onlyGrows _ _ _)) fun _ => .raise _
        · exact .bind (spares.untraced.grows (.bind (.bind .store fun _ => .pure _) fun _ =>
              .make fun s => s.newTrail_adds _)) fun copy =>
            .bind (spares.untraced.grows (Report.make_onlyGrows _)) fun report =>
              .bind (fun _ => Store.putTrail_spares apart.symm _) fun _ =>
                .bind (inner.reportFailure _ _) fun _ => .pure _

theorem reportFailure_spares (scope report : Address) :
    Step.Keeps (World.Spares trail) (reportFailure host (fuel + 1) scope report) := by
  unfold reportFailure
  refine .bind .read fun w => ?_
  dsimp only
  split
  · exact spares.deliver report
  · refine make_spares _ fun own apart =>
      .bind (.attempt (inner.fire _ _ _ _ apart)) fun result => ?_
    cases result with
    | ok _ => exact .pure ()
    | error failure =>
      exact .bind (spares.deliver report) fun _ => .bind .read fun _ => spares.deliverNew _

theorem runStep_spares (scope : Address) {own : Address} (step : Dict) (apart : own ≠ trail) :
    Step.Keeps (World.Spares trail) (runStep host (fuel + 1) scope own step) := by
  have keeps := spares.untraced
  cases leads : nesting step with
  | nothing => exact runStep_keeps fuel scope own keeps leads
  | event =>
    rw [runStep_fire fuel scope own leads]
    exact .bind (keeps.grows (eventOf_onlyGrows _ _)) fun event =>
      .bind (inner.fire _ _ _ _ apart) fun _ => .pure _
  | call written =>
    intro w
    rw [runStep_call fuel scope own leads w]
    refine Step.Keeps.bind (.bind (keeps.grows (argumentsOf_onlyGrows _ _)) fun arguments =>
      framed_spares apart _ (.bind_at (keeps.start _ _ _ _) fun w pending mid made => ?_))
        (fun v => .bind (keeps.act (storeInto_untraced _ _ _)) fun _ => .pure _) w
    have own := Gateway.start_trail made
    exact inner.settle pending (by rw [own]; exact fun same => apart (Option.some.inj same)) mid

theorem settle_spares (pending : Pending) (apart : pending.request.trail ≠ some trail) :
    Step.Keeps (World.Spares trail) (settle host (fuel + 1) pending) := by
  rw [settle_eq]
  refine .bind ?_ fun answer => spares.settleAnswer _ _
  cases pending with
  | custom token request => exact spares.answer _ _
  | fetch plan request => exact spares.untraced.perform _
  | localBlock node name request =>
    refine .bind (spares.untraced.grows Scope.makeRoot_onlyGrows) fun scope => ?_
    have runs (own : Address) (differ : own ≠ trail) : Step.Keeps (World.Spares trail)
        (runLocal host fuel node request.data scope own name) := inner.runLocal _ _ _ _ _ differ
    cases given : request.trail with
    | some own => exact runs own fun same => apart (given.trans (congrArg some same))
    | none => exact make_spares _ runs

theorem runLocal_spares (node : Address) (data : Value) (scope : Address) {own : Address}
    (name : String) (apart : own ≠ trail) :
    Step.Keeps (World.Spares trail) (runLocal host (fuel + 1) node data scope own name) := by
  have keeps := spares.untraced
  unfold runLocal
  exact .bind (keeps.grows (Scope.makeSpecialChild_onlyGrows _ _ _)) fun running =>
    framed_spares apart _ <| .bind .read fun w => .bind (keeps.grows (.ofExcept _)) fun text =>
      .bind (keeps.grows (Block.read_onlyGrows _)) fun block =>
        runBlock_spares (fun step => inner.runStep _ _ step apart) block

theorem runHandler_spares (scope : Address) (text label : String) {own : Address}
    (apart : own ≠ trail) :
    Step.Keeps (World.Spares trail) (runHandler host (fuel + 1) scope text label own) := by
  unfold runHandler
  exact .bind (framed_spares apart _ (spares.untraced.grows (Block.read_onlyGrows _))) fun block =>
    framed_spares apart _ (runBlock_spares (fun step => inner.runStep _ _ step apart) block)

omit inner

theorem runsApart : ∀ fuel, RunsApart host trail fuel
  | 0 => ⟨fun _ _ _ _ _ => .exhaust,fun _ _ _ _ _ => .exhaust,fun _ _ => .exhaust,
    fun _ _ _ _ => .exhaust,fun _ _ => .exhaust,fun _ _ _ _ _ _ => .exhaust⟩
  | fuel + 1 => by
    have inner := runsApart fuel
    exact ⟨fun scope event own raising => fire_spares spares inner scope event raising,
      fun scope text label own => runHandler_spares spares inner scope text label,
      reportFailure_spares spares inner,
      fun scope own step => runStep_spares spares inner scope step,
      settle_spares spares inner,
      fun node data scope own name => runLocal_spares spares inner node data scope name⟩

end Apart

end Handler
end PageRuntime
