import PageRuntime.Handler
import PageRuntime.Proofs.Step

/-! Accounts of what handlers do. The same interpreter runs once more here and tells as it goes which
handlers it starts, how they end and which reports it delivers; what it tells changes nothing about
the run. -/
namespace PageRuntime

variable {η α β : Type}

/-- The event that carries a report to the error handlers. -/
def Event.ofReport (report : Address) : Event := ⟨"error",Dict.put [] "error" (.report report),true⟩

/-- How a handler is started: for which event, bound on which scope, in which scope it runs, and
whether its failure is raised or reported. -/
structure Start where
  event : Event
  bound : Address
  running : Address
  raising : Bool
  store : Store

/-- How a handler has failed: with which failure, what tells of it from then on, be it a report or
the failure that is raised, and the store it has left. -/
structure Failed where
  failure : Address
  told : Address
  store : Store

/-- What handlers did, in order. What a handler did itself, and what came of its failure, are
accounts of their own. -/
inductive Account
  | nil
  /-- A report is delivered because a handler has failed. -/
  | delivered (report : Address) (content : Report) (rest : Account)
  /-- An `error` event that nobody handles delivers what it carries. -/
  | unhandled (event : Event) (report : Address) (content : Report) (rest : Account)
  | completed (start : Start) (inner rest : Account)
  | raised (start : Start) (inner : Account) (failed : Failed) (rest : Account)
  | reported (start : Start) (inner : Account) (failed : Failed) (aftermath rest : Account)

namespace Account

def append : Account → Account → Account
  | nil, more => more
  | delivered report content rest, more => delivered report content (rest.append more)
  | unhandled event report content rest, more => unhandled event report content (rest.append more)
  | completed start inner rest, more => completed start inner (rest.append more)
  | raised start inner failed rest, more => raised start inner failed (rest.append more)
  | reported start inner failed aftermath rest, more =>
    reported start inner failed aftermath (rest.append more)

instance : Append Account := ⟨append⟩

/-- The reports that were delivered, in order. -/
def deliveries : Account → List Address
  | nil => []
  | delivered report _ rest => report :: rest.deliveries
  | unhandled _ report _ rest => report :: rest.deliveries
  | completed _ inner rest => inner.deliveries ++ rest.deliveries
  | raised _ inner _ rest => inner.deliveries ++ rest.deliveries
  | reported _ inner _ aftermath rest =>
    inner.deliveries ++ (aftermath.deliveries ++ rest.deliveries)

/-- The reports that tell of failed handlers. -/
def failureReports : Account → List Address
  | nil => []
  | delivered _ _ rest => rest.failureReports
  | unhandled _ _ _ rest => rest.failureReports
  | completed _ inner rest => inner.failureReports ++ rest.failureReports
  | raised _ inner _ rest => inner.failureReports ++ rest.failureReports
  | reported _ inner failed aftermath rest =>
    inner.failureReports ++ failed.told :: (aftermath.failureReports ++ rest.failureReports)

@[simp] theorem append_nil (account : Account) : account ++ nil = account := by
  induction account with
  | nil => rfl
  | delivered report content rest ih => exact congrArg (delivered report content) ih
  | unhandled event report content rest ih => exact congrArg (unhandled event report content) ih
  | completed start inner rest _ ih => exact congrArg (completed start inner) ih
  | raised start inner failed rest _ ih => exact congrArg (raised start inner failed) ih
  | reported start inner failed aftermath rest _ _ ih =>
    exact congrArg (reported start inner failed aftermath) ih

theorem deliveries_append (account more : Account) :
    (account ++ more).deliveries = account.deliveries ++ more.deliveries := by
  induction account with
  | nil => rfl
  | delivered report content rest ih => exact congrArg (report :: ·) ih
  | unhandled event report content rest ih => exact congrArg (report :: ·) ih
  | completed start inner rest _ ih =>
    show inner.deliveries ++ (rest ++ more).deliveries = _
    rw [ih,← List.append_assoc]
    rfl
  | raised start inner failed rest _ ih =>
    show inner.deliveries ++ (rest ++ more).deliveries = _
    rw [ih,← List.append_assoc]
    rfl
  | reported start inner failed aftermath rest _ _ ih =>
    show inner.deliveries ++ (aftermath.deliveries ++ (rest ++ more).deliveries) = _
    rw [ih]
    simp only [deliveries,List.append_assoc]

end Account

/-- Steps over a world that tell what they do. -/
def Told (η α : Type) : Type := World η → (Outcome α × World η) × Account

namespace Told

def pure (x : α) : Told η α := fun w => ((.done x, w), .nil)

def bind (first : Told η α) (next : α → Told η β) : Told η β := fun w =>
  match first w with
  | ((.done x, after), account) => ((next x after).1, account ++ (next x after).2)
  | ((.raised failure, after), account) => ((.raised failure, after), account)
  | ((.exhausted, after), account) => ((.exhausted, after), account)

instance : Monad (Told η) where
  pure := pure
  bind := bind

/-- A step that has nothing to tell. -/
def ofRun (run : Run η α) : Told η α := fun w => (run w, .nil)

instance : MonadLift (Run η) (Told η) := ⟨ofRun⟩

def world : Told η (World η) := ofRun Step.read

def exhaust : Told η α := ofRun Step.exhaust

def raise (failure : Address) : Told η α := ofRun (Step.raise failure)

def tell (account : Account) : Told η Unit := fun w => ((.done (), w), account)

/-- Runs a step, turns a raised failure into a value, and hands over what was told instead of
telling it. -/
def watch (step : Told η α) : Told η (Except Address α × Account) := fun w =>
  match step w with
  | ((.done x, after), account) => ((.done (.ok x, account), after), .nil)
  | ((.raised failure, after), account) => ((.done (.error failure, account), after), .nil)
  | ((.exhausted, after), _) => ((.exhausted, after), .nil)

/-- Delivers a report and tells of it. -/
def deliver (host : Host η) (item : Address → Report → Account → Account) (report : Address) :
    Told η Unit := do
  let content := (← world).runtime.store.reportAt report
  tell (item report content .nil)
  Report.deliver host report

def unhandled (host : Host η) (event : Event) (trail : Address) : Told η Unit := do
  let s := (← world).runtime.store
  let carried := if event.name == "error" then event.data.field "error" else .null
  match carried with
  | .null => Journal.write (Fault.unhandledEvent event.name).message
  | .report report => deliver host (.unhandled event) report
  | .failure failure => do
    deliver host (.unhandled event)
      (← Report.make ⟨s.display carried, some failure, some trail, none, none⟩)
  | v => do
    deliver host (.unhandled event) (← Report.make ⟨s.display v, none, some trail, none, none⟩)

def runSteps (step : Dict → Told η (Option Value)) : List Value → Told η Value
  | [] => return .null
  | v :: rest => do
    match ← step ((← world).runtime.store.entries v) with
    | some returned => return returned
    | none => runSteps step rest

def runBlock (step : Dict → Told η (Option Value)) (block : Value) : Told η Value := do
  runSteps step ((← world).runtime.store.members block)

def framed (trail : Address) (frame : String) (step : Told η α) : Told η α := do
  Trail.push trail frame
  let result ← step
  Trail.pop trail
  return result

mutual

def fire (host : Host η) : Nat → Address → Event → Address → Bool → Told η Value
  | 0, _, _, _, _ => exhaust
  | fuel + 1, scope, event, trail, raising => do
    let s := (← world).runtime.store
    match event.handlerScope? s scope with
    | none => do
      unhandled host event trail
      return .null
    | some bound =>
      match s.handlerOf? bound event.name with
      | none => return .null
      | some handler => do
        let running ← Scope.makeSpecialChild (s.handlerScope bound handler) event.data
          (.described ("event:" ++ event.name))
        let label := Handler.label s event bound
        let depth := (s.trailAt trail).length
        let start : Start := ⟨event, bound, running, raising, (← world).runtime.store⟩
        let (result, inner) ← watch (runHandler host fuel running handler.text label trail)
        match result with
        | .ok v => do
          tell (.completed start inner .nil)
          return v
        | .error failure =>
          if raising then do
            let outer ← Handler.wrapped label trail failure
            tell (.raised start inner ⟨failure, outer, (← world).runtime.store⟩ .nil)
            raise outer
          else do
            let frames ← Trail.copy trail
            let report ← Report.make
              ⟨"Error running " ++ label, some failure, some frames, none, some handler.text⟩
            Trail.cut trail depth
            let failed : Failed := ⟨failure, report, (← world).runtime.store⟩
            let (settled, aftermath) ← watch (reportFailure host fuel running report)
            tell (.reported start inner failed aftermath .nil)
            match settled with
            | .ok () => return .null
            | .error failure => raise failure
termination_by structural fuel => fuel

def runHandler (host : Host η) :
    Nat → Address → String → String → Address → Told η Value
  | 0, _, _, _, _ => exhaust
  | fuel + 1, scope, text, label, trail => do
    let block ← framed trail ("Parsing " ++ label) (Block.read (.str text))
    framed trail ("Running " ++ label) (runBlock (runStep host fuel scope trail) block)
termination_by structural fuel => fuel

def reportFailure (host : Host η) : Nat → Address → Address → Told η Unit
  | 0, _, _ => exhaust
  | fuel + 1, scope, report => do
    let s := (← world).runtime.store
    let event := Event.ofReport report
    match event.handlerScope? s scope with
    | none => deliver host .delivered report
    | some _ => do
      let frames := ((s.reportAt report).trail.map s.trailAt).getD []
      let trail ← Trail.make frames
      let (result, account) ← watch (fire host fuel scope event trail true)
      tell account
      match result with
      | .ok _ => return ()
      | .error failure => do
        deliver host .delivered report
        let trail := ((← world).runtime.store.failureAt failure).trail
        deliver host .delivered
          (← Report.make ⟨"Error in error handler", some failure, trail, none, none⟩)
termination_by structural fuel => fuel

def runStep (host : Host η) : Nat → Address → Address → Dict → Told η (Option Value)
  | 0, _, _, _ => exhaust
  | fuel + 1, scope, trail, step => do
    let s := (← world).runtime.store
    match step.field? "return" with
    | some v => return some (← Block.argument scope v)
    | none =>
    match step.field? "set" with
    | some path => do
      Handler.setStep scope step path
      return none
    | none =>
    match step.field? "fire" with
    | some _ => do
      let event ← Handler.eventOf scope step
      let _ ← fire host fuel scope event trail false
      return none
    | none =>
    match step.field? "call" with
    | some written => do
      let path := s.display written
      let arguments ← Handler.argumentsOf scope step
      let isPure := s.isTrue (step.field "pure")
      let v ← framed trail ("Calling handler " ++ path) (do
        let pending ← Gateway.start host (.str path) arguments (some trail) isPure
        settle host fuel pending)
      Handler.storeInto scope step v
      return none
    | none =>
    match step.field? "invalidate" with
    | some pattern => do
      let _ ← Sweep.invalidatePattern host (s.display pattern)
      return none
    | none =>
    match step.field? "actions" with
    | some written => do
      let actions ← Block.argument scope written
      let _ ← ActionBatch.process host actions false
      return none
    | none =>
    match step.field? "log" with
    | some written => do
      Journal.log [← Block.argument scope written]
      return none
    | none => return none
termination_by structural fuel => fuel

def settle (host : Host η) : Nat → Pending → Told η Value
  | 0, _ => exhaust
  | fuel + 1, pending => do
    let answer ← match pending with
      | .custom token request => host.answer token request
      | .localBlock node name request => do
        let scope ← Scope.makeRoot
        let trail ← match request.trail with
          | some trail => Pure.pure trail
          | none => Trail.make []
        runLocal host fuel node request.data scope trail name
      | .fetch plan _ => Fetch.perform host plan
    Handler.settleAnswer host answer pending.request.isPure
termination_by structural fuel => fuel

def runLocal (host : Host η) :
    Nat → Address → Value → Address → Address → String → Told η Value
  | 0, _, _, _, _, _ => exhaust
  | fuel + 1, node, data, scope, trail, name => do
    let running ← Scope.makeSpecialChild scope (Dict.put [] "params" data)
      (.described ("local handler " ++ name))
    framed trail ("Running @local handler '" ++ name ++ "'") (do
      let text ← Act.ofExcept (Node.textContent (← world).runtime.store node)
      let block ← Block.read text
      runBlock (runStep host fuel running trail) block)

termination_by structural fuel => fuel
end

/-- The step that is left of a telling one once nothing is told. -/
def Erases (step : Told η α) (run : Run η α) : Prop := ∀ w, (step w).1 = run w

namespace Erases

theorem ofRun (run : Run η α) : Erases (Told.ofRun run) run := fun _ => rfl

theorem pure (x : α) : Erases (Pure.pure x : Told η α) (Pure.pure x) := fun _ => rfl

theorem bind {step : Told η α} {run : Run η α} {next : α → Told η β} {onwards : α → Run η β}
    (erases : Erases step run) (later : ∀ x, Erases (next x) (onwards x)) :
    Erases (step >>= next) (run >>= onwards) := by
  intro w
  show (Told.bind step next w).1 = Step.bind run onwards w
  unfold Told.bind Step.bind
  rw [← erases w]
  cases step w with
  | mk ended account =>
    obtain ⟨ending,after⟩ := ended
    cases ending with
    | done x => exact later x after
    | raised failure => rfl
    | exhausted => rfl

theorem look {next : World η → Told η β} {onwards : World η → Run η β}
    (later : ∀ u, Erases (next u) (onwards u)) : Erases (world >>= next) (Step.read >>= onwards) :=
  bind (ofRun Step.read) later

/-- Looking at the world without need is left out. -/
theorem glance {next : World η → Told η β} {run : Run η β} (later : ∀ u, Erases (next u) run) :
    Erases (world >>= next) run := fun w => later w w

theorem tell (account : Account) {next : Unit → Told η β} {run : Run η β}
    (later : Erases (next ()) run) : Erases (Told.tell account >>= next) run := fun w => later w

theorem watch {step : Told η α} {run : Run η α} {next : Except Address α × Account → Told η β}
    {onwards : Except Address α → Run η β} (erases : Erases step run)
    (later : ∀ result account, Erases (next (result,account)) (onwards result)) :
    Erases (Told.watch step >>= next) (Step.attempt run >>= onwards) := by
  intro w
  show (Told.bind (Told.watch step) next w).1 = Step.bind (Step.attempt run) onwards w
  unfold Told.bind Step.bind Told.watch Step.attempt
  rw [← erases w]
  cases step w with
  | mk ended account =>
    obtain ⟨ending,after⟩ := ended
    cases ending with
    | done x => exact later (.ok x) account after
    | raised failure => exact later (.error failure) account after
    | exhausted => rfl

/-- A step that is watched and whose failure is raised again is left as it was. -/
theorem watched {step : Told η α} {run : Run η α} {next : Except Address α × Account → Told η β}
    {onwards : α → Run η β} (erases : Erases step run)
    (done : ∀ x account, Erases (next (.ok x,account)) (onwards x))
    (raised : ∀ failure account, Erases (next (.error failure,account)) (Step.raise failure)) :
    Erases (Told.watch step >>= next) (run >>= onwards) := by
  intro w
  show (Told.bind (Told.watch step) next w).1 = Step.bind run onwards w
  unfold Told.bind Step.bind Told.watch
  rw [← erases w]
  cases step w with
  | mk ended account =>
    obtain ⟨ending,after⟩ := ended
    cases ending with
    | done x => exact done x account after
    | raised failure => exact raised failure account after
    | exhausted => rfl

theorem deliver (host : Host η) (item : Address → Report → Account → Account) (report : Address) :
    Erases (Told.deliver host item report) (Report.deliver host report) :=
  glance fun _ => tell _ (ofRun _)

theorem unhandled (host : Host η) (event : Event) (trail : Address) :
    Erases (Told.unhandled host event trail) (event.unhandled host trail) := by
  refine look fun u => ?_
  dsimp only
  generalize (if event.name == "error" then event.data.field "error" else Value.null) = carried
  cases carried with
  | null => exact ofRun _
  | report report => exact deliver host _ report
  | _ => exact bind (ofRun _) fun _ => deliver host _ _

section Blocks

variable {step : Dict → Told η (Option Value)} {plain : Dict → Run η (Option Value)}
  (steps : ∀ d, Erases (step d) (plain d))
include steps

theorem runSteps (items : List Value) :
    Erases (Told.runSteps step items) (Handler.runSteps plain items) := by
  induction items with
  | nil => exact pure _
  | cons v rest ih =>
    refine look fun u => bind (steps _) fun result => ?_
    cases result with
    | some returned => exact pure returned
    | none => exact ih

theorem runBlock (block : Value) :
    Erases (Told.runBlock step block) (Handler.runBlock plain block) :=
  look fun _ => runSteps steps _

end Blocks

theorem framed {step : Told η α} {run : Run η α} (trail : Address) (frame : String)
    (erases : Erases step run) :
    Erases (Told.framed trail frame step) (Handler.framed trail frame run) :=
  bind (ofRun _) fun _ => bind erases fun _ => bind (ofRun _) fun _ => pure _

end Erases

/-- The telling interpreter runs as the plain one up to some depth of nesting. -/
structure Faithful (host : Host η) (fuel : Nat) : Prop where
  fire : ∀ scope event trail raising,
    Erases (fire host fuel scope event trail raising) (Handler.fire host fuel scope event trail raising)
  runHandler : ∀ scope text label trail,
    Erases (runHandler host fuel scope text label trail)
      (Handler.runHandler host fuel scope text label trail)
  reportFailure : ∀ scope report,
    Erases (reportFailure host fuel scope report) (Handler.reportFailure host fuel scope report)
  runStep : ∀ scope trail step,
    Erases (runStep host fuel scope trail step) (Handler.runStep host fuel scope trail step)
  settle : ∀ pending, Erases (settle host fuel pending) (Handler.settle host fuel pending)
  runLocal : ∀ node data scope trail name,
    Erases (runLocal host fuel node data scope trail name)
      (Handler.runLocal host fuel node data scope trail name)

namespace Faithful
open Erases (look glance)

variable {host : Host η} {fuel : Nat} (faithful : Faithful host fuel)
include faithful

theorem fire_succ (scope : Address) (event : Event) (trail : Address) (raising : Bool) :
    Erases (Told.fire host (fuel + 1) scope event trail raising)
      (Handler.fire host (fuel + 1) scope event trail raising) := by
  unfold Told.fire Handler.fire
  refine look fun u => ?_
  dsimp only
  cases event.handlerScope? u.runtime.store scope with
  | none => exact .bind (.unhandled host event trail) fun _ => .pure _
  | some bound =>
    dsimp only
    cases u.runtime.store.handlerOf? bound event.name with
    | none => exact .pure _
    | some handler =>
      refine .bind (.ofRun _) fun running => glance fun v =>
        .watch (faithful.runHandler _ _ _ _) fun result inner => ?_
      cases result with
      | ok v => exact .tell _ (.pure v)
      | error failure =>
        cases raising with
        | true => exact .bind (.ofRun _) fun outer => glance fun _ => .tell _ (.ofRun _)
        | false =>
          exact .bind (.ofRun _) fun frames => .bind (.ofRun _) fun report => .bind (.ofRun _)
            fun _ => glance fun _ => .watched (faithful.reportFailure _ _)
              (fun _ _ => .tell _ (.pure _)) fun _ _ => .tell _ (.ofRun _)

theorem runHandler_succ (scope : Address) (text label : String) (trail : Address) :
    Erases (Told.runHandler host (fuel + 1) scope text label trail)
      (Handler.runHandler host (fuel + 1) scope text label trail) := by
  unfold Told.runHandler Handler.runHandler
  exact .bind (.framed _ _ (.ofRun _)) fun block => .framed _ _ (.runBlock (faithful.runStep _ _) _)

theorem reportFailure_succ (scope report : Address) :
    Erases (Told.reportFailure host (fuel + 1) scope report)
      (Handler.reportFailure host (fuel + 1) scope report) := by
  unfold Told.reportFailure Handler.reportFailure
  refine look fun u => ?_
  dsimp only [Event.ofReport]
  cases Event.handlerScope? u.runtime.store scope
    ⟨"error",Dict.put [] "error" (.report report),true⟩ with
  | none => exact .deliver host _ _
  | some _ =>
    refine .bind (.ofRun _) fun trail => .watch (faithful.fire _ _ _ _) fun result account =>
      .tell _ ?_
    cases result with
    | ok v => exact .pure ()
    | error failure =>
      exact .bind (.deliver host _ _) fun _ => look fun _ => .bind (.ofRun _) fun _ =>
        .deliver host _ _

theorem runStep_succ (scope trail : Address) (step : Dict) :
    Erases (Told.runStep host (fuel + 1) scope trail step)
      (Handler.runStep host (fuel + 1) scope trail step) := by
  unfold Told.runStep Handler.runStep
  refine look fun u => ?_
  dsimp only
  cases step.field? "return" with
  | some v => exact .bind (.ofRun _) fun _ => .pure _
  | none =>
  dsimp only
  cases step.field? "set" with
  | some path => exact .bind (.ofRun _) fun _ => .pure _
  | none =>
  dsimp only
  cases step.field? "fire" with
  | some _ => exact .bind (.ofRun _) fun event => .bind (faithful.fire _ _ _ _) fun _ => .pure _
  | none =>
  dsimp only
  cases step.field? "call" with
  | some written =>
    exact .bind (.ofRun _) fun arguments => .bind (.framed _ _ (.bind (.ofRun _) fun pending =>
      faithful.settle pending)) fun v => .bind (.ofRun _) fun _ => .pure _
  | none =>
  dsimp only
  cases step.field? "invalidate" with
  | some pattern => exact .bind (.ofRun _) fun _ => .pure _
  | none =>
  dsimp only
  cases step.field? "actions" with
  | some written => exact .bind (.ofRun _) fun _ => .bind (.ofRun _) fun _ => .pure _
  | none =>
  dsimp only
  cases step.field? "log" with
  | some written => exact .bind (.ofRun _) fun _ => .bind (.ofRun _) fun _ => .pure _
  | none => exact .pure _

theorem settle_succ (pending : Pending) :
    Erases (Told.settle host (fuel + 1) pending) (Handler.settle host (fuel + 1) pending) := by
  unfold Told.settle Handler.settle
  cases pending with
  | custom token request => exact .bind (.ofRun _) fun answer => .ofRun _
  | localBlock node name request =>
    refine .bind (.ofRun _) fun scope => ?_
    have runs (trail : Address) : Erases
        (Told.runLocal host fuel node request.data scope trail name >>= fun answer =>
          Told.ofRun (Handler.settleAnswer host answer request.isPure))
        (Handler.runLocal host fuel node request.data scope trail name >>= fun answer =>
          Handler.settleAnswer host answer request.isPure) :=
      .bind (faithful.runLocal _ _ _ _ _) fun answer => .ofRun _
    dsimp only
    cases request.trail with
    | some trail => exact .bind (.pure trail) runs
    | none => exact .bind (.ofRun _) runs
  | fetch plan request => exact .bind (.ofRun _) fun answer => .ofRun _

theorem runLocal_succ (node : Address) (data : Value) (scope trail : Address) (name : String) :
    Erases (Told.runLocal host (fuel + 1) node data scope trail name)
      (Handler.runLocal host (fuel + 1) node data scope trail name) := by
  unfold Told.runLocal Handler.runLocal
  exact .bind (.ofRun _) fun running => .framed _ _ <| look fun u => .bind (.ofRun _) fun text =>
    .bind (.ofRun _) fun block => .runBlock (faithful.runStep _ _) _

end Faithful

theorem faithful (host : Host η) : ∀ fuel, Faithful host fuel
  | 0 => ⟨fun _ _ _ _ => .ofRun _,fun _ _ _ _ => .ofRun _,fun _ _ => .ofRun _,
    fun _ _ _ => .ofRun _,fun _ => .ofRun _,fun _ _ _ _ _ => .ofRun _⟩
  | fuel + 1 =>
    have inner := faithful host fuel
    ⟨inner.fire_succ,inner.runHandler_succ,inner.reportFailure_succ,inner.runStep_succ,
      inner.settle_succ,inner.runLocal_succ⟩

end Told
end PageRuntime
