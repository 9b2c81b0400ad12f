import PageRuntime.ActionBatch
import PageRuntime.Block
import PageRuntime.Event
import PageRuntime.Gateway
import PageRuntime.Trail

/-! Running handlers. Events, steps of blocks and calls of modules lead to one another, so they are
defined together; the fuel bounds how deep they nest, and running out of it is an ending of its own.

A handler that fails turns into an `error` event fired from its scope. A failure inside an error
handler is delivered together with the report it was handling, and starts no further error event. -/
namespace PageRuntime
namespace Handler

variable {η : Type}

/-- Runs steps in order until one says what the block returns. -/
def runSteps (step : Dict → Run η (Option Value)) : List Value → Run η Value
  | [] => return .null
  | v :: rest => do
    match ← step ((← Step.read).runtime.store.entries v) with
    | some returned => return returned
    | none => runSteps step rest

/-- Runs a block, given as the list of its steps. -/
def runBlock (step : Dict → Run η (Option Value)) (block : Value) : Run η Value := do
  runSteps step ((← Step.read).runtime.store.members block)

/-- Runs something inside a frame; a failure leaves the frame on the trail. -/
def framed {α : Type} (trail : Address) (frame : String) (step : Run η α) : Run η α := do
  Trail.push trail frame
  let result ← step
  Trail.pop trail
  return result

/-- What is called by the name of an event, for frames and messages. -/
def label (s : Store) (event : Event) (scope : Address) : String :=
  "handler for event '" ++ event.name ++ "' in [[" ++ s.htmlContext scope ++ "]]"

/-- Failures of handlers are wrapped once, with the trail they happened on. -/
def wrapped (label : String) (trail failure : Address) : Act Address := do
  let s ← Act.store
  match (s.failureAt failure).fault with
  | .handlerFailed _ => return failure
  | fault =>
    Act.make (·.newFailure
      ⟨.handlerFailed ("Error running " ++ label ++ ": " ++ fault.message), some failure,
        some trail⟩)

/-- The event that a `fire` step asks for. -/
def eventOf (scope : Address) (step : Dict) : Act Event := do
  let s ← Act.store
  let given := step.field "data"
  let data ← if s.isTrue given then Block.argument scope given else Act.make (·.newDict [])
  let s ← Act.store
  match s.mapping? data with
  | some d => return ⟨s.display (step.field "fire"), d, s.isTrue (step.field "bubble")⟩
  | none => Act.fail (.fireData (s.typeName data))

/-- The arguments of a `call` step; what is no list is the only argument. -/
def argumentsOf (scope : Address) (step : Dict) : Act Value := do
  let given := step.field "args"
  let arguments ←
    if (← Act.store).isTrue given then Block.argument scope given else Act.make (·.newList [])
  match arguments with
  | .list _ => return arguments
  | v => Act.make (·.newList [v])

def storeInto (scope : Address) (step : Dict) (v : Value) : Act Unit := do
  let target := step.field "into"
  if (← Act.store).isTrue target then Reference.setPath scope target v

def setStep (scope : Address) (step : Dict) (path : Value) : Act Unit := do
  let target ← Reference.ofValue scope path
  let v ← Block.writtenValue scope step
  Reference.set target v

/-- What is left to do with the answer of a module: actions are processed, and their value
counts. -/
def settleAnswer (host : Host η) (answer : Value) (isPure : Bool) : Run η Value := do
  match Action.listIn? (← Step.read).runtime.store answer with
  | some actions => ActionBatch.process host actions isPure
  | none => return answer

mutual

/-- Fires an event from a scope. A failing handler is reported, or raised if that is asked for. -/
def fire (host : Host η) : Nat → Address → Event → Address → Bool → Run η Value
  | 0, _, _, _, _ => Step.exhaust
  | fuel + 1, scope, event, trail, raising => do
    let s := (← Step.read).runtime.store
    match event.handlerScope? s scope with
    | none => do
      event.unhandled host trail
      return .null
    | some bound =>
      match s.handlerOf? bound event.name with
      | none => return .null
      | some handler => do
        let running ← Scope.makeSpecialChild (s.handlerScope bound handler) event.data
          (.described ("event:" ++ event.name))
        let label := label s event bound
        let depth := (s.trailAt trail).length
        match ← Step.attempt (runHandler host fuel running handler.text label trail) with
        | .ok v => return v
        | .error failure =>
          if raising then Step.raise (← wrapped label trail failure)
          else
            let frames ← Trail.copy trail
            let report ← Report.make
              ⟨"Error running " ++ label, some failure, some frames, none, some handler.text⟩
            Trail.cut trail depth
            reportFailure host fuel running report
            return .null
termination_by structural fuel => fuel

/-- Reads and runs the block of a handler, each inside its frame. -/
def runHandler (host : Host η) :
    Nat → Address → String → String → Address → Run η Value
  | 0, _, _, _, _ => Step.exhaust
  | fuel + 1, scope, text, label, trail => do
    let block ← framed trail ("Parsing " ++ label) (Block.read (.str text))
    framed trail ("Running " ++ label) (runBlock (runStep host fuel scope trail) block)
termination_by structural fuel => fuel

/-- Fires an `error` event that carries a report, or delivers the report if nobody handles that. -/
def reportFailure (host : Host η) : Nat → Address → Address → Run η Unit
  | 0, _, _ => Step.exhaust
  | fuel + 1, scope, report => do
    let s := (← Step.read).runtime.store
    let event : Event := ⟨"error", Dict.put [] "error" (.report report), true⟩
    match event.handlerScope? s scope with
    | none => Report.deliver host report
    | some _ => do
      let frames := ((s.reportAt report).trail.map s.trailAt).getD []
      let trail ← Trail.make frames
      match ← Step.attempt (fire host fuel scope event trail true) with
      | .ok _ => return ()
      | .error failure => do
        Report.deliver host report
        let trail := ((← Step.read).runtime.store.failureAt failure).trail
        Report.deliver host
          (← Report.make ⟨"Error in error handler", some failure, trail, none, none⟩)
termination_by structural fuel => fuel

/-- Runs one step; a value says that the block returns it. -/
def runStep (host : Host η) : Nat → Address → Address → Dict → Run η (Option Value)
  | 0, _, _, _ => Step.exhaust
  | fuel + 1, scope, trail, step => do
    let s := (← Step.read).runtime.store
    match step.field? "return" with
    | some v => return some (← Block.argument scope v)
    | none =>
    match step.field? "set" with
    | some path => do
      setStep scope step path
      return none
    | none =>
    match step.field? "fire" with
    | some _ => do
      let event ← eventOf scope step
      let _ ← fire host fuel scope event trail false
      return none
    | none =>
    match step.field? "call" with
    | some written => do
      let path := s.display written
      let arguments ← argumentsOf scope step
      let isPure := s.isTrue (step.field "pure")
      let v ← framed trail ("Calling handler " ++ path) (do
        let pending ← Gateway.start host (.str path) arguments (some trail) isPure
        settle host fuel pending)
      storeInto scope step v
      return none
    | none =>
    match step.field? "invalidate" with
    | some pattern => do
      let _ ← Sweep.invalidatePattern host (s.display pattern)
      return none
    | none =>
    match step.field? "actions" with
    | some written => do
      let actions ← Block.argument scope written
      let _ ← ActionBatch.process host actions false
      return none
    | none =>
    match step.field? "log" with
    | some written => do
      Journal.log [← Block.argument scope written]
      return none
    | none => return none
termination_by structural fuel => fuel

/-- Awaits a call. -/
def settle (host : Host η) : Nat → Pending → Run η Value
  | 0, _ => Step.exhaust
  | fuel + 1, pending => do
    let answer ← match pending with
      | .custom token request => host.answer token request
      | .localBlock node name request => do
        let scope ← Scope.makeRoot
        let trail ← match request.trail with
          | some trail => pure trail
          | none => Trail.make []
        runLocal host fuel node request.data scope trail name
      | .fetch plan _ => Fetch.perform host plan
    settleAnswer host answer pending.request.isPure
termination_by structural fuel => fuel

/-- Runs the block of a local handler with its arguments bound as `params`. -/
def runLocal (host : Host η) :
    Nat → Address → Value → Address → Address → String → Run η Value
  | 0, _, _, _, _, _ => Step.exhaust
  | fuel + 1, node, data, scope, trail, name => do
    let running ← Scope.makeSpecialChild scope (Dict.put [] "params" data)
      (.described ("local handler " ++ name))
    framed trail ("Running @local handler '" ++ name ++ "'") (do
      let text ← Act.ofExcept (Node.textContent (← Step.read).runtime.store node)
      let block ← Block.read text
      runBlock (runStep host fuel running trail) block)

termination_by structural fuel => fuel
end

/-- A local handler that is not called by a name of its own goes by the name its node declares. -/
def localName (s : Store) (node : Address) (name : Value) : String :=
  if s.isTrue name then s.display name else s.display ((s.nodeAt node).attrs.field "name")

end Handler
end PageRuntime
