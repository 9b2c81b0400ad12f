import PageRuntime.Action
import PageRuntime.Document
import PageRuntime.Registry
import PageRuntime.Setop
import PageRuntime.Value.Copy

/-! Batches of actions. Records are applied in order from the root scope, inside one batch of the
registry, so that refreshes come after the last write. Actions on the return selector build the
value of the batch and touch no state. A record that is malformed or fails is logged and passed
over, unless failures of its kind are to be raised. -/
namespace PageRuntime
namespace ActionBatch
open Reference (Target)

variable {η : Type}

def copyOf (v : Value) : Act Value := do
  let (copied, s) ← Act.ofExcept ((← Act.store).deepCopy v)
  Act.update fun _ => s
  return copied

/-- The value of the batch after an action on the return selector. -/
def capture (action : Action) (returned : Value) : Act Value := do
  match action.kind with
  | .setData => return action.data
  | .blob => Blob.make action.mediaType action.base64
  | .extendBlob =>
    match returned with
    | .blob a => do
      Blob.extend a action.base64
      return returned
    | _ => Act.fail (.noBlob (action.selector.getD "None"))
  | .invalidate | .html => return returned

/-- The location that an action is on. -/
def target (scope : Address) (action : Action) : Act Target := do
  return .place scope (← Act.ofExcept (Path.read (action.selector.getD "")))

def applyData (scope : Address) (action : Action) : Act Unit := do
  let target ← target scope action
  let data ← copyOf action.data
  Setop.applyNamed action.setop target data

def applyBlob (scope : Address) (action : Action) : Act Unit := do
  let target ← target scope action
  let blob ← Blob.make action.mediaType action.base64
  target.set blob

def extendBlob (scope : Address) (action : Action) : Act Unit := do
  let target ← target scope action
  match ← target.get with
  | .blob a => Blob.extend a action.base64
  | _ => Act.fail (.noBlob (action.selector.getD "None"))

/-- An invalidation without a selector is of everything. -/
def sweep (host : Host η) (action : Action) : Run η Unit := do
  let pattern := action.selector.getD ""
  let _ ← if pattern.isEmpty then Sweep.invalidateAll host else Sweep.invalidatePattern host pattern

def apply (host : Host η) (scope : Address) (action : Action) : Run η Unit :=
  match action.kind with
  | .setData => applyData scope action
  | .blob => applyBlob scope action
  | .extendBlob => extendBlob scope action
  | .invalidate => sweep host action
  | .html => Document.replace host action.data

/-- The action kind that decides how a failing record is treated: its canonical name, or what is
written if that names no kind. -/
def severityKind (s : Store) (written : Value) : Except Fault (Option String) :=
  match kindOf? written, written with
  | some kind, _ => .ok (some kind.name)
  | none, .null => .ok none
  | none, .str text => .ok (some text)
  | none, written =>
    match s.key? written with
    | some _ => .ok none
    | none => .error (.misuse .type ("unhashable type: '" ++ s.typeName written ++ "'"))
where
  kindOf? (written : Value) : Option ActionKind := Action.kindOf? s written

def failed (index : Nat) (record : Value) (failure : Address) : Act Unit := do
  let r ← Step.read
  let s := r.store
  let written := ((s.mapping? record).map Action.writtenKind).getD .null
  let kind ← Act.ofExcept (severityKind s written)
  if r.settings.severityOf kind == .raise then Step.raise failure
  else
    Journal.logFailure
      ("Skipping action #" ++ toString index ++ " (" ++ s.display written ++ "):") failure

/-- Applies one record and gives the value of the batch after it. -/
def attemptRecord (host : Host η) (scope : Address) (captureOnly : Bool) (record returned : Value) :
    Run η Value := do
  let action ← Act.ofExcept (Action.ofRecord (← Step.read).runtime.store record)
  if action.kind.canReturn && action.selector == some Action.returnSelector then
    capture action returned
  else if captureOnly then return returned
  else
    apply host scope action
    return returned

def processRecord (host : Host η) (scope : Address) (captureOnly : Bool) (index : Nat)
    (record returned : Value) : Run η Value := do
  match ← Step.attempt (attemptRecord host scope captureOnly record returned) with
  | .ok returned => return returned
  | .error failure => do
    failed index record failure
    return returned

def processAll (host : Host η) (scope : Address) (captureOnly : Bool) :
    Nat → List Value → Value → Run η Value
  | _, [], returned => return returned
  | index, record :: rest, returned => do
    let returned ← processRecord host scope captureOnly index record returned
    processAll host scope captureOnly (index + 1) rest returned

/-- How many records a list may gain while it is being processed. -/
def growthLimit : Nat := 1000000

/-- Takes the records of a list that lives in the store: each is looked up when its turn comes,
since the actions before it may have changed the list. -/
def processLive (host : Host η) (scope : Address) (captureOnly : Bool) (list : Address) :
    Nat → Nat → Value → Run η Value
  | 0, _, _ => Step.exhaust
  | fuel + 1, index, returned => do
    match ((← Step.read).runtime.store.listAt list)[index]? with
    | none => return returned
    | some record => do
      let returned ← processRecord host scope captureOnly index record returned
      processLive host scope captureOnly list fuel (index + 1) returned

def processItems (host : Host η) (scope : Address) (captureOnly : Bool) (actions : Value) :
    Run η Value := do
  let s := (← Step.read).runtime.store
  match actions with
  | .list a =>
    processLive host scope captureOnly a ((s.listAt a).length + growthLimit) 0 .null
  | actions => do
    let records ← Act.ofExcept (s.itemsOf actions)
    processAll host scope captureOnly 0 records .null

/-- Applies all records and gives the value they built. When only capturing, records that would
touch state are passed over. -/
def process (host : Host η) (actions : Value) (captureOnly : Bool) : Run η Value := do
  if actions == .null then return .null
  else
    let scope ← Scope.makeRoot
    Sweep.batch host (processItems host scope captureOnly actions)

end ActionBatch
end PageRuntime
