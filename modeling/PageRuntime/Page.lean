import PageRuntime.Call
import PageRuntime.Settings

/-! The life of a page: how a runtime starts, the roots and settings it is given, its initialisation
and what waits for that, and the capabilities that modules and host code have on it. -/
namespace PageRuntime
namespace Page

variable {η : Type}

/-- A runtime as it starts, before settings and modules are given to it. -/
def initial : Runtime :=
  let (globals, store) := Store.empty.newDict []
  let (state, store) := store.newDict []
  { store
    roots := [("global", globals), ("state", state)]
    lockedRoots := []
    settings := Settings.default
    clientId := Settings.default.clientId
    document := none
    page := .str "default"
    initialized := false
    postInit := []
    registry := Registry.empty
    modules := [("fetch", .fetch), ("local", .localBlocks)]
    journal := #[]
    alive := true
    debugVariable := false }

def useSettings (settings : Settings) : Act Unit :=
  Step.modify fun r =>
    { r with
      settings
      clientId := if settings.clientId == .null then r.clientId else settings.clientId }

def setSettings (source : Value) : Act Unit := do useSettings (← Settings.ofValue source)

def setGlobal (v : Value) : Act Unit := Step.modify (·.setRoot "global" v)

def isReserved (name : String) : Bool :=
  (RootKind.aliases.lookup name).isSome && name != "global" && name != "state"

/-- Registers an extension root. A locked root is written to by nobody but this. -/
def registerRoot (name : String) (v : Value) (locked : Bool) : Act Unit := do
  if isReserved name then Act.fail (.reservedRoot name)
  else
    Step.modify fun r =>
      let others := r.lockedRoots.filter (· != name)
      { r.setRoot name v with lockedRoots := if locked then name :: others else others }

def registerModule (name : String) (token : Nat) : Act Unit :=
  Step.modify fun r => { r with modules := Named.set name (.custom token) r.modules }

def postInitFailed (failure : Address) : Act Unit :=
  Journal.logFailure "ERROR in post-init queue:" failure

/-- Runs what waits for initialisation, in order; a failure is logged and the rest still runs. -/
def runPostInit (host : Host η) : Nat → Run η Unit
  | 0 => return ()
  | fuel + 1 => do
    match (← Step.read).runtime.postInit with
    | [] => return ()
    | token :: rest => do
      (Step.modify fun r => { r with postInit := rest } : Act Unit)
      match ← Step.attempt (host.postInit token) with
      | .ok () => runPostInit host fuel
      | .error failure => do
        postInitFailed failure
        runPostInit host fuel

def initializedPath : Value := .str "$state.hibiki.initialized"

/-- From here on nothing waits any more: the queue can only shrink while it is run. -/
def markInitialized (host : Host η) : Run η Unit := do
  (Step.modify fun r => { r with initialized := true } : Act Unit)
  let scope ← Scope.makeRoot
  Reference.setPath scope initializedPath (.bool true)
  runPostInit host (← Step.read).runtime.postInit.length

/-- Waits for initialisation, or runs at once after it. -/
def queuePostInit (host : Host η) (token : Nat) : Run η Unit := do
  if (← Step.read).runtime.initialized then host.postInit token
  else (Step.modify fun r => { r with postInit := r.postInit ++ [token] } : Act Unit)

/-- What modules and host code may do with paths: they see the runtime from a root scope. -/
def setData (path v : Value) : Act Unit := do
  Reference.setPath (← Scope.makeRoot) path v

def getData (path : Value) : Act Value := do
  Reference.resolvePath (← Scope.makeRoot) path

/-- What a path names when seen from a scope whose runtime was released. -/
def resolveReleased (path : Value) : Act Value := do
  let scope ← Scope.makeRoot
  (Step.modify fun r => { r with alive := false } : Act Unit)
  Reference.resolvePath scope path

def runActions (host : Host η) (actions : Value) : Run η Value :=
  ActionBatch.process host actions false

end Page
end PageRuntime
