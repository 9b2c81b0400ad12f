import PageRuntime.Document
import PageRuntime.Fetch

/-! The way from a handler path to the module that services it. Path, module and arguments are
checked when a call is made; what the call yields is settled when it is awaited. -/
namespace PageRuntime

/-- A call that was made and not yet awaited. -/
inductive Pending
  | custom (token : Nat) (request : Request)
  | localBlock (node : Address) (name : String) (request : Request)
  | fetch (plan : Fetch.Plan) (request : Request)

def Pending.request : Pending → Request
  | .custom _ request => request
  | .localBlock _ _ request => request
  | .fetch _ request => request

namespace Gateway

variable {η : Type}

def readPath (s : Store) (path : Value) : Except Fault HandlerPath :=
  match path with
  | .str text =>
    match HandlerPath.read? text with
    | some found => .ok found
    | none => .error (.invalidHandlerPath (Text.quote text))
  | v => .error (.invalidHandlerPath (s.shown v))

/-- The arguments of a call in a list of its own; null and emptiness stand for none. -/
def argumentList (arguments : Value) : Act Value := do
  let s ← Act.store
  let items ← if s.isTrue arguments then Act.ofExcept (s.itemsOf arguments) else pure []
  Act.make (·.newList items)

def moduleOf (found : HandlerPath) (path : Value) : Act Module := do
  let r ← Step.read
  match r.modules.lookup found.namespace_ with
  | some module_ => return module_
  | none => Act.fail (.unknownModule found.namespace_ (r.store.display path))

/-- Local handlers are declared under `/@local` and the path within it. -/
def localName (found : HandlerPath) : String := "/@local" ++ found.path

def findLocal (found : HandlerPath) : Act Address := do
  match ← Document.localHandler? (.str (localName found)) with
  | some node => return node
  | none => Act.fail (.general ("No local handler found for '" ++ localName found ++ "'"))

/-- Makes a call. Nothing of what a module does to answer it happens yet. -/
def start (host : Host η) (path arguments : Value) (trail : Option Address) (isPure : Bool) :
    Run η Pending := do
  let found ← Act.ofExcept (readPath (← Step.read).runtime.store path)
  let module_ ← moduleOf found path
  let data ← argumentList arguments
  let request : Request := ⟨found, data, trail, isPure⟩
  match module_ with
  | .custom token => do
    host.accept token request
    return .custom token request
  | .localBlocks => do
    let node ← findLocal found
    return .localBlock node (localName found) request
  | .fetch => do
    let plan ← Fetch.plan host request
    return .fetch plan request

end Gateway
end PageRuntime
