import PageRuntime.Named
import PageRuntime.Step
import PageRuntime.Store

/-! The state of one page runtime: the store, the data roots, the settings, the registry of mounted
queries, the module table, the document, and the journal of what was logged. `Act` steps touch this
state alone; what needs the host is built on top. -/
namespace PageRuntime

inductive Severity
  | log
  | raise
deriving DecidableEq

def Severity.name : Severity → String
  | log => "log"
  | raise => "raise"

structure Settings where
  hideUsageImage : Value
  hideWelcome : Value
  fetchTimeout : Number.Binary64
  fetchRetries : Int
  fetchBackoff : Number.Binary64
  severities : Named Severity
  debug : Value
  clientId : Value

namespace Settings

def default : Settings where
  hideUsageImage := .bool false
  hideWelcome := .bool false
  fetchTimeout := ⟨0x4014000000000000⟩
  fetchRetries := 0
  fetchBackoff := ⟨0x3FC999999999999A⟩
  severities := []
  debug := .bool false
  clientId := .null

/-- The severity of failing actions of a kind; the kind `*` stands for all without one of their
own. -/
def severityOf (settings : Settings) (kind : Option String) : Severity :=
  let fallback := (settings.severities.lookup "*").getD .log
  match kind with
  | some kind => (settings.severities.lookup kind).getD fallback
  | none => fallback

end Settings

/-- A mounted query. The serial number tells registrations of one id apart; an owned registration
lives no longer than its owner. -/
structure Registration where
  serial : Nat
  key : Key
  id : Value
  query : String
  callback : Nat
  owner : Option Nat
deriving DecidableEq

/-- Registrations by id, in the order in which the ids were first registered, and those whose
refresh waits for the outermost batch to close. -/
structure Registry where
  entries : List Registration
  pending : List Registration
  depth : Nat
  nextSerial : Nat
  goneOwners : List Nat
deriving DecidableEq

/-- What services a handler namespace. -/
inductive Module
  | fetch
  | localBlocks
  | custom (token : Nat)
deriving DecidableEq

inductive Entry
  | log (text : String)
  | debug (line : String)
deriving DecidableEq

structure Runtime where
  store : Store
  roots : Named Value
  lockedRoots : List String
  settings : Settings
  clientId : Value
  document : Option Address
  page : Value
  initialized : Bool
  postInit : List Nat
  registry : Registry
  modules : Named Module
  journal : Array Entry
  alive : Bool
  debugVariable : Bool

/-- Steps of the runtime alone. -/
abbrev Act := Step Runtime

namespace Act

variable {α : Type}

def store : Act Store := do return (← Step.read).store

def update (change : Store → Store) : Act Unit :=
  Step.modify fun r => { r with store := change r.store }

/-- A change of the store that yields a value, such as making an object. -/
def make (change : Store → α × Store) : Act α := fun r =>
  let (x, store) := change r.store
  (.done x, { r with store })

def failWith (failure : Failure) : Act α := do
  Step.raise (← make (·.newFailure failure))

def fail (fault : Fault) : Act α := failWith ⟨fault, none, none⟩

def ofExcept : Except Fault α → Act α
  | .ok x => pure x
  | .error fault => fail fault

def record (entry : Entry) : Act Unit :=
  Step.modify fun r => { r with journal := r.journal.push entry }

end Act

namespace Runtime

def rootValue? (r : Runtime) (name : String) : Option Value := r.roots.lookup name

def setRoot (r : Runtime) (name : String) (value : Value) : Runtime :=
  { r with roots := Named.set name value r.roots }

def isLocked (r : Runtime) (name : String) : Bool := r.lockedRoots.contains name

def debugEnabled (r : Runtime) : Bool := r.store.isTrue r.settings.debug || r.debugVariable

end Runtime

/-- Debug lines are written only while debugging is on. -/
def debugLine (text : String) : Act Unit := do
  if (← Step.read).debugEnabled then Act.record (.debug ("[DBG] " ++ text))

end PageRuntime
