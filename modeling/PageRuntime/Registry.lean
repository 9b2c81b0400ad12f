import PageRuntime.Host
import PageRuntime.Journal
import PageRuntime.Text.PatternReader

/-! The registry of mounted queries. A sweep selects registrations by their query; outside a batch
their refreshes run at once, inside one they wait until the outermost batch closes and then run once
each, in the order in which they were first selected. A refresh that fails is logged and the sweep
goes on. -/
namespace PageRuntime
namespace Registry

def empty : Registry := ⟨[], [], 0, 0, []⟩

/-- Puts a registration at the place of an earlier one with its key, or at the end. -/
def place (registration : Registration) : List Registration → List Registration
  | [] => [registration]
  | other :: rest =>
    if other.key = registration.key then registration :: rest else other :: place registration rest

def find? (registry : Registry) (key : Key) : Option Registration :=
  registry.entries.find? (·.key = key)

def add (registry : Registry) (key : Key) (id : Value) (query : String) (callback : Nat)
    (owner : Option Nat) : Registry :=
  { registry with
    entries := place ⟨registry.nextSerial, key, id, query, callback, owner⟩ registry.entries
    nextSerial := registry.nextSerial + 1 }

def removeEntry (registry : Registry) (key : Key) : Registry :=
  { registry with entries := registry.entries.filter (·.key ≠ key) }

def remove (registry : Registry) (key : Key) : Registry :=
  { registry.removeEntry key with pending := registry.pending.filter (·.key ≠ key) }

/-- Whether a registration is the current one of its id. -/
def isCurrent (registry : Registry) (registration : Registration) : Bool :=
  (registry.find? registration.key).any (·.serial == registration.serial)

def isAlive (registry : Registry) (registration : Registration) : Bool :=
  !registration.owner.any registry.goneOwners.contains

def inBatch (registry : Registry) : Bool := 0 < registry.depth

def select (registry : Registry) (wanted : String → Bool) : List Registration :=
  registry.entries.filter fun registration => wanted registration.query

def postpone (registry : Registry) (selected : List Registration) : Registry :=
  { registry with pending := selected.foldl (fun pending r => place r pending) registry.pending }

def text (s : Store) (registration : Registration) : String :=
  "<Registration " ++ s.shown registration.id ++ " query=" ++ Text.quote registration.query ++ ">"

end Registry

/-! The steps of the registry within a runtime. -/
namespace Sweep

variable {η : Type}

def change (f : Registry → Registry) : Act Unit :=
  Step.modify fun r => { r with registry := f r.registry }

def register (id : Value) (query : String) (callback : Nat) (owner : Option Nat) : Act Unit := do
  match (← Act.store).key? id with
  | some key => change (·.add key id query callback owner)
  | none => Act.fail (.misuse .type "unhashable type")

def unregister (id : Value) : Act Unit := do
  match (← Act.store).key? id with
  | some key => change (·.remove key)
  | none => Act.fail (.misuse .type "unhashable type")

/-- An owner that is gone takes its registrations with it as soon as their turn comes. -/
def release (owner : Nat) : Act Unit :=
  change fun registry => { registry with goneOwners := owner :: registry.goneOwners }

def refreshFailed (registration : Registration) (failure : Address) : Act Unit := do
  let s ← Act.store
  Journal.logFailure ("Error refreshing data node " ++ s.shown registration.id ++ " (query " ++
    Text.quote registration.query ++ "):") failure

/-- Runs one refresh if its registration is still the current one of its id and its owner lives. -/
def refresh (host : Host η) (registration : Registration) : Run η Unit := do
  let registry := (← Step.read).runtime.registry
  if !registry.isCurrent registration then return ()
  else if !registry.isAlive registration then change (·.removeEntry registration.key)
  else
    match ← Step.attempt (host.refresh registration.callback) with
    | .ok () => return ()
    | .error failure => refreshFailed registration failure

def refreshAll (host : Host η) : List Registration → Run η Unit
  | [] => return ()
  | registration :: rest => do
    refresh host registration
    refreshAll host rest

/-- Selects by query and gives the number of registrations selected. -/
def run (host : Host η) (wanted : String → Bool) : Run η Nat := do
  let registry := (← Step.read).runtime.registry
  let selected := registry.select wanted
  if registry.inBatch then change (·.postpone selected) else refreshAll host selected
  return selected.length

def invalidate (host : Host η) (query : String) : Run η Nat := run host (· == query)

def invalidatePattern (host : Host η) (pattern : String) : Run η Nat := do
  match Text.Pattern.read? pattern with
  | some pattern => run host pattern.search
  | none => Act.fail (α := Nat) (.format .pattern)

def invalidateAll (host : Host η) : Run η Nat := run host fun _ => true

/-- Leaves a batch; the outermost one runs what has waited. -/
def leave (host : Host η) : Run η Unit := do
  change fun registry => { registry with depth := registry.depth - 1 }
  let registry := (← Step.read).runtime.registry
  if registry.depth == 0 && !registry.pending.isEmpty then
    change fun registry => { registry with pending := [] }
    refreshAll host registry.pending

/-- Runs a step inside a batch, which closes however the step ends. -/
def batch {α : Type} (host : Host η) (step : Run η α) : Run η α := do
  change fun registry => { registry with depth := registry.depth + 1 }
  Step.thenAlways step (leave host)

end Sweep
end PageRuntime
