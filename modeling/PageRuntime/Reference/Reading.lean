import PageRuntime.Scope

/-! Reading through references. Wherever a location holds another reference, reading goes on through
it. Reading changes nothing, so a handle that is entered again while it is being read would be
entered forever: a chain of references that ends enters each handle at most once. -/
namespace PageRuntime

def endlessReference : Fault := .misuse .recursion "maximum recursion depth exceeded"

/-- The place in a sequence that an index names, counting from the end if it is negative. -/
def placeOf? (length : Nat) (place : Int) : Option Nat :=
  let place := if place < 0 then place + length else place
  if 0 ≤ place ∧ place < length then some place.toNat else none

/-- The item of a list that an accessor names; what is missing reads as null. -/
def itemAt (items : List Value) : Segment → Value
  | .index place => Value.ofOption ((placeOf? items.length place).bind (items[·]?))
  | .field _ => .null

namespace Store

/-- One accessor step into a container that is no reference; what is missing reads as null. -/
def member (s : Store) (container : Spot) (key : Segment) : Value :=
  match container with
  | .bindings scope => s.contextKey scope (.text key.bindingName)
  | .items values => itemAt values key
  | .value v =>
    match v with
    | .context a => s.contextKey (s.contextAt a) (.text key.bindingName)
    | .dict a => (s.dictAt a).get key.key
    | .frozen a => (s.frozenAt a).get key.key
    | .list a => itemAt (s.listAt a) key
    | .tuple a => itemAt (s.tupleAt a) key
    | _ => .null

end Store

namespace Spot

variable (resolve : Address → Except Fault Spot)

/-- What lies behind a reference, and everything else as it is. -/
def follow : Spot → Except Fault Spot
  | value (.ref a) => resolve a
  | spot => .ok spot

/-- One accessor step, through references. -/
def step (s : Store) (spot : Spot) (key : Segment) : Except Fault Value := do
  .ok (s.member (← spot.follow resolve) key)

/-- Accessor steps one after another; null ends them. -/
def walk (s : Store) : List Segment → Spot → Except Fault Spot
  | [], spot => .ok spot
  | key :: rest, spot => do
    match ← spot.step resolve s key with
    | .null => .ok .null
    | next => walk s rest (.value next)

end Spot

namespace Runtime

/-- What a handle refers to, when the handles it leads through are read by `resolve`. -/
def readHandle (r : Runtime) (resolve : Address → Except Fault Spot) : Handle → Except Fault Spot
  | .path scope path _ => do
    let start ← r.rootSpot scope path.root
    let last ← start.walk resolve r.store path.segments
    last.follow resolve
  | .sub parent key => do
    let container ← resolve parent
    (Spot.value (r.store.member container key)).follow resolve
  | .locked inner => resolve inner
  | .cell v _ => (Spot.value v).follow resolve

/-- Reads a handle; the fuel bounds how many handles are entered one inside the other. -/
def resolveWithin (r : Runtime) : Nat → Address → Except Fault Spot
  | 0, _ => .error endlessReference
  | fuel + 1, a => r.readHandle (r.resolveWithin fuel) (r.store.handleAt a)

/-- What lies behind a reference, once no reference is left to follow. -/
def resolve (r : Runtime) (a : Address) : Except Fault Spot :=
  r.resolveWithin (r.store.handles.size + 1) a

def readWithin (r : Runtime) : Nat → Address → Except Fault Spot
  | 0, _ => .error endlessReference
  | fuel + 1, a =>
    match r.store.handleAt a with
    | .cell v _ => .ok (.value v)
    | .locked inner => r.readWithin fuel inner
    | _ => r.resolve a

/-- What a reference gives when it is asked for its value. It is settled as `resolve` says, but a
cell gives what it holds as it is, be it another reference. -/
def readReference (r : Runtime) (a : Address) : Except Fault Spot :=
  r.readWithin (r.store.handles.size + 1) a

end Runtime

namespace Reference

def get (a : Address) : Act Value := do
  let spot ← Act.ofExcept ((← Step.read).readReference a)
  spot.realize

end Reference
end PageRuntime
