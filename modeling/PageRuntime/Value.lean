import PageRuntime.Number.Binary64

/-! Runtime values. Scalars stand for themselves; everything with identity is an address into the
store, so two values are the same object exactly when they are equal here. -/
namespace PageRuntime
open Number (Binary64)

abbrev Address := Nat

inductive Value
  | null
  | bool (truth : Bool)
  | int (number : Int)
  | float (number : Binary64)
  | str (text : String)
  | bytes (data : List UInt8)
  | list (address : Address)
  | tuple (address : Address)
  | dict (address : Address)
  | frozen (address : Address)
  | fset (address : Address)
  | blob (address : Address)
  | node (address : Address)
  | ref (address : Address)
  | scope (address : Address)
  | context (address : Address)
  | failure (address : Address)
  | report (address : Address)
  | trail (address : Address)
  | callable (address : Address)
deriving DecidableEq, Inhabited

/-- What a value is to the page language. -/
inductive Kind
  | null
  | bool
  | number
  | string
  | sequence
  | mapping
  | blob
  | reference
  | error
  | node
  | scope
  | other
deriving DecidableEq

def Kind.name : Kind → String
  | null => "null"
  | bool => "bool"
  | number => "number"
  | string => "string"
  | sequence => "sequence"
  | mapping => "mapping"
  | blob => "blob"
  | reference => "reference"
  | error => "error"
  | node => "node"
  | scope => "scope"
  | other => "other"

namespace Value

def kind : Value → Kind
  | null => .null
  | bool _ => .bool
  | int _ | float _ => .number
  | str _ => .string
  | list _ | tuple _ => .sequence
  | dict _ | frozen _ => .mapping
  | blob _ => .blob
  | ref _ => .reference
  | failure _ | report _ => .error
  | node _ => .node
  | scope _ | context _ => .scope
  | bytes _ | fset _ | trail _ | callable _ => .other

def isMapping (v : Value) : Bool := v.kind == .mapping

def ofOption : Option Value → Value
  | some v => v
  | none => null

def ofText? : Option String → Value
  | some text => str text
  | none => null

end Value

/-- The scalars a dictionary key can be made of. Numbers that are equal are one atom, whatever their
spelling, and truth values count as the numbers one and zero. -/
inductive Atom
  | null
  | int (number : Int)
  | float (number : Binary64)
  | str (text : String)
  | bytes (data : List UInt8)
  | identity (value : Value)
deriving DecidableEq

/-- A tuple or set key is spelled out between brackets. -/
inductive KeyPart
  | atom (a : Atom)
  | openTuple
  | openSet
  | close
deriving DecidableEq

inductive Key
  | atom (a : Atom)
  | compound (parts : List KeyPart)
deriving DecidableEq

def Key.text (s : String) : Key := .atom (.str s)

def Key.parts : Key → List KeyPart
  | .atom a => [.atom a]
  | .compound parts => parts

/-- One entry of a dictionary: what it is found by, how its key was first written, what it holds. -/
structure Slot where
  key : Key
  label : Value
  value : Value
deriving DecidableEq

/-- Entries in insertion order. Writing an existing key keeps its place and its first spelling. -/
abbrev Dict := List Slot

namespace Dict

def get? (d : Dict) (key : Key) : Option Value :=
  (d.find? (·.key = key)).map (·.value)

def get (d : Dict) (key : Key) : Value := Value.ofOption (d.get? key)

def has (d : Dict) (key : Key) : Bool := d.any (·.key = key)

def insert (d : Dict) (key : Key) (label value : Value) : Dict :=
  match d with
  | [] => [⟨key, label, value⟩]
  | slot :: rest =>
    if slot.key = key then { slot with value } :: rest else slot :: insert rest key label value

def erase (d : Dict) (key : Key) : Dict := d.filter (·.key ≠ key)

/-- All entries of `other` written into `d` in order. -/
def update (d other : Dict) : Dict :=
  other.foldl (fun merged slot => merged.insert slot.key slot.label slot.value) d

def put (d : Dict) (name : String) (value : Value) : Dict := d.insert (.text name) (.str name) value

def field? (d : Dict) (name : String) : Option Value := d.get? (.text name)

def field (d : Dict) (name : String) : Value := d.get (.text name)

def values (d : Dict) : List Value := d.map (·.value)

def labels (d : Dict) : List Value := d.map (·.label)

end Dict

end PageRuntime
