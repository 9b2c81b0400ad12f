import PageRuntime.Reference
import PageRuntime.Value.Items

/-! Set operations: how a value is brought to the location that a reference names. -/
namespace PageRuntime

inductive Setop
  | set
  | setUnless
  | append
  | prepend
  | merge
  | delete
deriving DecidableEq

namespace Setop
open Reference (Target)

def name : Setop → String
  | set => "set"
  | setUnless => "setunless"
  | append => "append"
  | prepend => "prepend"
  | merge => "merge"
  | delete => "delete"

def ofName? (name : String) : Option Setop :=
  [set, setUnless, append, prepend, merge, delete].find? (·.name == name)

/-- Adds an item at one end of a new list with the items of the present one. -/
def addItem (target : Target) (setop : Setop) (value : Value) : Act Unit := do
  let current ← target.get
  let s ← Act.store
  match current, s.sequence? current with
  | .null, _ => do
    let made ← Act.make (·.newList [value])
    target.set made
  | _, some items => do
    let made ← Act.make (·.newList (if setop == .append then items ++ [value] else value :: items))
    target.set made
  | current, none =>
    Act.fail (.write (.notSequence setop.name (s.typeName current) (target.name s)))

/-- Writes the entries of a mapping over those of the present one in a new dictionary. -/
def mergeEntries (target : Target) (value : Value) : Act Unit := do
  let current ← target.get
  let s ← Act.store
  match current, s.mapping? current, s.mapping? value with
  | .null, _, _ => target.set value
  | _, some present, some added => do
    let made ← Act.make (·.newDict (Dict.update present added))
    target.set made
  | current, _, _ => Act.fail (.write (.notMapping (s.typeName current) (target.name s)))

def apply (setop : Setop) (target : Target) (value : Value) : Act Unit := do
  match setop with
  | .set => target.set value
  | .setUnless => do
    if (← target.get) == .null then target.set value
  | .append => addItem target .append value
  | .prepend => addItem target .prepend value
  | .merge => mergeEntries target value
  | .delete => target.delete

/-- As `apply`, with the operation named by a value; most values name none. -/
def applyNamed (setop : Value) (target : Target) (value : Value) : Act Unit := do
  let known := match setop with
    | .str name => ofName? name
    | _ => none
  match known with
  | some known => known.apply target value
  | none => Act.fail (.write (.unknownSetop ((← Act.store).shown setop)))

end Setop
end PageRuntime
