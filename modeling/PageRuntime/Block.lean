import PageRuntime.Reference
import PageRuntime.Wire.Format

/-! Handler blocks: lists of steps written in YAML. Here is how blocks and expressions are read, and
what the arguments of steps stand for; running steps is the work of `Handler`. -/
namespace PageRuntime
namespace Block
open Unicode

def stepKinds : List String := ["set", "fire", "call", "invalidate", "actions", "log", "return"]

def isStep (s : Store) (v : Value) : Bool :=
  match s.mapping? v with
  | some d => stepKinds.any fun kind => d.has (.text kind)
  | none => false

/-- Documents are texts; other values have none of their own. -/
def document (v : Value) : Act Value := do
  match v with
  | .str text => Wire.readText .yaml text
  | v =>
    Act.fail (.misuse .member
      ("'" ++ (← Act.store).typeName v ++ "' object has no attribute 'read'"))

/-- The list of steps that a text spells. One step may stand without a list around it, and a blank
text has no steps. -/
def read (text : Value) : Act Value := do
  let shown := (← Act.store).display text
  if text == .null || (trimBlank shown.toList).isEmpty then Act.make (·.newList [])
  else
    let written ← document text
    let steps ← if written.isMapping then Act.make (·.newList [written]) else pure written
    let s ← Act.store
    match steps with
    | .list a =>
      match (s.listAt a).find? (!isStep s ·) with
      | some other => Act.fail (.unknownStep (s.shown other))
      | none => return steps
    | other => Act.fail (.blockNotList (s.typeName other))

/-- An expression is a path if it begins like one, else a YAML document; null and blanks are
null. -/
def evaluate (scope : Address) (source : Value) : Act Value := do
  if source == .null then return .null
  else
    let text := trimBlank ((← Act.store).display source).toList
    match text with
    | [] => return .null
    | '$' :: _ | '@' :: _ => Reference.resolvePath scope (.str (String.ofList text))
    | _ => Wire.readText .yaml (String.ofList text)

def reference (scope : Address) (path : Value) : Act Value := do
  return .ref (← Reference.ofValue scope path)

/-- The only entry of a mapping, if that has the name. -/
def only? (d : Dict) (name : String) : Option Value :=
  match d with
  | [slot] => if slot.key = .text name then some slot.value else none
  | _ => none

/-- What an argument stands for: `expr` alone in a mapping is evaluated, `ref` alone makes a
reference, and other mappings and lists are made anew with what their parts stand for. -/
def argumentWithin (scope : Address) : Nat → Value → Act Value
  | 0, _ => Act.fail (.misuse .recursion "maximum recursion depth exceeded")
  | fuel + 1, v => do
    let s ← Act.store
    match v, s.mapping? v with
    | _, some d =>
      match only? d "expr", only? d "ref" with
      | some source, _ => evaluate scope source
      | none, some path => reference scope path
      | none, none => do
        let slots ← d.mapM fun slot => do
          return { slot with value := ← argumentWithin scope fuel slot.value }
        Act.make (·.newDict slots)
    | .list a, none => do
      let items ← (s.listAt a).mapM (argumentWithin scope fuel)
      Act.make (·.newList items)
    | v, none => return v

def argument (scope : Address) (v : Value) : Act Value := do
  argumentWithin scope ((← Act.store).size + 2) v

/-- The value that a step writes, from its field `value`, `expr` or `ref`. -/
def writtenValue (scope : Address) (step : Dict) : Act Value := do
  match step.field? "value", step.field? "expr", step.field? "ref" with
  | some v, _, _ => argument scope v
  | none, some source, _ => evaluate scope source
  | none, none, some path => reference scope path
  | none, none, none => return .null

end Block
end PageRuntime
