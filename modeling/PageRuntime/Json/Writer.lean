import PageRuntime.Json.Quoted
import PageRuntime.Number.Shortest
import PageRuntime.Store

/-! Values written as JSON, on one line or indented by two. Keys that are scalars are written as
texts; objects other than lists, tuples and dictionaries have no JSON form, and a container inside
itself is refused. -/
namespace PageRuntime.Json

structure Layout where
  alphabet : Alphabet
  indented : Bool

def floatText (x : Number.Binary64) : String :=
  if x.isNaN then "NaN"
  else if x.isInfinite then (if x.isNegative then "-Infinity" else "Infinity")
  else x.text

def scalarText? : Value → Option String
  | .null => some "null"
  | .bool true => some "true"
  | .bool false => some "false"
  | .int i => some (String.ofList (intChars i))
  | .float x => some (floatText x)
  | _ => none

def keyText (s : Store) (layout : Layout) (v : Value) : Except Fault String :=
  match v with
  | .str text => .ok (quote layout.alphabet text)
  | v =>
    match scalarText? v with
    | some text => .ok (quote layout.alphabet text)
    | none => .error (.misuse .type
        ("keys must be str, int, float, bool or None, not " ++ s.typeName v))

def newLine (depth : Nat) : String := String.ofList ('\n' :: List.replicate (2 * depth) ' ')

/-- Parts between brackets, each on its own line if the layout says so. -/
def bracket (layout : Layout) (depth : Nat) (openMark closeMark : String) (parts : List String) :
    String :=
  if parts.isEmpty then openMark ++ closeMark
  else if layout.indented then
    openMark ++ newLine (depth + 1) ++ ("," ++ newLine (depth + 1)).intercalate parts ++
      newLine depth ++ closeMark
  else openMark ++ ", ".intercalate parts ++ closeMark

/-- `active` holds the containers around the value. -/
def writeWithin (s : Store) (layout : Layout) : Nat → List Value → Value → Except Fault String
  | 0, _, _ => .error (.misuse .recursion "maximum recursion depth exceeded")
  | fuel + 1, active, v =>
    let depth := active.length
    let inner := writeWithin s layout fuel (v :: active)
    let guarded (text : Except Fault String) : Except Fault String :=
      if active.contains v then .error (.misuse .value "Circular reference detected") else text
    let items (values : List Value) : Except Fault String := do
      .ok (bracket layout depth "[" "]" (← values.mapM inner))
    match v with
    | .str text => .ok (quote layout.alphabet text)
    | .list a => guarded (items (s.listAt a))
    | .tuple a => guarded (items (s.tupleAt a))
    | .dict a => guarded do
      let members ← (s.dictAt a).mapM fun slot => do
        let key ← keyText s layout slot.label
        .ok (key ++ ": " ++ (← inner slot.value))
      .ok (bracket layout depth "\x7b" "\x7d" members)
    | v =>
      match scalarText? v with
      | some text => .ok text
      | none => .error (.misuse .type
          ("Object of type " ++ s.typeName v ++ " is not JSON serializable"))

def write (s : Store) (layout : Layout) (v : Value) : Except Fault String :=
  writeWithin s layout (s.size + 2) [] v

end PageRuntime.Json
