import PageRuntime.Block
import PageRuntime.Node.Handlers

/-! Attributes as a page sees them, and iteration over bound values. A text that begins with a star
is an expression; references are read through. Unless the value is wanted as it is, it becomes a
text, where null, false and the empty text are no value at all. -/
namespace PageRuntime
namespace Node

def isBlankAttribute (v : Value) : Bool := v == .null || v == .str ""

def expression? : Value → Option String
  | .str text =>
    match text.toList with
    | '*' :: rest => some (String.ofList rest)
    | _ => none
  | _ => none

/-- The text of an attribute; blobs stay blobs. -/
def attributeText (s : Store) (v : Value) : Value :=
  if isBlankAttribute v || v == .bool false then .null
  else
    match v with
    | .bool true => .str "1"
    | .blob _ => v
    | v => .str (s.display v)

def attributeValue (scope : Address) (v : Value) (asIs : Bool) : Act Value := do
  if isBlankAttribute v then return .null
  else
    let v ← match expression? v with
      | some source => Block.evaluate scope (.str source)
      | none => pure v
    let v ← match v with
      | .ref a => Reference.get a
      | v => pure v
    if asIs then return v else return attributeText (← Act.store) v

def attributeOf (scope : Address) (a : Address) (name : Value) (asIs : Bool) : Act Value := do
  let s ← Act.store
  let key ← Act.ofExcept (s.keyOf name)
  match (s.nodeAt a).attrs.get? key with
  | some v => attributeValue scope v asIs
  | none => return .null

def attributesFrom (scope : Address) (asIs : Bool) : Dict → Dict → Act Dict
  | found, [] => return found
  | found, slot :: rest => do
    let name ← Act.ofExcept (attributeName (← Act.store) slot.label)
    if (handledEvent? name).isSome then attributesFrom scope asIs found rest
    else
      let v ← attributeValue scope slot.value asIs
      if v == .null then attributesFrom scope asIs found rest
      else attributesFrom scope asIs (found.insert slot.key slot.label v) rest

/-- All attributes that have a value, without those that bind handlers. -/
def attributes (scope : Address) (a : Address) (asIs : Bool) : Act Dict := do
  attributesFrom scope asIs [] ((← Act.store).nodeAt a).attrs

/-- What iterating over a bound value yields: pairs of a key and a value, where only mappings have
keys. A value that holds no others is the only item; what cannot be looked into has none. -/
def iterated (s : Store) (v : Value) : Bool × List (Value × Value) :=
  match v, s.mapping? v, s.sequence? v with
  | _, some d, _ => (true, d.map fun slot => (slot.label, slot.value))
  | _, none, some items => (false, items.map (.null, ·))
  | .null, _, _ | .scope _, _, _ | .ref _, _, _ | .context _, _, _ => (false, [])
  | v, none, none => (false, [(.null, v)])

end Node
end PageRuntime
