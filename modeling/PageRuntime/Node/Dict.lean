import PageRuntime.Runtime
import PageRuntime.Value.Items
import PageRuntime.Value.Shown

/-! Markup nodes and their plain form: a dictionary with the fields `tag`, `attrs`, `list`, `style`
and `text`, in which empty fields are left out. -/
namespace PageRuntime
namespace Node

/-- Whether a value that is to become a node says what its tag is. Only mappings can hold a tag, but
other containers that list the word pass this test and fail at the next. -/
def namesTag (s : Store) (v : Value) : Except Fault Bool :=
  match s.mapping? v, v with
  | some d, _ => .ok (d.has (.text "tag"))
  | none, .str text => .ok ((text.splitOn "tag").length != 1)
  | none, .bytes _ => .error (.misuse .type "a bytes-like object is required, not 'str'")
  | none, v =>
    match s.itemsOf v with
    | .ok items => .ok (items.contains (.str "tag"))
    | .error _ =>
      .error (.misuse .type ("argument of type '" ++ s.typeName v ++ "' is not iterable"))

/-- The children listed in the plain form; an older spelling is `children`. -/
def listedChildren (s : Store) (d : Dict) : Except Fault (List Value) := do
  let children := (d.field? "list").getD (d.field "children")
  if s.isTrue children then s.itemsOf children else .ok []

/-- Builds a node and, before it, its children. A node stands for itself. The fuel bounds how deep
plain forms nest. -/
def ofValueWithin : Nat → Value → Act Address
  | 0, _ => Act.fail (.misuse .recursion "maximum recursion depth exceeded")
  | _ + 1, .node a => return a
  | fuel + 1, v => do
    let s ← Act.store
    if !(← Act.ofExcept (namesTag s v)) then Act.fail (.nodeWithoutTag (s.shown v))
    else
      match s.mapping? v with
      | none =>
        Act.fail (.misuse .member ("'" ++ s.typeName v ++ "' object has no attribute 'get'"))
      | some d =>
        let children ← (← Act.ofExcept (listedChildren s d)).mapM (ofValueWithin fuel)
        let attrs ← Act.ofExcept (s.dictOrEmpty (d.field "attrs"))
        Act.make (·.newNode ⟨d.field "tag", attrs, children, d.field "style", d.field "text"⟩)

def ofValue (v : Value) : Act Address := do ofValueWithin ((← Act.store).size + 2) v

/-- A field of the plain form, left out where there is nothing to tell. -/
def fieldUnless (absent : Bool) (name : String) (value : Act Value) : Act (List (String × Value)) :=
  if absent then return [] else return [(name, ← value)]

def listed (step : Address → Act Value) (children : List Address) : Act Value := do
  let children ← children.mapM step
  Act.make (·.newList children)

def styled (style : Value) : Act Value := do
  let style ← Act.ofExcept ((← Act.store).dictOf style)
  Act.make (·.newDict style)

def formOf (fields : List (String × Value)) : Dict :=
  fields.map fun (name, value) => ⟨.text name, .str name, value⟩

/-- Dictionaries of attributes and style are made anew; what they hold is shared. -/
def toDictWithin : Nat → Address → Act Value
  | 0, _ => Act.fail (.misuse .recursion "maximum recursion depth exceeded")
  | fuel + 1, a => do
    let s ← Act.store
    let node := s.nodeAt a
    let attrs ← fieldUnless node.attrs.isEmpty "attrs" (Act.make (·.newDict node.attrs))
    let children ← fieldUnless node.children.isEmpty "list" (listed (toDictWithin fuel) node.children)
    let style ← fieldUnless (!s.isTrue node.style) "style" (styled node.style)
    let text := if node.text == .null then [] else [("text", node.text)]
    Act.make (·.newDict (formOf (("tag", node.tag) :: attrs ++ children ++ style ++ text)))

def toDict (a : Address) : Act Value := do toDictWithin ((← Act.store).nodes.size + 1) a

end Node
end PageRuntime
