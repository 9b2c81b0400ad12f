import PageRuntime.Node.Text
import PageRuntime.Value.Shown

/-! What a node declares: children by tag, the event and local handlers it binds, and the arguments
of a component. -/
namespace PageRuntime
namespace Node

def childrenByTag (s : Store) (a : Address) (tag : Value) : List Address :=
  (s.nodeAt a).children.filter fun child => (s.nodeAt child).tag == tag

def eventHandlerMark : String := "/@event/"

def localHandlerMark : String := "/@local/"

/-- The event that an attribute binds a handler for: `name.handler`, or `handler` alone. -/
def handledEvent? (name : String) : Option String :=
  if name == "handler" then some name
  else if name.endsWith ".handler" then some ((name.dropEnd ".handler".length).toString)
  else none

/-- Attribute names are texts; anything else has no ending to look at. -/
def attributeName (s : Store) : Value → Except Fault String
  | .str name => .ok name
  | v => .error (.misuse .member ("'" ++ s.typeName v ++ "' object has no attribute 'endswith'"))

def afterMark? (mark name : String) : Option String :=
  if name.startsWith mark then some ((name.drop mark.length).toString) else none

def attributeHandlers (s : Store) (a : Address) :
    Dict → Named Handler → Except Fault (Named Handler)
  | [], handlers => .ok handlers
  | slot :: rest, handlers => do
    let name ← attributeName s slot.label
    match handledEvent? name with
    | some event =>
      attributeHandlers s a rest (Named.set event ⟨s.display slot.value, some a, false⟩ handlers)
    | none => attributeHandlers s a rest handlers

/-- Handlers that children of the tag `define-handler` bind, for events and under local names. -/
def definedHandlers (s : Store) (events locals : Bool) :
    List Address → Named Handler → Except Fault (Named Handler)
  | [], handlers => .ok handlers
  | child :: rest, handlers => do
    let node := s.nodeAt child
    match node.tag, Dict.field node.attrs "name" with
    | .str "define-handler", .str name =>
      let handlers ←
        match if events then afterMark? eventHandlerMark name else none with
        | some event => do
          let text ← textContent s child
          .ok (Named.set event ⟨s.display text, some child, false⟩ handlers)
        | none => .ok handlers
      let handlers ←
        if locals && name.startsWith localHandlerMark then do
          let text ← textContent s child
          .ok (Named.set name ⟨s.display text, some child, false⟩ handlers)
        else .ok handlers
      definedHandlers s events locals rest handlers
    | _, _ => definedHandlers s events locals rest handlers

/-- All handlers of a node. Attributes come first; a definition of the same name replaces one. -/
def handlers (s : Store) (a : Address) (events locals : Bool) : Except Fault (Named Handler) := do
  let node := s.nodeAt a
  let bound ← attributeHandlers s a node.attrs []
  if events || locals then definedHandlers s events locals node.children bound else .ok bound

end Node
end PageRuntime
