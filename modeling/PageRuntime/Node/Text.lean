import PageRuntime.Store

/-! The text inside a node: its own if it is a text node, else that of its children one after
another. -/
namespace PageRuntime
namespace Node

def isTextNode (node : Node) : Bool := node.tag == .str "#text"

/-- Texts that are to be joined; anything else among them is a fault. -/
def joined : List Value → Except Fault Value
  | [] => .ok (.str "")
  | .str text :: rest => do
    match ← joined rest with
    | .str after => .ok (.str (text ++ after))
    | other => .ok other
  | _ => .error (.misuse .type "sequence item: expected str instance")

/-- Children are older than their parents, so the number of nodes bounds the depth. -/
def textWithin (s : Store) : Nat → Address → Except Fault Value
  | 0, _ => .ok (.str "")
  | fuel + 1, a =>
    let node := s.nodeAt a
    if isTextNode node then .ok (if s.isTrue node.text then node.text else .str "")
    else do joined (← node.children.mapM (textWithin s fuel))

/-- A text node whose content is no text has that content as it is. -/
def textContent (s : Store) (a : Address) : Except Fault Value := textWithin s (s.nodes.size + 1) a

end Node
end PageRuntime
