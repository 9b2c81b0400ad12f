import PageRuntime.Store
import PageRuntime.Yaml.Node

/-! Values of a node graph, made in the store. A node that is met twice is one object, so aliases
share and may close cycles. Merge keys bring the pairs of other mappings in front of the own
ones. -/
namespace PageRuntime.Yaml

namespace Graph

def nodeAt (g : Graph) (number : Nat) : DocNode := (g.nodes[number]?).getD (.scalar .null "")

def tagAt (g : Graph) (number : Nat) : Tag :=
  match g.nodeAt number with
  | .scalar tag _ => tag
  | .sequence tag _ => tag
  | .mapping tag _ => tag

/-- The pairs of a mapping without its merge keys. -/
def ownPairs (g : Graph) (pairs : List (Nat × Nat)) : List (Nat × Nat) :=
  pairs.filter fun pair => g.tagAt pair.1 != .merge

/-- The pairs of a mapping, merged ones first. `active` holds the mappings being merged. -/
def mergedPairs (g : Graph) : Nat → List Nat → Nat → Option (List (Nat × Nat))
  | 0, _, _ => none
  | fuel + 1, active, number =>
    match g.nodeAt number with
    | .mapping _ pairs =>
      if active.contains number then some (g.ownPairs pairs)
      else do
        let merged ← (pairs.filter fun pair => g.tagAt pair.1 == .merge).mapM fun pair =>
          match g.nodeAt pair.2 with
          | .mapping _ _ => g.mergedPairs fuel (number :: active) pair.2
          | .sequence _ items => do
            let parts ← items.mapM (g.mergedPairs fuel (number :: active))
            some parts.reverse.flatten
          | .scalar _ _ => none
        some (merged.flatten ++ g.ownPairs pairs)
    | _ => none

end Graph

/-- The store with what was made for each node so far. -/
structure Loading where
  store : Store
  made : List (Nat × Value)

abbrev Load := StateT Loading (Except Fault)

namespace Load

def refuse {α : Type} : Load α := throw (.format .yaml)

/-- Makes an object for a node before its parts are known. -/
def make (number : Nat) (create : Store → Value × Store) : Load Value := do
  let l ← get
  let (value, store) := create l.store
  set { l with store, made := (number, value) :: l.made }
  return value

/-- A plain equals sign is text where it is a key. -/
def keyText? (g : Graph) (number : Nat) : Option String :=
  match g.nodeAt number with
  | .scalar .default text => some text
  | _ => none

/-- A mapping of one pair as a tuple of two. -/
def pair (value : Nat → Load Value) (g : Graph) (number : Nat) : Load Value :=
  match g.nodeAt number with
  | .mapping _ [(key, entry)] => do
    let parts := [← value key, ← value entry]
    modifyGet fun l =>
      let (tuple, store) := l.store.newTuple parts
      (tuple, { l with store })
  | _ => refuse

def value (g : Graph) : Nat → Nat → Load Value
  | 0, _ => refuse
  | fuel + 1, number => do
    match (← get).made.lookup number with
    | some value => return value
    | none =>
      match g.nodeAt number with
      | .scalar tag text =>
        let value ← liftM (scalarValue tag text)
        make number fun store => (value, store)
      | .sequence tag items =>
        let list ← make number (·.newList [])
        let parts ←
          if tag == .sequence then items.mapM (value g fuel)
          else if tag == .pairs then items.mapM (pair (value g fuel) g)
          else refuse
        match list with
        | .list address => modify fun l => { l with store := l.store.putList address parts }
        | _ => refuse
        return list
      | .mapping tag _ =>
        if tag != .mapping then refuse
        else
          let dict ← make number (·.newDict [])
          match g.mergedPairs (g.nodes.size + 1) [] number with
          | none => refuse
          | some pairs =>
            let entries ← pairs.mapM fun (keyNode, valueNode) => do
              let label ← match keyText? g keyNode with
                | some text => pure (.str text)
                | none => value g fuel keyNode
              match (← get).store.key? label with
              | none => refuse
              | some key => return (⟨key, label, ← value g fuel valueNode⟩ : Slot)
            match dict with
            | .dict address =>
              modify fun l => { l with store := l.store.putDict address (Dict.update [] entries) }
            | _ => refuse
            return dict

end Load

/-- Reads a text as one document; an empty text is null. -/
def load (text : String) (store : Store) : Except Fault (Value × Store) :=
  match graph? text with
  | none => .error (.format .yaml)
  | some g =>
    match g.root with
    | none => .ok (.null, store)
    | some root =>
      match (Load.value g (g.nodes.size + 1) root).run ⟨store, []⟩ with
      | .ok (value, loading) => .ok (value, loading.store)
      | .error fault => .error fault

end PageRuntime.Yaml
