import PageRuntime.Store

/-! Copies of plain data. Mappings, sequences and blobs are copied all the way down; references,
scopes, nodes and everything else that is shared stays the same object. A value that contains itself
has no copy. -/
namespace PageRuntime
namespace Store

/-- Threads the store through a list of steps that may fault. -/
def mapStore {α β : Type} (step : α → Store → Except Fault (β × Store)) :
    List α → Store → Except Fault (List β × Store)
  | [], s => .ok ([], s)
  | x :: rest, s => do
    let (y, s) ← step x s
    let (ys, s) ← mapStore step rest s
    .ok (y :: ys, s)

/-- Takes a step on the value of an entry; the key stays the same. -/
def mapSlot (step : Value → Store → Except Fault (Value × Store)) (slot : Slot) (s : Store) :
    Except Fault (Slot × Store) := do
  let (value, s) ← step slot.value s
  .ok ({ slot with value }, s)

/-- `active` holds the containers that are being copied around the value. -/
def copyWithin : Nat → List Value → Value → Store → Except Fault (Value × Store)
  | 0, _, _, _ => .error .cyclicCopy
  | fuel + 1, active, v, s =>
    let inner := copyWithin fuel (v :: active)
    let items (values : List Value) := mapStore inner values s
    let entries (d : Dict) := mapStore (mapSlot inner) d s
    if active.contains v && (v.isMapping || v.kind == .sequence) then .error .cyclicCopy
    else
      match v with
      | .dict a => do
        let (d, s) ← entries (s.dictAt a)
        .ok (s.newDict d)
      | .frozen a => do
        let (d, s) ← entries (s.frozenAt a)
        .ok (s.newDict d)
      | .list a => do
        let (values, s) ← items (s.listAt a)
        .ok (s.newList values)
      | .tuple a =>
        if (s.tupleAt a).isEmpty then .ok (v, s)
        else do
          let (values, s) ← items (s.tupleAt a)
          .ok (s.newTuple values)
      | .blob a => .ok (s.newBlob (s.blobAt a))
      | v => .ok (v, s)

/-- A read-only mapping is copied to a dictionary, and the empty tuple is its own copy. Containers
nest no deeper than the store has objects unless one contains itself. -/
def deepCopy (s : Store) (v : Value) : Except Fault (Value × Store) :=
  copyWithin (s.size + 2) [] v s

end Store
end PageRuntime
