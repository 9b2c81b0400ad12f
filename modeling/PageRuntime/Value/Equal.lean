import PageRuntime.Reference

/-! Two equalities of values. `equal` compares as dictionaries do their members: numbers by value,
truth values as numbers, containers part by part, everything else by identity. `deepEqual` compares
as the page language does: kinds never mix, and references are equal when they name one location.
Comparing two values that contain themselves may never end, which is a fault. -/
namespace PageRuntime

def endlessComparison : Fault := .misuse .recursion "maximum recursion depth exceeded in comparison"

/-- How deep comparisons go beyond what the objects of a store can nest without a cycle. -/
def comparisonSlack : Nat := 1000

/-- Whether all pairs compare equal, from the left and no further than the first that differs. -/
def allPairs {α β : Type} (compare : α → β → Except Fault Bool) :
    List (α × β) → Except Fault Bool
  | [] => .ok true
  | (x, y) :: rest => do
    if ← compare x y then allPairs compare rest else .ok false

/-- Entries of one dictionary beside what another holds under the same keys. -/
def pairedEntries (d other : Dict) : List (Value × Value) :=
  d.map fun slot => (slot.value, other.get slot.key)

/-- Whether two dictionaries have the same keys, in whatever order. -/
def sameKeys (d other : Dict) : Bool :=
  d.length == other.length && d.all fun slot => other.has slot.key

namespace Value

/-- The value of a number or truth value among the numbers. -/
def number? : Value → Option (Int ⊕ Number.Binary64)
  | bool truth => some (.inl (if truth then 1 else 0))
  | int i => some (.inl i)
  | float x => some (.inr x)
  | _ => none

def numbersEqual : Int ⊕ Number.Binary64 → Int ⊕ Number.Binary64 → Bool
  | .inl i, .inl j => i == j
  | .inl i, .inr y => y.equalInt i
  | .inr x, .inl j => x.equalInt j
  | .inr x, .inr y => x.equal y

end Value

namespace Store

def blobsEqual (compare : Value → Value → Except Fault Bool) (a b : Blob) : Except Fault Bool := do
  if ← compare a.mediaType b.mediaType then .ok (a.data == b.data) else .ok false

def equalWithin (s : Store) : Nat → Value → Value → Except Fault Bool
  | 0, _, _ => .error endlessComparison
  | fuel + 1, v, w =>
    let inner := s.equalWithin fuel
    let items (xs ys : List Value) : Except Fault Bool :=
      if xs.length == ys.length then allPairs inner (xs.zip ys) else .ok false
    let entries (d other : Dict) : Except Fault Bool :=
      if sameKeys d other then allPairs inner (pairedEntries d other) else .ok false
    match v.number?, w.number? with
    | some x, some y => .ok (Value.numbersEqual x y)
    | _, _ =>
      if v == w then .ok true
      else
        match v, w with
        | .list a, .list b => items (s.listAt a) (s.listAt b)
        | .tuple a, .tuple b => items (s.tupleAt a) (s.tupleAt b)
        | .fset a, .fset b => .ok ((s.fsetAt a).mapM s.key? == (s.fsetAt b).mapM s.key?)
        | .blob a, .blob b => blobsEqual inner (s.blobAt a) (s.blobAt b)
        | .report a, .report b => .ok (s.reportAt a == s.reportAt b)
        | .node a, .node b => do
          let x := s.nodeAt a
          let y := s.nodeAt b
          if !(← inner x.tag y.tag) then .ok false
          else if !(← entries x.attrs y.attrs) then .ok false
          else if !(← items (x.children.map .node) (y.children.map .node)) then .ok false
          else if !(← inner x.style y.style) then .ok false
          else inner x.text y.text
        | v, w =>
          if v.isMapping && w.isMapping then entries (s.entries v) (s.entries w) else .ok false

def equal (s : Store) (v w : Value) : Except Fault Bool :=
  s.equalWithin (s.size + comparisonSlack) v w

def deepEqualWithin (s : Store) : Nat → Value → Value → Except Fault Bool
  | 0, _, _ => .error endlessComparison
  | fuel + 1, v, w =>
    let inner := s.deepEqualWithin fuel
    if v.kind != w.kind then .ok false
    else
      match v.kind with
      | .null => .ok true
      | .reference =>
        match v, w with
        | .ref a, .ref b => .ok (s.sameLocation a b)
        | _, _ => .ok false
      | .mapping =>
        if v == w then .ok true
        else
          let d := s.entries v
          let other := s.entries w
          if sameKeys d other then allPairs inner (pairedEntries d other) else .ok false
      | .sequence =>
        if v == w then .ok true
        else
          let xs := s.members v
          let ys := s.members w
          if xs.length == ys.length then allPairs inner (xs.zip ys) else .ok false
      | _ => s.equal v w

def deepEqual (s : Store) (v w : Value) : Except Fault Bool :=
  s.deepEqualWithin (s.size + comparisonSlack) v w

end Store
end PageRuntime
