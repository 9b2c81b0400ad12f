import PageRuntime.Fault
import PageRuntime.Named
import PageRuntime.Path
import PageRuntime.Value

/-! The store: one table for each kind of object that has identity. Objects are never moved or
freed, so an address that was given out stays good; reading an address that was never given out
yields an empty object. -/
namespace PageRuntime

/-- Objects by address, in the order they were made. -/
structure Table (α : Type) where
  items : Array α

namespace Table

variable {α : Type}

def empty : Table α := ⟨#[]⟩

def size (t : Table α) : Nat := t.items.size

def get? (t : Table α) (a : Address) : Option α := t.items[a]?

def push (t : Table α) (x : α) : Table α := ⟨t.items.push x⟩

def set (t : Table α) (a : Address) (x : α) : Table α := ⟨t.items.setIfInBounds a x⟩

theorem get?_outside (t : Table α) {a : Address} (outside : t.size ≤ a) : t.get? a = none :=
  Array.getElem?_eq_none outside

theorem get?_set_of_ne (t : Table α) {a b : Address} (x : α) (differ : a ≠ b) :
    (t.set a x).get? b = t.get? b := by
  simp [set, get?, differ]

theorem get?_set_self (t : Table α) {a : Address} (x : α) (inside : a < t.size) :
    (t.set a x).get? a = some x := by
  simp only [size] at inside
  simp [set, get?, inside]

theorem get?_push_size (t : Table α) (x : α) : (t.push x).get? t.size = some x := by
  simp [push, get?, size]

theorem get?_push_of_lt (t : Table α) (x : α) {a : Address} (inside : a < t.size) :
    (t.push x).get? a = t.get? a := by
  simp only [size] at inside
  simp [push, get?, Array.getElem?_push, Nat.ne_of_lt inside]

theorem size_set (t : Table α) (a : Address) (x : α) : (t.set a x).size = t.size := by
  simp [set, size]

theorem size_push (t : Table α) (x : α) : (t.push x).size = t.size + 1 := by
  simp [push, size]

end Table

structure Blob where
  mediaType : Value
  data : List UInt8
deriving DecidableEq

/-- A markup node. Text nodes have the tag `#text` and their content in `text`. -/
structure Node where
  tag : Value
  attrs : Dict
  children : List Address
  style : Value
  text : Value
deriving DecidableEq

/-- A raised fault, with what it was raised from and the trail it happened on. -/
structure Failure where
  fault : Fault
  cause : Option Address
  trail : Option Address
deriving DecidableEq

/-- What the host is told about a failure. -/
structure Report where
  message : String
  failure : Option Address
  trail : Option Address
  handlerPath : Option String
  block : Option String
deriving DecidableEq

/-- A settable handle on a location: a path seen from a scope, one accessor below another handle,
another handle that may only be read, or a cell of its own. -/
inductive Handle
  | path (scope : Address) (path : Path) (locked : Bool)
  | sub (parent : Address) (key : Segment)
  | locked (inner : Address)
  | cell (value : Value) (label : String)
deriving DecidableEq

/-- A handler bound on a scope. Handlers of the parent scope run one scope further up. -/
structure Handler where
  text : String
  node : Option Address
  inParent : Bool
deriving DecidableEq

/-- Which events a scope stops: none, those it has a handler for, or all. -/
inductive Boundary
  | none
  | soft
  | hard
deriving DecidableEq

def Boundary.ofName? : String → Option Boundary
  | "none" => some .none
  | "soft" => some .soft
  | "hard" => some .hard
  | _ => Option.none

/-- One scope of the tree. `specials` is the address of the dictionary of its context bindings; a
scope that only adds specials shares the data of its parent. -/
structure Scope where
  parent : Option Address
  data : Value
  specials : Address
  onlySpecials : Bool
  description : Option String
  handlers : Named Handler
  htmlContext : Option String
  component : Value
  boundary : Boundary
deriving DecidableEq

structure Store where
  lists : Table (List Value)
  tuples : Table (List Value)
  dicts : Table Dict
  frozens : Table Dict
  fsets : Table (List Value)
  blobs : Table Blob
  nodes : Table Node
  failures : Table Failure
  reports : Table Report
  trails : Table (List String)
  handles : Table Handle
  scopes : Table Scope
  contexts : Table Address
  callables : Nat

namespace Store

def empty : Store :=
  ⟨.empty, .empty, .empty, .empty, .empty, .empty, .empty, .empty, .empty, .empty, .empty, .empty,
    .empty, 0⟩

def listAt (s : Store) (a : Address) : List Value := (s.lists.get? a).getD []
def tupleAt (s : Store) (a : Address) : List Value := (s.tuples.get? a).getD []
def dictAt (s : Store) (a : Address) : Dict := (s.dicts.get? a).getD []
def frozenAt (s : Store) (a : Address) : Dict := (s.frozens.get? a).getD []
def fsetAt (s : Store) (a : Address) : List Value := (s.fsets.get? a).getD []
def blobAt (s : Store) (a : Address) : Blob := (s.blobs.get? a).getD ⟨.null, []⟩
def nodeAt (s : Store) (a : Address) : Node := (s.nodes.get? a).getD ⟨.null, [], [], .null, .null⟩
def failureAt (s : Store) (a : Address) : Failure :=
  (s.failures.get? a).getD ⟨.general "", none, none⟩
def reportAt (s : Store) (a : Address) : Report :=
  (s.reports.get? a).getD ⟨"", none, none, none, none⟩
def trailAt (s : Store) (a : Address) : List String := (s.trails.get? a).getD []
def handleAt (s : Store) (a : Address) : Handle := (s.handles.get? a).getD (.cell .null "")
def scopeAt (s : Store) (a : Address) : Scope :=
  (s.scopes.get? a).getD ⟨none, .null, 0, false, none, [], none, .null, .none⟩
def contextAt (s : Store) (a : Address) : Address := (s.contexts.get? a).getD 0

def putList (s : Store) (a : Address) (items : List Value) : Store :=
  { s with lists := s.lists.set a items }
def putTuple (s : Store) (a : Address) (items : List Value) : Store :=
  { s with tuples := s.tuples.set a items }
def putDict (s : Store) (a : Address) (d : Dict) : Store := { s with dicts := s.dicts.set a d }
def putFrozen (s : Store) (a : Address) (d : Dict) : Store :=
  { s with frozens := s.frozens.set a d }
def putBlob (s : Store) (a : Address) (b : Blob) : Store := { s with blobs := s.blobs.set a b }
def putTrail (s : Store) (a : Address) (frames : List String) : Store :=
  { s with trails := s.trails.set a frames }
def putHandle (s : Store) (a : Address) (h : Handle) : Store :=
  { s with handles := s.handles.set a h }

/-- Gives a container other contents: items if it is a sequence, entries if it is a mapping. -/
def refill (s : Store) (container : Value) (items : List Value) (d : Dict) : Store :=
  match container with
  | .list a => s.putList a items
  | .tuple a => s.putTuple a items
  | .dict a => s.putDict a d
  | .frozen a => s.putFrozen a d
  | _ => s

def newList (s : Store) (items : List Value) : Value × Store :=
  (.list s.lists.size, { s with lists := s.lists.push items })
def newTuple (s : Store) (items : List Value) : Value × Store :=
  (.tuple s.tuples.size, { s with tuples := s.tuples.push items })
def newDict (s : Store) (d : Dict) : Value × Store :=
  (.dict s.dicts.size, { s with dicts := s.dicts.push d })
def newFrozen (s : Store) (d : Dict) : Value × Store :=
  (.frozen s.frozens.size, { s with frozens := s.frozens.push d })
def newFset (s : Store) (items : List Value) : Value × Store :=
  (.fset s.fsets.size, { s with fsets := s.fsets.push items })
def newBlob (s : Store) (b : Blob) : Value × Store :=
  (.blob s.blobs.size, { s with blobs := s.blobs.push b })
def newNode (s : Store) (n : Node) : Address × Store :=
  (s.nodes.size, { s with nodes := s.nodes.push n })
def newFailure (s : Store) (f : Failure) : Address × Store :=
  (s.failures.size, { s with failures := s.failures.push f })
def newReport (s : Store) (r : Report) : Address × Store :=
  (s.reports.size, { s with reports := s.reports.push r })
def newTrail (s : Store) (frames : List String) : Address × Store :=
  (s.trails.size, { s with trails := s.trails.push frames })
def newHandle (s : Store) (h : Handle) : Address × Store :=
  (s.handles.size, { s with handles := s.handles.push h })
def newScope (s : Store) (scope : Scope) : Address × Store :=
  (s.scopes.size, { s with scopes := s.scopes.push scope })
def newContext (s : Store) (scope : Address) : Value × Store :=
  (.context s.contexts.size, { s with contexts := s.contexts.push scope })
def newCallable (s : Store) : Value × Store :=
  (.callable s.callables, { s with callables := s.callables + 1 })

/-- How many objects there are that a chain of values can run through. -/
def size (s : Store) : Nat :=
  s.lists.size + s.tuples.size + s.dicts.size + s.frozens.size + s.fsets.size + s.blobs.size +
    s.nodes.size + s.failures.size + s.reports.size + s.handles.size + s.contexts.size +
    s.scopes.size

/-- The entries of a mapping; other values have none. -/
def mapping? (s : Store) : Value → Option Dict
  | .dict a => some (s.dictAt a)
  | .frozen a => some (s.frozenAt a)
  | _ => none

/-- Entries of either kind of mapping. -/
def entries (s : Store) (v : Value) : Dict := (s.mapping? v).getD []

/-- The items of a list or tuple; other values have none. -/
def sequence? (s : Store) : Value → Option (List Value)
  | .list a => some (s.listAt a)
  | .tuple a => some (s.tupleAt a)
  | _ => none

/-- The parts of a mapping or sequence that hold further values. -/
def members (s : Store) (v : Value) : List Value :=
  match s.mapping? v, s.sequence? v with
  | some d, _ => Dict.values d
  | none, some items => items
  | none, none => []

/-- Emptiness, zero and null count as false; everything else counts as true. -/
def isTrue (s : Store) : Value → Bool
  | .null => false
  | .bool truth => truth
  | .int i => i != 0
  | .float x => !x.isZero
  | .str text => !text.isEmpty
  | .bytes data => !data.isEmpty
  | .list a => !(s.listAt a).isEmpty
  | .tuple a => !(s.tupleAt a).isEmpty
  | .dict a => !(s.dictAt a).isEmpty
  | .frozen a => !(s.frozenAt a).isEmpty
  | .fset a => !(s.fsetAt a).isEmpty
  | .blob a => !(s.blobAt a).data.isEmpty
  | .trail a => !(s.trailAt a).isEmpty
  | _ => true

def typeName (s : Store) : Value → String
  | .null => "NoneType"
  | .bool _ => "bool"
  | .int _ => "int"
  | .float _ => "float"
  | .str _ => "str"
  | .bytes _ => "bytes"
  | .list _ => "list"
  | .tuple _ => "tuple"
  | .dict _ => "dict"
  | .frozen _ => "mappingproxy"
  | .fset _ => "frozenset"
  | .blob _ => "Blob"
  | .node _ => "Node"
  | .ref a =>
    match s.handleAt a with
    | .path .. => "PathLValue"
    | .sub .. => "SubLValue"
    | .locked _ => "ReadOnlyLValue"
    | .cell .. => "ValueLValue"
  | .scope _ => "DataEnvironment"
  | .context _ => "ContextProxy"
  | .failure a => (s.failureAt a).fault.className
  | .report _ => "ErrorReport"
  | .trail _ => "RuntimeContext"
  | .callable _ => "function"

/-- The key a scalar or an object of its own identity stands for. -/
def atom? : Value → Option Atom
  | .null => some .null
  | .bool truth => some (.int (if truth then 1 else 0))
  | .int i => some (.int i)
  | .float x =>
    match x.exactInt? with
    | some i => some (.int i)
    | none => some (.float x)
  | .str text => some (.str text)
  | .bytes data => some (.bytes data)
  | v@(.ref _) | v@(.scope _) | v@(.context _) | v@(.failure _) | v@(.trail _) | v@(.callable _) =>
    some (.identity v)
  | _ => none

/-- Keys are spelled out through tuples and sets; the fuel bounds how deep these nest. -/
def keyWithin (s : Store) : Nat → Value → Option Key
  | 0, v => (atom? v).map .atom
  | fuel + 1, v =>
    match v with
    | .tuple a => do
      let keys ← (s.tupleAt a).mapM (s.keyWithin fuel)
      some (.compound (.openTuple :: (keys.flatMap Key.parts ++ [.close])))
    | .fset a => do
      let keys ← (s.fsetAt a).mapM (s.keyWithin fuel)
      some (.compound (.openSet :: (keys.flatMap Key.parts ++ [.close])))
    | v => (atom? v).map .atom

/-- The key a value stands for in a dictionary. Values that can change have none. -/
def key? (s : Store) (v : Value) : Option Key := s.keyWithin (s.tuples.size + s.fsets.size) v

end Store

def Segment.key : Segment → Key
  | .field name => .text name
  | .index place => .atom (.int place)

def Segment.value : Segment → Value
  | .field name => .str name
  | .index place => .int place

end PageRuntime
