import PageRuntime.Path.Reader
import PageRuntime.Reference.Reading

/-! References: writing and deleting through handles. Wherever a location holds another reference,
writing goes to what it refers to. A chain of references that never ends is a fault. -/
namespace PageRuntime
namespace Reference

/-- Whether writes through a path are ignored: a locked handle, a computed root, or a locked one. -/
def isLocked (path : Path) (locked : Bool) : Act Bool := do
  if locked || path.root.kind.isComputed then return true
  else
    match path.root.kind.dataRoot? with
    | none => return false
    | some name => do
      let r ← Step.read
      if r.alive then return r.isLocked name else Act.fail .released

/-- The container that a missing location becomes before `key` is written into it. -/
def emptyFor (key : Segment) : Act Value :=
  match key with
  | .index _ => Act.make (·.newList [])
  | .field _ => Act.make (·.newDict [])

/-- Containers that writes pass over silently. -/
def isFixed : Spot → Bool
  | .value (.tuple _) | .value (.frozen _) | .value (.fset _) => true
  | _ => false

def keyShown : Segment → String
  | .index place => String.ofList (intChars place)
  | .field name => Text.quote name

def setRootValue (name : String) (value : Value) : Act Unit :=
  Step.modify (·.setRoot name value)

/-- The items of a list after writing a place at or beyond its end: nulls fill the gap. -/
def extended (items : List Value) (place : Nat) (value : Value) : List Value :=
  items ++ List.replicate (place - items.length) .null ++ [value]

def root (scope : Address) (path : Path) : Act Spot := do
  Act.ofExcept ((← Step.read).rootSpot scope path.root)

def settle (spot : Spot) : Act Spot := do
  let r ← Step.read
  Act.ofExcept (spot.follow r.resolve)

def step (spot : Spot) (key : Segment) : Act Value := do
  let r ← Step.read
  Act.ofExcept (spot.step r.resolve r.store key)

def read (a : Address) : Act Spot := do
  Act.ofExcept ((← Step.read).readReference a)

/-! What one handle does with a value, when handles met on the way are written by `write`. -/
section Writing

variable (write : Address → Value → Act Unit)

def putBinding (scope : Address) (key : Segment) (value : Value) : Act Unit := do
  let name := key.bindingName
  match (← Act.store).contextKey scope (.text name) with
  | .ref existing => write existing value
  | _ => Context.set scope (.text name) (.str name) value

def putEntry (a : Address) (key : Segment) (value : Value) : Act Unit := do
  let s ← Act.store
  match (s.dictAt a).get key.key with
  | .ref existing => write existing value
  | _ => Act.update (·.putDict a ((s.dictAt a).insert key.key key.value value))

/-- Writes a place among items, which `store` then puts where they belong. -/
def putItem (items : List Value) (store : List Value → Act Unit) (key : Segment) (value : Value) :
    Act Unit :=
  match key with
  | .field name => Act.fail (.write (.keyOnList (Text.quote name)))
  | .index place =>
    match placeOf? items.length place with
    | some place =>
      match items[place]? with
      | some (.ref existing) => write existing value
      | _ => store (items.set place value)
    | none => if place < 0 then return () else store (extended items place.toNat value)

/-- Writes one entry of a container that is no reference. An entry that holds a reference is written
through; what is written into listed items is lost with them. -/
def putInto (container : Spot) (key : Segment) (value : Value) : Act Unit := do
  let s ← Act.store
  match container with
  | .bindings scope => putBinding write scope key value
  | .items items => putItem write items (fun _ => return ()) key value
  | .value (.context a) => putBinding write (s.contextAt a) key value
  | .value (.dict a) => putEntry write a key value
  | .value (.list a) =>
    putItem write (s.listAt a) (fun items => Act.update (·.putList a items)) key value
  | .value (.tuple _) | .value (.frozen _) | .value (.fset _) => return ()
  | .value other => Act.fail (.write (.notContainer (keyShown key) (s.typeName other)))

/-- The container that `reading` finds behind a handle. Where it finds nothing, the handle is first
given an empty one. -/
def opened (a : Address) (reading : Act Spot) (key : Segment) : Act Spot := do
  let found ← reading
  if found = .null then
    let made ← emptyFor key
    write a made
    reading
  else return found

/-- Writes one entry of a container, behind the reference if it is one. -/
def put (container : Spot) (key : Segment) (value : Value) : Act Unit := do
  match container with
  | .value (.ref a) => do
    let target ← opened write a (settle container) key
    if target = .null then return () else putInto write target key value
  | container => putInto write container key value

/-- Walks to the container of the last accessor, making missing containers, and writes there. -/
def descend : Spot → Segment → List Segment → Value → Act Unit
  | container, key, [], value => put write container key value
  | container, key, after :: rest, value => do
    let next ← step container key
    if next = .null then
      if isFixed (← settle container) then return ()
      else
        let made ← emptyFor after
        put write container key made
        descend (.value made) after rest value
    else descend (.value next) after rest value

def setRootPath (path : Path) (value : Value) : Act Unit := do
  match path.root.kind.dataRoot? with
  | none => Act.fail (.write (.fixedRoot path.root.text))
  | some name => do
    match (← Step.read).rootValue? name with
    | some (.ref existing) => write existing value
    | _ => setRootValue name value

def setBelowRoot (scope : Address) (path : Path) (key : Segment) (rest : List Segment)
    (value : Value) : Act Unit := do
  let container ← root scope path
  if container = .null then
    match path.root.kind.dataRoot? with
    | none => Act.fail (.write (.nullRoot path.root.text))
    | some name => do
      let made ← emptyFor key
      setRootValue name made
      descend write (.value made) key rest value
  else descend write container key rest value

def setPathValue (scope : Address) (path : Path) (locked : Bool) (value : Value) : Act Unit := do
  if ← isLocked path locked then
    debugLine ("set on read-only location ignored: " ++ path.text)
  else
    match path.segments with
    | [] => setRootPath write path value
    | key :: rest => setBelowRoot write scope path key rest value

def setBelow (parent : Address) (key : Segment) (value : Value) : Act Unit := do
  let container ← opened write parent (read parent) key
  if container = .null then return () else put write container key value

end Writing

/-- Writes a value where a handle refers to; the fuel bounds how many handles are written one inside
the other. -/
def setWithin : Nat → Address → Value → Act Unit
  | 0, _, _ => Act.fail endlessReference
  | fuel + 1, a, value => do
    match (← Act.store).handleAt a with
    | .path scope path locked => setPathValue (setWithin fuel) scope path locked value
    | .sub parent key => setBelow (setWithin fuel) parent key value
    | .locked _ => return ()
    | .cell _ label => Act.update (·.putHandle a (.cell value label))

/-- A write that enters no handle twice enters each at most once. -/
def depth (s : Store) : Nat := 4 * s.handles.size + 8

def set (a : Address) (value : Value) : Act Unit := do setWithin (depth (← Act.store)) a value

/-- Removes one entry of a container that is no reference; what cannot be removed stays. -/
def dropMember (container : Spot) (key : Segment) : Act Unit := do
  let s ← Act.store
  match container with
  | .bindings scope => Context.erase scope (.text key.bindingName)
  | .value (.context a) => Context.erase (s.contextAt a) (.text key.bindingName)
  | .value (.dict a) => Act.update (·.putDict a ((s.dictAt a).erase key.key))
  | .value (.list a) =>
    match key with
    | .index place =>
      match placeOf? (s.listAt a).length place with
      | some place => Act.update (·.putList a ((s.listAt a).eraseIdx place))
      | none => return ()
    | .field _ => return ()
  | _ => return ()

/-- Removes what lies at the end of a path, if its container is there. -/
def deleteLast (scope : Address) (path : Path) (last : Segment) : Act Unit := do
  let start ← root scope path
  let r ← Step.read
  let container ← Act.ofExcept (start.walk r.resolve r.store path.segments.dropLast)
  dropMember (← settle container) last

def deletePath (scope : Address) (path : Path) (locked : Bool) : Act Unit := do
  if ← isLocked path locked then return ()
  else
    match path.segments.getLast? with
    | some last => deleteLast scope path last
    | none => return ()

/-- Removes the location that a handle refers to; roots, cells and locked handles stay. -/
def delete (a : Address) : Act Unit := do
  match (← Act.store).handleAt a with
  | .path scope path locked => deletePath scope path locked
  | .sub parent key => do
    let container ← read parent
    dropMember (← settle container) key
  | .locked _ | .cell _ _ => return ()

/-- Where an operation reads and writes: what a handle refers to, or a path seen from a scope. -/
inductive Target
  | handle (a : Address)
  | place (scope : Address) (path : Path)

namespace Target

instance : Coe Address Target := ⟨handle⟩

def get : Target → Act Value
  | handle a => Reference.get a
  | place scope path => do
    let r ← Step.read
    let spot ← Act.ofExcept (r.readHandle r.resolve (.path scope path false))
    spot.realize

def set (target : Target) (value : Value) : Act Unit := do
  match target with
  | handle a => Reference.set a value
  | place scope path => do
    setPathValue (setWithin (depth (← Act.store))) scope path false value

def delete : Target → Act Unit
  | handle a => Reference.delete a
  | place scope path => deletePath scope path false

def name (s : Store) : Target → String
  | handle a => s.handleName a
  | place _ path => path.text

end Target

def ofPath (scope : Address) (path : Path) (locked : Bool) : Act Address :=
  Act.make (·.newHandle (.path scope path locked))

/-- Paths are texts; any other value names no location. -/
def pathOf (value : Value) : Act Path := do
  match value with
  | .str text => Act.ofExcept (Path.read text)
  | other => Act.fail (.path (.notText ((← Act.store).typeName other)))

/-- A handle on the location that a path names, seen from a scope. -/
def ofValue (scope : Address) (value : Value) : Act Address := do
  ofPath scope (← pathOf value) false

/-- One accessor below a handle. Below a locked handle everything is locked. -/
def subscriptWithin : Nat → Address → Segment → Act Address
  | 0, a, key => Act.make (·.newHandle (.sub a key))
  | fuel + 1, a, key => do
    match (← Act.store).handleAt a with
    | .locked inner => do
      let below ← subscriptWithin fuel inner key
      Act.make (·.newHandle (.locked below))
    | _ => Act.make (·.newHandle (.sub a key))

def subscript (a : Address) (key : Segment) : Act Address := do
  subscriptWithin (← Act.store).handles.size a key

def resolvePath (scope : Address) (path : Value) : Act Value := do get (← ofValue scope path)

def setPath (scope : Address) (path value : Value) : Act Unit := do
  set (← ofValue scope path) value

end Reference

namespace Store

/-- Whether two handles name one location, whatever values lie there. Data roots are the same seen
from every scope. -/
def sameLocationWithin (s : Store) : Nat → Address → Address → Bool
  | 0, a, b => a == b
  | fuel + 1, a, b =>
    match s.handleAt a with
    | .path scope path _ =>
      a == b ||
        match s.handleAt b with
        | .path other otherPath _ =>
          path == otherPath && (path.root.kind.dataRoot?.isSome || scope == other)
        | _ => false
    | .sub parent key =>
      a == b ||
        match s.handleAt b with
        | .sub otherParent otherKey =>
          key == otherKey && s.sameLocationWithin fuel parent otherParent
        | _ => false
    | .locked inner =>
      match s.handleAt b with
      | .locked otherInner => s.sameLocationWithin fuel inner otherInner
      | _ => s.sameLocationWithin fuel inner b
    | .cell _ _ => a == b

def sameLocation (s : Store) (a b : Address) : Bool := s.sameLocationWithin s.handles.size a b

end Store

end PageRuntime
