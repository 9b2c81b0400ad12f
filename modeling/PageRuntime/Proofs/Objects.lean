import PageRuntime.Store

/-! The objects of a store, seen as shelves of one form. Making an object puts it at the end of its
shelf, and writing one leaves all others as they are. -/
namespace PageRuntime

/-- The kinds of objects that have an address. -/
inductive Shelf
  | list
  | tuple
  | dict
  | frozen
  | fset
  | blob
  | node
  | failure
  | report
  | trail
  | handle
  | scope
  | context
deriving DecidableEq

inductive Object
  | items (values : List Value)
  | entries (d : Dict)
  | blob (b : Blob)
  | node (n : Node)
  | failure (f : Failure)
  | report (r : Report)
  | trail (frames : List String)
  | handle (h : Handle)
  | scope (scope : Scope)
  | context (scope : Address)

/-- The shelf and the place of a value that has identity in the store. -/
def Value.spot? : Value → Option (Shelf × Address)
  | list a => some (.list,a)
  | tuple a => some (.tuple,a)
  | dict a => some (.dict,a)
  | frozen a => some (.frozen,a)
  | fset a => some (.fset,a)
  | blob a => some (.blob,a)
  | node a => some (.node,a)
  | ref a => some (.handle,a)
  | scope a => some (.scope,a)
  | context a => some (.context,a)
  | failure a => some (.failure,a)
  | report a => some (.report,a)
  | trail a => some (.trail,a)
  | _ => none

namespace Store

def sizeOf (s : Store) : Shelf → Nat
  | .list => s.lists.size
  | .tuple => s.tuples.size
  | .dict => s.dicts.size
  | .frozen => s.frozens.size
  | .fset => s.fsets.size
  | .blob => s.blobs.size
  | .node => s.nodes.size
  | .failure => s.failures.size
  | .report => s.reports.size
  | .trail => s.trails.size
  | .handle => s.handles.size
  | .scope => s.scopes.size
  | .context => s.contexts.size

def object (s : Store) : Shelf → Address → Object
  | .list, a => .items (s.listAt a)
  | .tuple, a => .items (s.tupleAt a)
  | .dict, a => .entries (s.dictAt a)
  | .frozen, a => .entries (s.frozenAt a)
  | .fset, a => .items (s.fsetAt a)
  | .blob, a => .blob (s.blobAt a)
  | .node, a => .node (s.nodeAt a)
  | .failure, a => .failure (s.failureAt a)
  | .report, a => .report (s.reportAt a)
  | .trail, a => .trail (s.trailAt a)
  | .handle, a => .handle (s.handleAt a)
  | .scope, a => .scope (s.scopeAt a)
  | .context, a => .context (s.contextAt a)

/-- The objects on some shelves, as values. -/
def valuesOn (s : Store) (shelves : List (Shelf × (Address → Value))) : List Value :=
  shelves.flatMap fun (shelf,value) => (List.range (s.sizeOf shelf)).map value

theorem mem_valuesOn {s : Store} {shelves : List (Shelf × (Address → Value))} {shelf : Shelf}
    {value : Address → Value} {a : Address} (listed : (shelf,value) ∈ shelves)
    (inside : a < s.sizeOf shelf) : value a ∈ s.valuesOn shelves :=
  List.mem_flatMap.mpr ⟨_,listed,List.mem_map_of_mem (List.mem_range.mpr inside)⟩

/-- The store gains one object at the end of a shelf. -/
structure Adds (s after : Store) (shelf : Shelf) (o : Object) : Prop where
  size : after.sizeOf shelf = s.sizeOf shelf + 1
  sizes : ∀ other, other ≠ shelf → after.sizeOf other = s.sizeOf other
  object : after.object shelf (s.sizeOf shelf) = o
  others : ∀ other a, (other ≠ shelf ∨ a ≠ s.sizeOf shelf) → after.object other a = s.object other a

/-- The store holds another object at one place. -/
structure Puts (s after : Store) (shelf : Shelf) (a : Address) (o : Object) : Prop where
  sizes : ∀ other, after.sizeOf other = s.sizeOf other
  object : a < s.sizeOf shelf → after.object shelf a = o
  others : ∀ other b, (other ≠ shelf ∨ b ≠ a) → after.object other b = s.object other b

end Store

namespace Table

variable {α : Type}

theorem getD_push_self (t : Table α) (x y : α) : ((t.push x).get? t.size).getD y = x := by
  rw [t.get?_push_size,Option.getD_some]

theorem getD_push_of_ne (t : Table α) (x y : α) {a : Address} (differ : a ≠ t.size) :
    ((t.push x).get? a).getD y = (t.get? a).getD y := by
  obtain inside | outside := Nat.lt_or_gt_of_ne differ
  · rw [t.get?_push_of_lt x inside]
  · have still : (t.push x).get? a = none :=
      (t.push x).get?_outside (Nat.le_trans (Nat.le_of_eq (t.size_push x)) outside)
    rw [t.get?_outside (Nat.le_of_lt outside),still]

theorem getD_set_self (t : Table α) (x y : α) {a : Address} (inside : a < t.size) :
    ((t.set a x).get? a).getD y = x := by
  rw [t.get?_set_self x inside,Option.getD_some]

theorem getD_set_of_ne (t : Table α) (x y : α) {a b : Address} (differ : b ≠ a) :
    ((t.set a x).get? b).getD y = (t.get? b).getD y := by
  rw [t.get?_set_of_ne x differ.symm]

end Table

namespace Store

/-- What was never made is an empty dictionary. -/
theorem dictAt_outside {s : Store} {a : Address} (outside : s.dicts.size ≤ a) : s.dictAt a = [] := by
  rw [dictAt,s.dicts.get?_outside outside]
  rfl

/-- A scope that was never made has no parent. -/
theorem parent_outside {s : Store} {a : Address} (outside : s.scopes.size ≤ a) :
    (s.scopeAt a).parent = none := by
  rw [scopeAt,s.scopes.get?_outside outside]
  rfl

/-- Settles one case of `Adds` or `Puts` at a time: the shelf itself, and all others by computation. -/
theorem adds_of {s after : Store} {shelf : Shelf} {o : Object}
    (size : after.sizeOf shelf = s.sizeOf shelf + 1)
    (sizes : ∀ other, other ≠ shelf → after.sizeOf other = s.sizeOf other)
    (object : after.object shelf (s.sizeOf shelf) = o)
    (same : ∀ a, a ≠ s.sizeOf shelf → after.object shelf a = s.object shelf a)
    (others : ∀ other a, other ≠ shelf → after.object other a = s.object other a) :
    s.Adds after shelf o where
  size := size
  sizes := sizes
  object := object
  others other a apart := by
    by_cases here : other = shelf
    · subst here
      exact same a (apart.resolve_left fun differ => differ rfl)
    · exact others other a here

theorem puts_of {s after : Store} {shelf : Shelf} {a : Address} {o : Object}
    (sizes : ∀ other, after.sizeOf other = s.sizeOf other)
    (object : a < s.sizeOf shelf → after.object shelf a = o)
    (same : ∀ b, b ≠ a → after.object shelf b = s.object shelf b)
    (others : ∀ other b, other ≠ shelf → after.object other b = s.object other b) :
    s.Puts after shelf a o where
  sizes := sizes
  object := object
  others other b apart := by
    by_cases here : other = shelf
    · subst here
      exact same b (apart.resolve_left fun differ => differ rfl)
    · exact others other b here

variable (s : Store)

theorem newList_adds (items : List Value) : s.Adds (s.newList items).2 .list (.items items) :=
  adds_of (s.lists.size_push items) (fun other differ => by cases other <;> trivial)
    (congrArg Object.items (s.lists.getD_push_self items []))
    (fun a differ => congrArg Object.items (s.lists.getD_push_of_ne items [] differ))
    (fun other a differ => by cases other <;> trivial)

theorem newTuple_adds (items : List Value) : s.Adds (s.newTuple items).2 .tuple (.items items) :=
  adds_of (s.tuples.size_push items) (fun other differ => by cases other <;> trivial)
    (congrArg Object.items (s.tuples.getD_push_self items []))
    (fun a differ => congrArg Object.items (s.tuples.getD_push_of_ne items [] differ))
    (fun other a differ => by cases other <;> trivial)

theorem newDict_adds (d : Dict) : s.Adds (s.newDict d).2 .dict (.entries d) :=
  adds_of (s.dicts.size_push d) (fun other differ => by cases other <;> trivial)
    (congrArg Object.entries (s.dicts.getD_push_self d []))
    (fun a differ => congrArg Object.entries (s.dicts.getD_push_of_ne d [] differ))
    (fun other a differ => by cases other <;> trivial)

theorem newBlob_adds (b : Blob) : s.Adds (s.newBlob b).2 .blob (.blob b) :=
  adds_of (s.blobs.size_push b) (fun other differ => by cases other <;> trivial)
    (congrArg Object.blob (s.blobs.getD_push_self b _))
    (fun a differ => congrArg Object.blob (s.blobs.getD_push_of_ne b _ differ))
    (fun other a differ => by cases other <;> trivial)

theorem newNode_adds (n : Node) : s.Adds (s.newNode n).2 .node (.node n) :=
  adds_of (s.nodes.size_push n) (fun other differ => by cases other <;> trivial)
    (congrArg Object.node (s.nodes.getD_push_self n _))
    (fun a differ => congrArg Object.node (s.nodes.getD_push_of_ne n _ differ))
    (fun other a differ => by cases other <;> trivial)

theorem newFailure_adds (f : Failure) : s.Adds (s.newFailure f).2 .failure (.failure f) :=
  adds_of (s.failures.size_push f) (fun other differ => by cases other <;> trivial)
    (congrArg Object.failure (s.failures.getD_push_self f _))
    (fun a differ => congrArg Object.failure (s.failures.getD_push_of_ne f _ differ))
    (fun other a differ => by cases other <;> trivial)

theorem newReport_adds (r : Report) : s.Adds (s.newReport r).2 .report (.report r) :=
  adds_of (s.reports.size_push r) (fun other differ => by cases other <;> trivial)
    (congrArg Object.report (s.reports.getD_push_self r _))
    (fun a differ => congrArg Object.report (s.reports.getD_push_of_ne r _ differ))
    (fun other a differ => by cases other <;> trivial)

theorem newTrail_adds (frames : List String) : s.Adds (s.newTrail frames).2 .trail (.trail frames) :=
  adds_of (s.trails.size_push frames) (fun other differ => by cases other <;> trivial)
    (congrArg Object.trail (s.trails.getD_push_self frames _))
    (fun a differ => congrArg Object.trail (s.trails.getD_push_of_ne frames _ differ))
    (fun other a differ => by cases other <;> trivial)

theorem newHandle_adds (h : Handle) : s.Adds (s.newHandle h).2 .handle (.handle h) :=
  adds_of (s.handles.size_push h) (fun other differ => by cases other <;> trivial)
    (congrArg Object.handle (s.handles.getD_push_self h _))
    (fun a differ => congrArg Object.handle (s.handles.getD_push_of_ne h _ differ))
    (fun other a differ => by cases other <;> trivial)

theorem newScope_adds (scope : Scope) : s.Adds (s.newScope scope).2 .scope (.scope scope) :=
  adds_of (s.scopes.size_push scope) (fun other differ => by cases other <;> trivial)
    (congrArg Object.scope (s.scopes.getD_push_self scope _))
    (fun a differ => congrArg Object.scope (s.scopes.getD_push_of_ne scope _ differ))
    (fun other a differ => by cases other <;> trivial)

theorem newContext_adds (scope : Address) :
    s.Adds (s.newContext scope).2 .context (.context scope) :=
  adds_of (s.contexts.size_push scope) (fun other differ => by cases other <;> trivial)
    (congrArg Object.context (s.contexts.getD_push_self scope _))
    (fun a differ => congrArg Object.context (s.contexts.getD_push_of_ne scope _ differ))
    (fun other a differ => by cases other <;> trivial)

theorem putList_puts (a : Address) (items : List Value) :
    s.Puts (s.putList a items) .list a (.items items) :=
  puts_of (fun other => by cases other <;> first | rfl | exact s.lists.size_set a items)
    (fun inside => congrArg Object.items (s.lists.getD_set_self items [] inside))
    (fun b differ => congrArg Object.items (s.lists.getD_set_of_ne items [] differ))
    (fun other b differ => by cases other <;> trivial)

theorem putDict_puts (a : Address) (d : Dict) : s.Puts (s.putDict a d) .dict a (.entries d) :=
  puts_of (fun other => by cases other <;> first | rfl | exact s.dicts.size_set a d)
    (fun inside => congrArg Object.entries (s.dicts.getD_set_self d [] inside))
    (fun b differ => congrArg Object.entries (s.dicts.getD_set_of_ne d [] differ))
    (fun other b differ => by cases other <;> trivial)

theorem putBlob_puts (a : Address) (b : Blob) : s.Puts (s.putBlob a b) .blob a (.blob b) :=
  puts_of (fun other => by cases other <;> first | rfl | exact s.blobs.size_set a b)
    (fun inside => congrArg Object.blob (s.blobs.getD_set_self b _ inside))
    (fun c differ => congrArg Object.blob (s.blobs.getD_set_of_ne b _ differ))
    (fun other c differ => by cases other <;> trivial)

theorem putTrail_puts (a : Address) (frames : List String) :
    s.Puts (s.putTrail a frames) .trail a (.trail frames) :=
  puts_of (fun other => by cases other <;> first | rfl | exact s.trails.size_set a frames)
    (fun inside => congrArg Object.trail (s.trails.getD_set_self frames [] inside))
    (fun b differ => congrArg Object.trail (s.trails.getD_set_of_ne frames [] differ))
    (fun other b differ => by cases other <;> trivial)

theorem putHandle_puts (a : Address) (h : Handle) :
    s.Puts (s.putHandle a h) .handle a (.handle h) :=
  puts_of (fun other => by cases other <;> first | rfl | exact s.handles.size_set a h)
    (fun inside => congrArg Object.handle (s.handles.getD_set_self h _ inside))
    (fun b differ => congrArg Object.handle (s.handles.getD_set_of_ne h _ differ))
    (fun other b differ => by cases other <;> trivial)

/-- What was never made is as in an empty store. -/
theorem object_outside {shelf : Shelf} {a : Address} (outside : s.sizeOf shelf ≤ a) :
    s.object shelf a = empty.object shelf a := by
  have none {α : Type} {t : Table α} (outside : t.size ≤ a) (x : α) : (t.get? a).getD x = x := by
    rw [t.get?_outside outside]
    rfl
  cases shelf <;> exact congrArg _ (none outside _)

/-- At each place there is the object that was put there, or what was there before. -/
theorem Puts.either {s after : Store} {shelf : Shelf} {a : Address} {o : Object}
    (puts : s.Puts after shelf a o) (other : Shelf) (b : Address) :
    (other = shelf ∧ b = a ∧ after.object other b = o) ∨ after.object other b = s.object other b := by
  by_cases here : other = shelf ∧ b = a
  · obtain ⟨rfl,rfl⟩ := here
    obtain inside | outside := Nat.lt_or_ge b (s.sizeOf other)
    · exact .inl ⟨rfl,rfl,puts.object inside⟩
    · have beyond : after.sizeOf other ≤ b := Nat.le_trans (Nat.le_of_eq (puts.sizes other)) outside
      exact .inr ((after.object_outside beyond).trans (s.object_outside outside).symm)
  · exact .inr (puts.others other b (Classical.not_and_iff_not_or_not.mp here))

end Store
end PageRuntime
