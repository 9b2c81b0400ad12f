import PageRuntime.Proofs.PlainTrees
import PageRuntime.Proofs.Retargeting

/-! The shapes of values. What a value is converted into is fixed by its shape, one step at a time:
references are looked through, views of bindings are dictionaries, and what a reference lists anew is
a list. Making objects changes no shape. -/
namespace PageRuntime

namespace Plain

inductive Shape
  | leaf (form : Value)
  | through (inner : Value)
  | items (values : List Value)
  | entries (d : Dict)
  | blob (b : Blob)
  | node (n : Node)
  | unreadable (fault : Fault)

def Shape.ofReading (s : Store) : Except Fault Spot → Shape
  | .ok (.value inner) => through inner
  | .ok (.items values) => items values
  | .ok (.bindings scope) => entries (s.squashedContext scope)
  | .error fault => unreadable fault

/-- What the form of a value is made from, one step down. -/
def Shape.parts : Shape → List Value
  | through inner => [inner]
  | items values => values
  | entries d => Dict.values d
  | node n => n.children.map .node
  | _ => []

end Plain

open Plain (Shape)

namespace Runtime

def shape (r : Runtime) : Value → Shape
  | .ref a => .ofReading r.store (r.readReference a)
  | .context a => .entries (r.store.squashedContext (r.store.contextAt a))
  | .dict a => .entries (r.store.dictAt a)
  | .frozen a => .entries (r.store.frozenAt a)
  | .list a => .items (r.store.listAt a)
  | .tuple a => .items (r.store.tupleAt a)
  | .blob a => .blob (r.store.blobAt a)
  | .node a => .node (r.store.nodeAt a)
  | .report a => .leaf (.str (r.store.reportFormat (r.store.reportAt a)))
  | .failure a => .leaf (.str (r.store.failureLine a))
  | .scope _ => .leaf .null
  | v => .leaf v

def parts (r : Runtime) (v : Value) : List Value := (r.shape v).parts

/-- What converting a value comes to. -/
def Converts (r : Runtime) : Value → Value → Prop := Relation.ReflTransGen (HasPart r.parts)

end Runtime

/-! The shape of a value is the same in every runtime that extends its own. -/

namespace Store

variable {s other : Store}

theorem Alike.reportAt {link : Link} (alike : s.Alike link other) {a b : Address}
    (linked : link .report a b) : (s.reportAt a).Alike link (other.reportAt b) := by
  have held : Object.Alike link (.report (s.reportAt a)) (.report (other.reportAt b)) :=
    alike.objects _ _ _ linked
  cases held with
  | report alike => exact alike

theorem Alike.nodeAt {link : Link} (alike : s.Alike link other) {a b : Address}
    (linked : link .node a b) : (s.nodeAt a).Alike link (other.nodeAt b) := by
  have held : Object.Alike link (.node (s.nodeAt a)) (.node (other.nodeAt b)) :=
    alike.objects _ _ _ linked
  cases held with
  | node alike => exact alike

theorem Alike.failureLine {link : Link} (alike : s.Alike link other) {a b : Address}
    (linked : link .failure a b) : other.failureLine b = s.failureLine a := by
  unfold Store.failureLine
  rw [(alike.failureAt linked).fault]

theorem Alike.reportFormat {link : Link} (alike : s.Alike link other) {report otherReport : Report}
    (same : report.Alike link otherReport) :
    other.reportFormat otherReport = s.reportFormat report := by
  obtain ⟨message,failure,trail,-,block⟩ := same
  have frames : (otherReport.trail.map other.trailAt).getD [] =
      (report.trail.map s.trailAt).getD [] := by
    revert trail
    generalize report.trail = x
    generalize otherReport.trail = y
    intro trail
    cases trail with
    | none => rfl
    | some linked => exact alike.trailAt linked
  unfold Store.reportFormat reportLines
  rw [frames,message,block]
  revert failure
  generalize report.failure = x
  generalize otherReport.failure = y
  intro failure
  cases failure with
  | none => rfl
  | @some a b linked =>
    have cause := (alike.failureAt linked).cause
    revert cause
    dsimp only
    rw [alike.failureLine linked]
    generalize (s.failureAt a).cause = x
    generalize (other.failureAt b).cause = y
    intro cause
    cases cause with
    | none => rfl
    | some linked => rw [Option.map_some,Option.map_some,alike.failureLine linked]

theorem Alike.squashedContext {link : Link} (alike : s.Alike link other) {a b : Address}
    (linked : link .scope a b) :
    Dict.Alike link (s.squashedContext a) (other.squashedContext b) :=
  List.rel_foldl (P := Dict.Alike link) (R := link .scope)
    (fun _ _ merged _ _ linked => Dict.update_alike alike.paired merged
      (alike.dictAt (alike.scopeAt linked).specials))
    .nil (List.rel_reverse (alike.chain linked))

end Store

namespace Runtime

variable {r mid after : Runtime} {v w : Value}

theorem Extends.squashedContext (within : r.Extends mid) {scope : Address}
    (inside : scope < r.store.scopes.size) :
    mid.store.squashedContext scope = r.store.squashedContext scope := by
  have alike := (within.old.grew within.growth within.closed).store
  have chain := alike.chain ⟨rfl,inside⟩
  have same : r.store.chain scope = mid.store.chain scope :=
    List.forall₂_eq_eq_eq ▸ chain.imp fun _ _ linked => linked.1
  unfold Store.squashedContext
  rw [← same] at chain ⊢
  refine List.foldl_ext _ _ _ fun merged other member => ?_
  have linked := List.forall₂_same.mp chain other (List.mem_reverse.mp member)
  have scopeAt : mid.store.scopeAt other = r.store.scopeAt other :=
    Object.scope.inj (within.growth.store .scope other linked.2).2
  have specials := (within.old.store.scopeAt linked).specials.2
  rw [Store.specialsOf,Store.specialsOf,scopeAt,
    Object.entries.inj (within.growth.store .dict _ specials).2]

theorem Extends.shape (within : r.Extends mid) (present : v.Present r.store) :
    mid.shape v = r.shape v := by
  have alike := within.old.grew within.growth within.closed
  have same {shelf : Shelf} {a : Address} (linked : r.store.identity shelf a a) :=
    (within.growth.store shelf a linked.2).2
  cases present with
  | @ref a _ linked =>
    show Shape.ofReading mid.store (mid.readReference a) = Shape.ofReading r.store (r.readReference a)
    rw [within.reads_eq .read linked.2]
    cases reads : r.readReference a with
    | error fault => rfl
    | ok spot =>
      cases Looks.read.present within.old linked.2 reads with
      | bindings linked => exact congrArg Shape.entries (within.squashedContext linked.2)
      | value | items => rfl
  | @context a _ linked =>
    show Shape.entries (mid.store.squashedContext (mid.store.contextAt a)) = _
    rw [Object.context.inj (same linked),within.squashedContext (within.old.store.contextAt linked).2]
    rfl
  | dict linked => exact congrArg Shape.entries (Object.entries.inj (same linked))
  | frozen linked => exact congrArg Shape.entries (Object.entries.inj (same linked))
  | list linked => exact congrArg Shape.items (Object.items.inj (same linked))
  | tuple linked => exact congrArg Shape.items (Object.items.inj (same linked))
  | blob linked => exact congrArg Shape.blob (Object.blob.inj (same linked))
  | node linked => exact congrArg Shape.node (Object.node.inj (same linked))
  | failure linked =>
    exact congrArg (fun line => Shape.leaf (.str line)) (alike.store.failureLine linked)
  | report linked =>
    exact congrArg (fun text => Shape.leaf (.str text))
      (alike.store.reportFormat (alike.store.reportAt linked))
  | _ => rfl

theorem Closed.parts_present (closed : r.Closed) (present : v.Present r.store)
    (part : w ∈ r.parts v) : w.Present r.store := by
  have items {values : List Value} (alike : Values.Alike r.store.identity values values)
      (member : w ∈ values) : w.Present r.store := List.forall₂_same.mp alike w member
  have entries {d : Dict} (alike : d.Alike r.store.identity d) (member : w ∈ Dict.values d) :
      w.Present r.store := by
    obtain ⟨slot,held,rfl⟩ := List.mem_map.mp member
    exact (List.forall₂_same.mp alike slot held).value
  have alike := closed.store
  cases present with
  | @ref a _ linked =>
    have part : w ∈ (Shape.ofReading r.store (r.readReference a)).parts := part
    cases reads : r.readReference a with
    | error fault => rw [reads] at part; cases part
    | ok spot =>
      rw [reads] at part
      cases Looks.read.present closed linked.2 reads with
      | value present =>
        obtain rfl := List.mem_singleton.mp part
        exact present
      | bindings linked => exact entries (alike.squashedContext linked) part
      | items alike => exact items alike part
  | context linked => exact entries (alike.squashedContext (alike.contextAt linked)) part
  | dict linked => exact entries (alike.dictAt linked) part
  | frozen linked => exact entries (alike.frozenAt linked) part
  | list linked => exact items (alike.listAt linked) part
  | tuple linked => exact items (alike.tupleAt linked) part
  | node linked =>
    obtain ⟨child,member,rfl⟩ := List.mem_map.mp part
    exact .node (List.forall₂_same.mp (alike.nodeAt linked).children child member)
  | _ => cases part

theorem Closed.converts_present (closed : r.Closed) (present : v.Present r.store)
    (reached : r.Converts v w) : w.Present r.store := by
  induction reached with
  | refl => exact present
  | tail _ part ih => exact closed.parts_present ih part

end Runtime

end PageRuntime
