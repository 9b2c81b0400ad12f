import PageRuntime.Proofs.LastContainer

/-! Routes to a location. A location below another one is named by the longer path, by accessors one
after another on a handle, or by a path through a place that holds a reference. All of them read and
remove the same. -/
namespace PageRuntime

/-- Accessors one after another on a handle of the path. -/
inductive Store.Chain (s : Store) (scope : Address) (path : Path) : List Segment → Address → Prop
  | path {a : Address} (here : s.handleAt a = .path scope path false) : Chain s scope path [] a
  | sub {keys : List Segment} {key : Segment} {parent a : Address}
      (above : Chain s scope path keys parent) (here : s.handleAt a = .sub parent key) :
      Chain s scope path (keys ++ [key]) a

theorem Path.below_nil (path : Path) : path.below [] = path :=
  congrArg (Path.mk path.root) (List.append_nil _)

theorem Path.below_below (path : Path) (keys rest : List Segment) :
    (path.below keys).below rest = path.below (keys ++ rest) :=
  congrArg (Path.mk path.root) (List.append_assoc ..)

namespace Runtime

variable {r : Runtime} {scope other a h : Address} {path p : Path}

/-- What a path leads to before a reference there is followed. -/
def walkPath (r : Runtime) (scope : Address) (path : Path) : Except Fault Spot := do
  (← r.rootSpot scope path.root).walk r.resolve r.store path.segments

theorem readPath_walk (r : Runtime) (scope : Address) (path : Path) :
    r.readPath scope path = r.walkPath scope path >>= (·.follow r.resolve) := by
  show (r.rootSpot scope path.root >>= fun start => _ >>= _) = (r.rootSpot scope path.root >>= _) >>= _
  cases r.rootSpot scope path.root <;> rfl

theorem readPath_settled {spot : Spot} (found : r.readPath scope path = .ok spot) :
    spot.follow r.resolve = .ok spot := by
  rw [readPath_walk] at found
  obtain ⟨last,-,followed⟩ := ok_of_bind found
  exact r.follow_settled followed

theorem readPath_below (path : Path) (keys : List Segment) :
    r.readPath scope (path.below keys) = r.readPath scope path >>= (r.reach · keys) := by
  show (r.rootSpot scope path.root >>= fun start => r.reach start (path.segments ++ keys)) =
    (r.rootSpot scope path.root >>= (r.reach · path.segments)) >>= (r.reach · keys)
  cases r.rootSpot scope path.root with
  | error fault => rfl
  | ok start => exact r.reach_append start path.segments keys

theorem resolve_path {locked : Bool} (here : r.store.handleAt a = .path scope path locked) :
    r.resolve a = r.readPath scope path := by
  rw [r.resolve_eq,here]
  rfl

/-- What is behind a chain of accessors is what the longer path leads to. -/
theorem resolve_chain {keys : List Segment} (chain : r.store.Chain scope path keys a) :
    r.resolve a = r.readPath scope (path.below keys) := by
  induction chain with
  | path here => rw [resolve_path here,Path.below_nil]
  | @sub keys key parent a above here ih =>
    rw [← Path.below_below,readPath_below,← ih,r.resolve_eq,here]
    show (r.resolve parent >>= fun container => _) = _
    cases resolved : r.resolve parent with
    | error fault => rfl
    | ok container =>
      exact (r.reach_singleton (r.resolve_settled resolved) key).symm

theorem readReference_chain {keys : List Segment} (chain : r.store.Chain scope path keys a) :
    r.readReference a = r.resolve a := by
  cases chain with
  | path here => exact readReference_plain (.inl ⟨scope,path,false,here⟩)
  | sub above here => exact readReference_plain (.inr ⟨_,_,here⟩)

/-- A path through a place that holds a reference leads on from what lies behind it. -/
theorem readPath_through (holds : r.walkPath other p = .ok (.value (.ref h)))
    (start : r.store.handleAt h = .path scope path false) (keys : List Segment) :
    r.readPath other (p.below keys) = r.readPath scope (path.below keys) := by
  rw [readPath_below,readPath_walk,holds,readPath_below,← resolve_path start]
  rfl

end Runtime

namespace Act

variable {α β γ : Type} {result : Except Fault α} {r : Runtime}

theorem ofExcept_error_bind (fault : Fault) (next : α → Act β) :
    ((ofExcept (.error fault) : Act α) >>= next) = (fail fault : Act β) := rfl

theorem ofExcept_bind_congr {one other : α → Act β}
    (same : ∀ x, result = .ok x → one x r = other x r) :
    (ofExcept result >>= one) r = (ofExcept result >>= other) r := by
  cases result with
  | error fault => rw [ofExcept_error_bind,ofExcept_error_bind]
  | ok x => exact same x rfl

/-- What is left of a reading may be done before what depends on it. -/
theorem ofExcept_bind_onward {next : α → Except Fault β} {one : α → Act γ} {other : β → Act γ}
    (same : ∀ x, result = .ok x → one x r = (ofExcept (next x) >>= other) r) :
    (ofExcept result >>= one) r = (ofExcept (result >>= next) >>= other) r := by
  cases result with
  | error fault =>
    show _ = (ofExcept (.error fault) >>= other) r
    rw [ofExcept_error_bind,ofExcept_error_bind]
  | ok x => exact same x rfl

end Act

namespace Reference

/-- A target that stands for the path seen from the scope. -/
inductive Target.On (s : Store) (scope : Address) (path : Path) : Target → Prop
  | place : On s scope path (.place scope path)
  | handle {a : Address} (here : s.handleAt a = .path scope path false) : On s scope path (.handle a)

/-- The ways to name the location that accessors lead to from a path. -/
inductive Route (r : Runtime) (scope : Address) (path : Path) (keys : List Segment) : Target → Prop
  | along {target : Target} (named : Target.On r.store scope (path.below keys) target) :
      Route r scope path keys target
  | chain {a : Address} (chain : r.store.Chain scope path keys a) : Route r scope path keys (.handle a)
  | through {h other : Address} {p : Path} {target : Target}
      (start : r.store.handleAt h = .path scope path false) (inside : other < r.store.scopes.size)
      (opened : Open r p) (holds : r.walkPath other p = .ok (.value (.ref h)))
      (named : Target.On r.store other (p.below keys) target) : Route r scope path keys target

variable {r : Runtime} {scope : Address} {path : Path}

theorem root_bind {α : Type} (scope : Address) (path : Path) (next : Spot → Act α) :
    (root scope path >>= next) r = (Act.ofExcept (r.rootSpot scope path.root) >>= next) r := by
  rw [root,Step.bind_assoc,Step.bind_done (Step.read_run r)]

theorem settle_bind {α : Type} (spot : Spot) (next : Spot → Act α) :
    (settle spot >>= next) r = (Act.ofExcept (spot.follow r.resolve) >>= next) r := by
  rw [settle,Step.bind_assoc,Step.bind_done (Step.read_run r)]

theorem read_bind {α : Type} (a : Address) (next : Spot → Act α) :
    (read a >>= next) r = (Act.ofExcept (r.readReference a) >>= next) r := by
  rw [read,Step.bind_assoc,Step.bind_done (Step.read_run r)]

theorem Open.below (opened : Open r path) (keys : List Segment) : Open r (path.below keys) := opened

theorem deleteLast_eq (last : Segment) : deleteLast scope path last r =
    (Act.ofExcept (r.rootSpot scope path.root >>= (r.reach · path.segments.dropLast)) >>=
      (dropMember · last)) r := by
  rw [deleteLast,root_bind]
  refine Act.ofExcept_bind_onward fun start _ => ?_
  rw [Step.bind_done (Step.read_run r)]
  exact Act.ofExcept_bind_onward fun container _ => settle_bind container _

/-- A removal takes the last accessor off what the path before it leads to. -/
theorem deletePath_below (opened : Open r path) (before : List Segment) (last : Segment) :
    deletePath scope (path.below (before ++ [last])) false r =
      (Act.ofExcept (r.readPath scope (path.below before)) >>= (dropMember · last)) r := by
  have segments : (path.below (before ++ [last])).segments = (path.below before).segments ++ [last] :=
    (List.append_assoc ..).symm
  rw [deletePath,Step.bind_done (opened.below _),if_neg Bool.false_ne_true]
  simp only [segments,List.getLast?_concat]
  rw [deleteLast_eq,segments,List.dropLast_concat]
  rfl

/-- Below a handle a removal takes the accessor off what the handle leads to. -/
theorem delete_sub {a parent : Address} {key : Segment} (here : r.store.handleAt a = .sub parent key)
    (reads : r.readReference parent = r.resolve parent) :
    delete a r = (Act.ofExcept (r.resolve parent) >>= (dropMember · key)) r := by
  rw [delete,Step.bind_done (Act.store_run r),here]
  dsimp only
  rw [read_bind,reads]
  refine Act.ofExcept_bind_congr fun container resolved => ?_
  rw [settle_bind,r.resolve_settled resolved,Act.ofExcept_ok_bind]

theorem Target.On.get_eq {target : Target} (named : Target.On r.store scope path target) :
    target.get r = (Act.ofExcept (r.readPath scope path) >>= (·.realize)) r := by
  cases named with
  | place => exact Step.bind_done (Step.read_run r)
  | handle here =>
    rw [Target.get,Reference.get,Step.bind_done (Step.read_run r),
      Runtime.readReference_plain (.inl ⟨scope,path,false,here⟩),Runtime.resolve_path here]

theorem Target.On.delete_eq {target : Target} (named : Target.On r.store scope path target) :
    target.delete r = deletePath scope path false r := by
  cases named with
  | place => rfl
  | handle here =>
    rw [Target.delete,Reference.delete,Step.bind_done (Act.store_run r),here]

namespace Route

variable {keys : List Segment} {target : Target}

/-- Every route reads what the path reads. -/
theorem get_eq (route : Route r scope path keys target) : target.get r =
    (Act.ofExcept (r.readPath scope (path.below keys)) >>= (·.realize)) r := by
  cases route with
  | along named => exact named.get_eq
  | chain chain =>
    rw [Target.get,Reference.get,Step.bind_done (Step.read_run r),Runtime.readReference_chain chain,
      Runtime.resolve_chain chain]
  | through start inside opened holds named =>
    rw [named.get_eq,Runtime.readPath_through holds start]

/-- Every route removes what the path removes. -/
theorem delete_eq {before : List Segment} {last : Segment}
    (route : Route r scope path (before ++ [last]) target) (opened : Open r path) : target.delete r =
      (Act.ofExcept (r.readPath scope (path.below before)) >>= (dropMember · last)) r := by
  generalize split : before ++ [last] = keys at route
  cases route with
  | along named =>
    rw [named.delete_eq,← split,deletePath_below opened]
  | chain chain =>
    cases chain with
    | path here => simp at split
    | sub above here =>
      obtain ⟨rfl,same⟩ := List.append_inj' split rfl
      obtain rfl := List.singleton_inj.mp same
      rw [Target.delete,delete_sub here (Runtime.readReference_chain above),Runtime.resolve_chain above]
  | through start inside shown holds named =>
    rw [named.delete_eq,← split,deletePath_below shown,Runtime.readPath_through holds start]

end Route
end Reference
end PageRuntime
