import PageRuntime.Proofs.UnseenContext

/-! Steps that are unaware of how scopes are linked. Such a step ends alike once the scopes are relinked, and
leaves what it would have left. Reading at a path, writing there and deleting are, as long as nothing that
they meet shows the context: the containers that a write makes and fills show nothing of it either. -/
namespace PageRuntime
open PageRuntime.Runtime (Blind Visits)

namespace Act

variable {α β : Type} {t : Table Scope} {met : Visits} {keeps : Prop} {r : Runtime}

/-- With the scopes relinked the step ends alike and leaves the same but for the scopes. -/
def Parallel (t : Table Scope) (r : Runtime) (act : Act α) : Prop :=
  act (r.withScopes t) = ((act r).1,(act r).2.withScopes t)

namespace Parallel

theorem bind {act : Act α} {next : α → Act β} (first : Parallel t r act)
    (later : ∀ x mid, act r = (.done x,mid) → Parallel t mid (next x)) :
    Parallel t r (act >>= next) := by
  unfold Parallel at first ⊢
  rw [Step.bind_run,Step.bind_run,first]
  cases began : act r with
  | mk ending mid =>
    cases ending with
    | done x => exact later x mid began
    | raised failure => rfl
    | exhausted => rfl

theorem read {next : Runtime → Act β} (same : next (r.withScopes t) = next r)
    (later : Parallel t r (next r)) : Parallel t r (Step.read >>= next) :=
  (congrFun same _).trans later

theorem store {next : Store → Act β} (same : next (r.store.withScopes t) = next r.store)
    (later : Parallel t r (next r.store)) : Parallel t r (Act.store >>= next) :=
  (congrFun same _).trans later

theorem ofExcept (result : Except Fault α) : Parallel t r (Act.ofExcept result) := by
  cases result <;> rfl

theorem look {reads : Runtime → Except Fault α} (same : reads (r.withScopes t) = reads r) :
    Parallel t r (Step.read >>= fun r => Act.ofExcept (reads r)) := read (by rw [same]) (ofExcept _)

theorem make {change : Store → α × Store}
    (same : change (r.store.withScopes t) = ((change r.store).1,(change r.store).2.withScopes t)) :
    Parallel t r (Act.make change) := by
  unfold Parallel
  rw [Act.make_run,show change (r.withScopes t).store = _ from same]
  rfl

theorem update {change : Store → Store}
    (same : change (r.store.withScopes t) = (change r.store).withScopes t) :
    Parallel t r (Act.update change) := by
  unfold Parallel
  rw [Act.update_run,show change (r.withScopes t).store = _ from same]
  rfl

end Parallel

/-- The step is not affected by relinking the scopes. If it ends with a value, and if `keeps` holds, nothing
that is met shows the context then. -/
structure Unaware (t : Table Scope) (met : Visits) (keeps : Prop) (has : Runtime → α → Prop)
    (r : Runtime) (act : Act α) : Prop where
  parallel : Parallel t r act
  stays : ∀ x after, act r = (.done x,after) → keeps → Blind t met after ∧ has after x

/-- An unaware step that ends without a value. -/
abbrev Oblivious (t : Table Scope) (met : Visits) (keeps : Prop) (r : Runtime) (act : Act Unit) : Prop :=
  Unaware t met keeps (fun _ _ => True) r act

namespace Unaware

variable {has : Runtime → α → Prop} {hasNext : Runtime → β → Prop}

theorem pure (blind : Blind t met r) {x : α} (here : has r x) :
    Unaware t met keeps has r (Pure.pure x) := by
  refine ⟨rfl,?_⟩
  rintro _ _ ⟨⟩ _
  exact ⟨blind,here⟩

theorem done (blind : Blind t met r) : Oblivious t met keeps r (Pure.pure ()) := pure blind trivial

theorem fail (fault : Fault) : Unaware t met keeps has r (Act.fail fault) := by
  refine ⟨rfl,?_⟩
  intro x after ran
  rw [Act.fail_run] at ran
  cases ran

theorem bind {act : Act α} {next : α → Act β} (first : Unaware t met True has r act)
    (later : ∀ mid x, Blind t met mid → has mid x → Unaware t met keeps hasNext mid (next x)) :
    Unaware t met keeps hasNext r (act >>= next) where
  parallel := first.parallel.bind fun x mid ran =>
    have ⟨blind,here⟩ := first.stays x mid ran trivial
    (later mid x blind here).parallel
  stays y after ran := by
    obtain ⟨x,mid,began,onwards⟩ := Step.done_of_bind ran
    obtain ⟨blind,here⟩ := first.stays x mid began trivial
    exact (later mid x blind here).stays y after onwards

theorem read {next : Runtime → Act β} (same : next (r.withScopes t) = next r)
    (later : Unaware t met keeps hasNext r (next r)) :
    Unaware t met keeps hasNext r (Step.read >>= next) := ⟨.read same later.parallel,later.stays⟩

theorem store {next : Store → Act β} (same : next (r.store.withScopes t) = next r.store)
    (later : Unaware t met keeps hasNext r (next r.store)) :
    Unaware t met keeps hasNext r (Act.store >>= next) := ⟨.store same later.parallel,later.stays⟩

theorem ofExcept (blind : Blind t met r) {result : Except Fault α}
    (yields : ∀ x, result = .ok x → has r x) : Unaware t met keeps has r (Act.ofExcept result) := by
  cases result with
  | ok x => exact pure blind (yields x rfl)
  | error fault => exact fail fault

theorem look (blind : Blind t met r) {reads : Runtime → Except Fault α}
    (same : reads (r.withScopes t) = reads r) (yields : ∀ x, reads r = .ok x → has r x) :
    Unaware t met keeps has r (Step.read >>= fun r => Act.ofExcept (reads r)) :=
  read (by rw [same]) (ofExcept blind yields)

theorem make {change : Store → α × Store}
    (same : change (r.store.withScopes t) = ((change r.store).1,(change r.store).2.withScopes t))
    (kept : keeps → Blind t met { r with store := (change r.store).2 } ∧
      has { r with store := (change r.store).2 } (change r.store).1) :
    Unaware t met keeps has r (Act.make change) := by
  refine ⟨.make same,?_⟩
  rintro _ _ ⟨⟩
  exact kept

theorem update {change : Store → Store}
    (same : change (r.store.withScopes t) = (change r.store).withScopes t)
    (kept : keeps → Blind t met { r with store := change r.store }) :
    Oblivious t met keeps r (Act.update change) := by
  refine ⟨.update same,?_⟩
  rintro _ _ ⟨⟩ holds
  exact ⟨kept holds,trivial⟩

end Unaware
end Act

namespace Reference
open PageRuntime.Act (Unaware Oblivious)

variable {t : Table Scope} {met : Visits} {keeps : Prop} {r : Runtime} (blind : Blind t met r)

section Reading
include blind

theorem emptyFor_unaware (key : Segment) :
    Unaware t met True (fun _ made => ∀ rest, met (.value made) rest) r (emptyFor key) := by
  cases key with
  | index place =>
    show Unaware t met True _ r (Act.make (·.newList []))
    exact .make rfl fun _ => ⟨blind.newList,fun rest => blind.lists _ rest (Nat.le_refl _)⟩
  | field name =>
    show Unaware t met True _ r (Act.make (·.newDict []))
    exact .make rfl fun _ => ⟨blind.newDict,fun rest => blind.dicts _ rest (Nat.le_refl _)⟩

theorem root_unaware {scope : Address} {path : Path} (plain : path.root.isContextual = false)
    {rest : List Segment} (meets : ∀ start, r.rootSpot scope path.root = .ok start → met start rest) :
    Unaware t met True (fun _ start => met start rest) r (root scope path) :=
  .look blind (Runtime.rootSpot_withScopes blind.relinks plain scope) meets

theorem settle_unaware {spot : Spot} {rest : List Segment} (here : met spot rest) :
    Unaware t met True (fun _ found => met found rest) r (settle spot) := by
  obtain ⟨same,meets⟩ := Runtime.Follows.follow
    (blind.toFollows.resolve (blind.secluded.echoes blind.relinks)) here
  exact .look blind same meets

theorem step_unaware {spot : Spot} {key : Segment} {rest : List Segment} (here : met spot (key :: rest)) :
    Unaware t met True (fun _ next => met (.value next) rest) r (step spot key) := by
  have echoes := blind.secluded.echoes blind.relinks
  obtain ⟨same,meets⟩ := Runtime.Follows.step (blind.toFollows.resolve echoes) blind.toFollows echoes here
  exact .look blind same meets

theorem readWithin_same (fuel : Nat) {a : Address} {rest : List Segment} (here : met (.value (.ref a)) rest) :
    (r.withScopes t).readWithin fuel a = r.readWithin fuel a ∧
      ∀ spot, r.readWithin fuel a = .ok spot → met spot rest := by
  have resolves := blind.toFollows.resolve (blind.secluded.echoes blind.relinks)
  induction fuel generalizing a with
  | zero => exact ⟨rfl,fun _ ran => by cases ran⟩
  | succ fuel ih =>
    unfold Runtime.readWithin
    rw [show (r.withScopes t).store.handleAt a = r.store.handleAt a from rfl]
    cases handle : r.store.handleAt a with
    | cell v label => exact ⟨rfl,fun spot ran => Except.ok.inj ran ▸ blind.cell here handle⟩
    | locked inner => exact ih (blind.locked here handle)
    | path scope path locked => exact resolves a rest here
    | sub parent key => exact resolves a rest here

theorem read_unaware {a : Address} {rest : List Segment} (here : met (.value (.ref a)) rest) :
    Unaware t met True (fun _ found => met found rest) r (read a) := by
  obtain ⟨same,meets⟩ := readWithin_same blind (r.store.handles.size + 1) here
  exact .look blind same meets

omit blind in
theorem isLocked_parallel (path : Path) (locked : Bool) : Act.Parallel t r (isLocked path locked) := by
  unfold isLocked
  split
  · rfl
  · split
    · rfl
    · refine .read rfl ?_
      split <;> rfl

/-- Whether a path is locked is told without a change. -/
theorem isLocked_unaware (path : Path) (locked : Bool) :
    Unaware t met True (fun mid _ => mid = r) r (isLocked path locked) := by
  refine ⟨isLocked_parallel path locked,fun shut mid told _ => ?_⟩
  obtain rfl := isLocked_still told
  exact ⟨blind,rfl⟩

theorem debugLine_unaware (text : String) : Oblivious t met keeps r (debugLine text) := by
  refine .read rfl ?_
  split
  · refine ⟨rfl,?_⟩
    rintro _ _ ⟨⟩ _
    exact ⟨blind.record _,trivial⟩
  · exact .done blind

end Reading

section Writing

variable {write : Address → Value → Act Unit}

/-- Writing through the handles that are met, of whatever value. -/
def Blindly (t : Table Scope) (write : Address → Value → Act Unit) : Prop :=
  ∀ (met : Visits) (keeps : Prop) (r : Runtime) (a : Address) (v : Value) (rest : List Segment),
    Blind t met r → met (.value (.ref a)) rest → (keeps → ∀ left, met (.value v) left) →
      Oblivious t met keeps r (write a v)

variable (blindly : Blindly t write) {v : Value} (held : keeps → ∀ left, met (.value v) left)
include blind blindly held

theorem putEntry_unaware {a : Address} {key : Segment} {rest : List Segment}
    (here : met (.value (.dict a)) (key :: rest)) :
    Oblivious t met keeps r (putEntry write a key v) := by
  refine .store rfl ?_
  have found : met (.value ((r.store.dictAt a).get key.key)) rest := blind.member here
  have enters : Oblivious t met keeps r
      (Act.update (·.putDict a ((r.store.dictAt a).insert key.key key.value v))) :=
    .update rfl fun kept => blind.putDict (held kept) a key.key key.value
  revert found
  generalize (r.store.dictAt a).get key.key = entry
  intro found
  cases entry with
  | ref existing => exact blindly met keeps r existing v rest blind found held
  | _ => exact enters

theorem putItem_unaware {items : List Value} {store : List Value → Act Unit} {key : Segment}
    {rest : List Segment} (found : met (.value (itemAt items key)) rest)
    (stores : ∀ xs, (∀ w ∈ xs, w = .null ∨ w = v ∨ w ∈ items) → Oblivious t met keeps r (store xs)) :
    Oblivious t met keeps r (putItem write items store key v) := by
  cases key with
  | field name => exact .fail _
  | index place =>
    unfold putItem
    dsimp only
    have found : met (.value (Value.ofOption ((placeOf? items.length place).bind (items[·]?)))) rest := found
    cases placed : placeOf? items.length place with
    | none =>
      dsimp only
      split
      · exact .done blind
      · refine stores _ fun w member => ?_
        rw [extended,List.mem_append,List.mem_append,List.mem_singleton,List.mem_replicate] at member
        tauto
    | some n =>
      rw [placed,Option.bind_some] at found
      have stored : Oblivious t met keeps r (store (items.set n v)) :=
        stores _ fun w member => .inr (List.mem_or_eq_of_mem_set member).symm
      dsimp only
      revert found
      generalize items[n]? = item
      intro found
      cases item with
      | none => exact stored
      | some item =>
        cases item with
        | ref existing => exact blindly met keeps r existing v rest blind found held
        | _ => exact stored

theorem putInto_unaware {container : Spot} {key : Segment} {rest : List Segment}
    (here : met container (key :: rest)) : Oblivious t met keeps r (putInto write container key v) := by
  have found := blind.member here
  obtain ⟨unbound,unviewed⟩ := blind.secluded.unshown here
  refine .store rfl ?_
  cases container with
  | bindings scope => exact absurd rfl (unbound scope)
  | items values => exact putItem_unaware blind blindly held found fun _ _ => .done blind
  | value container =>
    cases container with
    | context a => exact absurd rfl (unviewed a)
    | dict a => exact putEntry_unaware blind blindly held here
    | list a =>
      refine putItem_unaware blind blindly held found fun xs all => .update rfl fun kept => ?_
      refine blind.putList a fun w member => ?_
      obtain rfl | rfl | old := all w member
      · exact .inl blind.null
      · exact .inl (held kept)
      · exact .inr old
    | tuple a => exact .done blind
    | frozen a => exact .done blind
    | fset a => exact .done blind
    | _ => exact .fail _

omit held in
theorem opened_unaware {a : Address} {key : Segment} {rest : List Segment}
    (here : met (.value (.ref a)) (key :: rest)) {reading : Act Spot}
    (reads : ∀ mid, Blind t met mid →
      Unaware t met True (fun _ found => met found (key :: rest)) mid reading) :
    Unaware t met True (fun _ found => met found (key :: rest)) r (opened write a reading key) := by
  refine .bind (reads r blind) fun mid found blind there => ?_
  split
  · refine .bind (emptyFor_unaware blind key) fun last made blind all => ?_
    refine .bind (blindly met True last a made _ blind here fun _ => all) fun after _ blind _ => ?_
    exact reads after blind
  · exact .pure blind there

theorem put_unaware {container : Spot} {key : Segment} {rest : List Segment}
    (here : met container (key :: rest)) : Oblivious t met keeps r (put write container key v) := by
  by_cases behind : ∃ a, container = .value (.ref a)
  · obtain ⟨a,rfl⟩ := behind
    refine .bind (opened_unaware blind blindly here fun mid blind => settle_unaware blind here)
      fun mid target blind there => ?_
    split
    · exact .done blind
    · exact putInto_unaware blind blindly held there
  · rw [put_plain _ fun a same => behind ⟨a,same⟩]
    exact putInto_unaware blind blindly held here

theorem descend_unaware (rest : List Segment) {container : Spot} {key : Segment} {left : List Segment}
    (here : met container (key :: (rest ++ left))) :
    Oblivious t met keeps r (descend write container key rest v) := by
  -- the accessors after those of the write stay as they are
  induction rest generalizing r container key with
  | nil => exact put_unaware blind blindly held here
  | cons after rest ih =>
    refine .bind (step_unaware blind here) fun mid next blind there => ?_
    split
    · refine .bind (settle_unaware blind here) fun last settled blind _ => ?_
      split
      · exact .done blind
      · refine .bind (emptyFor_unaware blind after) fun s made blind all => ?_
        refine .bind (put_unaware blind blindly (fun _ : True => all) here) fun t _ blind _ => ?_
        exact ih blind (all _)
    · exact ih blind there

omit blindly in
theorem setRootValue_unaware (name : String) : Oblivious t met keeps r (setRootValue name v) := by
  refine ⟨rfl,?_⟩
  rintro _ _ ⟨⟩ kept
  exact ⟨blind.setRoot (held kept) name,trivial⟩

theorem setRootPath_unaware {path : Path} {rest : List Segment}
    (meets : ∀ name w, path.root.kind.dataRoot? = some name → r.rootValue? name = some w →
      met (.value w) rest) : Oblivious t met keeps r (setRootPath write path v) := by
  unfold setRootPath
  split
  · exact .fail _
  · next name kind =>
    refine .read rfl ?_
    have sets := setRootValue_unaware blind held name
    cases root : r.rootValue? name with
    | none => exact sets
    | some w =>
      cases w with
      | ref existing => exact blindly met keeps r existing v rest blind (meets name _ kind root) held
      | _ => exact sets

theorem setBelowRoot_unaware {scope : Address} {path : Path} (plain : path.root.isContextual = false)
    {key : Segment} {rest left : List Segment}
    (meets : ∀ start, r.rootSpot scope path.root = .ok start → met start (key :: (rest ++ left))) :
    Oblivious t met keeps r (setBelowRoot write scope path key rest v) := by
  refine .bind (root_unaware blind plain meets) fun mid start blind here => ?_
  split
  · split
    · exact .fail _
    · next name _ =>
      refine .bind (emptyFor_unaware blind key) fun last made blind all => ?_
      refine .bind (setRootValue_unaware blind (fun _ : True => all) name) fun after _ blind _ => ?_
      exact descend_unaware blind blindly held rest (all (key :: (rest ++ left)))
  · exact descend_unaware blind blindly held rest here

theorem setPathValue_unaware {scope : Address} {path : Path} (locked : Bool)
    (plain : path.root.isContextual = false) {left : List Segment}
    (meets : ∀ start, r.rootSpot scope path.root = .ok start → met start (path.segments ++ left))
    (holds : ∀ name w, path.root.kind.dataRoot? = some name → r.rootValue? name = some w →
      met (.value w) (path.segments ++ left)) :
    Oblivious t met keeps r (setPathValue write scope path locked v) := by
  refine .bind (isLocked_unaware blind path locked) fun mid shut blind same => ?_
  subst same
  split
  · exact debugLine_unaware blind _
  · cases segments : path.segments with
    | nil => exact setRootPath_unaware blind blindly held holds
    | cons key rest =>
      rw [segments] at meets
      exact setBelowRoot_unaware blind blindly held plain meets

theorem setBelow_unaware {parent : Address} {key : Segment} {rest : List Segment}
    (here : met (.value (.ref parent)) (key :: rest)) :
    Oblivious t met keeps r (setBelow write parent key v) := by
  refine .bind (opened_unaware blind blindly here fun mid blind => read_unaware blind here)
    fun mid container blind there => ?_
  split
  · exact .done blind
  · exact put_unaware blind blindly held there

end Writing

theorem setWithin_blindly (fuel : Nat) : Blindly t (setWithin fuel) := by
  induction fuel with
  | zero => exact fun _ _ _ _ _ _ _ _ _ => .fail _
  | succ fuel ih =>
    intro met keeps r a v rest blind here held
    unfold setWithin
    refine .store rfl ?_
    cases handle : r.store.handleAt a with
    | path scope path locked =>
      exact setPathValue_unaware blind ih held locked (blind.secluded.roots _ _ _ _ _ here handle)
        (fun start => blind.path here handle) fun name w => blind.root here handle
    | sub parent key => exact setBelow_unaware blind ih held (blind.sub here handle)
    | locked inner => exact .done blind
    | cell w label => exact .update rfl fun kept => blind.putCell (held kept) a label

section Places

variable {scope : Address} {path : Path} (relinks : r.store.Relinks t)
  (plain : path.root.isContextual = false)
include relinks

theorem dropMember_parallel (container : Spot) (key : Segment) :
    Act.Parallel t r (dropMember container key) := by
  have erases (scope : Address) (key : Key) : Act.Parallel t r (Context.erase scope key) := by
    refine .update ?_
    dsimp only
    rw [relinks.specials]
    rfl
  refine .store rfl ?_
  cases container with
  | bindings scope => exact erases scope _
  | items values => rfl
  | value container =>
    cases container with
    | context a => exact erases _ _
    | dict a => exact .update rfl
    | list a =>
      cases key with
      | field name => rfl
      | index place =>
        dsimp only
        cases placeOf? (r.store.listAt a).length place with
        | none => rfl
        | some n => exact .update rfl
    | _ => rfl

include plain

theorem root_parallel : Act.Parallel t r (root scope path) :=
  .look (Runtime.rootSpot_withScopes relinks plain scope)

theorem deleteLast_parallel (last : Segment)
    (unseen : r.Unseen false scope path.root path.segments.dropLast) :
    Act.Parallel t r (deleteLast scope path last) := by
  refine .bind (root_parallel relinks plain) fun start mid found => ?_
  obtain ⟨rooted,rfl⟩ := Act.ofExcept_done found
  obtain ⟨same,follows⟩ := unseen.walk relinks rooted
  refine .read ?_ (.bind (.ofExcept _) fun container after walked => ?_)
  · rw [same]
  · obtain ⟨walked,rfl⟩ := Act.ofExcept_done walked
    refine .bind (.look (follows container walked)) fun settled last found => ?_
    obtain ⟨-,rfl⟩ := Act.ofExcept_done found
    exact dropMember_parallel relinks settled _

namespace Target

omit relinks plain in
theorem realize_parallel (spot : Spot) : Act.Parallel t r spot.realize := by
  cases spot <;> rfl

theorem get_parallel (unseen : r.Unseen false scope path.root path.segments) :
    Act.Parallel t r (place scope path).get := by
  have same : (r.withScopes t).readHandle (r.withScopes t).resolve (.path scope path false) =
      r.readHandle r.resolve (.path scope path false) := by
    unfold Runtime.readHandle
    dsimp only
    rw [Runtime.rootSpot_withScopes relinks plain scope]
    cases rooted : r.rootSpot scope path.root with
    | error fault => exact (rfl : Except.error fault = Except.error fault)
    | ok start =>
      obtain ⟨same,follows⟩ := unseen.walk relinks rooted
      show start.walk _ _ _ >>= _ = start.walk _ _ _ >>= _
      rw [same]
      cases walked : start.walk r.resolve r.store path.segments with
      | error fault => exact (rfl : Except.error fault = Except.error fault)
      | ok last => exact follows last walked
  refine .read ?_ (.bind (.ofExcept _) fun spot _ _ => realize_parallel spot)
  rw [same]

theorem delete_parallel (unseen : r.Unseen false scope path.root path.segments.dropLast) :
    Act.Parallel t r (place scope path).delete := by
  refine .bind (isLocked_parallel path false) fun shut mid told => ?_
  obtain rfl := isLocked_still told
  split
  · rfl
  · cases path.segments.getLast? with
    | none => rfl
    | some last => exact deleteLast_parallel relinks plain last unseen

omit plain in
theorem set_parallel (inner : path.root.kind = .localData) (v : Value)
    (unseen : r.Unseen true scope path.root path.segments) :
    Act.Parallel t r ((place scope path).set v) := by
  have plain : path.root.isContextual = false := by
    unfold Root.isContextual
    rw [inner]
  have blind := unseen.blind relinks
  have meets (start : Spot) (rooted : r.rootSpot scope path.root = .ok start) :
      r.Vacant start ∨ r.Comes true scope path.root path.segments start (path.segments ++ []) := by
    rw [List.append_nil]
    exact .inr (.start rooted)
  -- what is written may show the context, but nothing is read after it
  have writes : Oblivious t _ False r (setPathValue (setWithin (depth r.store)) scope path false v) :=
    setPathValue_unaware blind (setWithin_blindly _) False.elim false plain meets (by rw [inner]; exact nofun)
  exact .store rfl writes.parallel

end Target
end Places

end Reference
end PageRuntime
