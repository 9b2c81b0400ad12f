import PageRuntime.Proofs.Routes

/-! Writing by different routes. Where the container is there, every route writes the same entry of it.
Where it is missing, the routes make the containers on the way in different orders, one after another from
the root or the last one first, and come to the same state up to what the containers are called. -/
namespace PageRuntime
namespace Reference

section Found

variable (write : Address → Value → Act Unit) {r : Runtime} {scope : Address} {path : Path}
  {container : Spot} {key : Segment}

theorem step_bind {α : Type} (spot : Spot) (key : Segment) (next : Value → Act α) :
    (step spot key >>= next) r = (Act.ofExcept (spot.step r.resolve r.store key) >>= next) r := by
  rw [step,Step.bind_assoc,Step.bind_done (Step.read_run r)]

theorem openedThen_there {reads : Runtime → Address → Except Fault Spot} {a : Address}
    (there : reads r a ≠ .ok .null) (next : Spot → Act Unit) :
    openedThen write reads a key next r = (Act.ofExcept (reads r a) >>= next) r := by
  cases found : reads r a with
  | error fault => rw [openedThen_error found,Act.ofExcept_error_bind]
  | ok spot =>
    rw [openedThen_found found fun same => there (same ▸ found),Act.ofExcept_ok_bind]

/-- What is written into a container that is there is written into what lies behind it. -/
theorem put_there (there : container.follow r.resolve ≠ .ok .null) (v : Value) :
    put write container key v r =
      (Act.ofExcept (container.follow r.resolve) >>= (putInto write · key v)) r := by
  by_cases behind : ∃ a, container = .value (.ref a)
  · obtain ⟨a,rfl⟩ := behind
    have looked : Runtime.resolve r a ≠ .ok .null := there
    exact openedThen_there write looked fun target => putInto write target key v
  · have plain (a : Address) : container ≠ .value (.ref a) := fun same => behind ⟨a,same⟩
    rw [put_plain write plain,Spot.follow_direct r.resolve plain,Act.ofExcept_ok_bind]

/-- A write goes along accessors that lead somewhere as a reading does. -/
theorem descend_walked (keys : List Segment)
    (there : container.walk r.resolve r.store keys ≠ .ok .null) {next : Segment} {rest : List Segment}
    (split : keys ++ [key] = next :: rest) (v : Value) : descend write container next rest v r =
      (Act.ofExcept (container.walk r.resolve r.store keys) >>= (put write · key v)) r := by
  induction keys generalizing container next rest with
  | nil =>
    cases split
    rfl
  | cons first keys ih =>
    obtain ⟨after,more,same⟩ : ∃ after more, keys ++ [key] = after :: more := by
      cases keys <;> exact ⟨_,_,rfl⟩
    rw [List.cons_append,same] at split
    obtain ⟨rfl,rfl⟩ := List.cons.inj split
    rw [descend,step_bind]
    rw [Spot.walk_cons] at there ⊢
    refine Act.ofExcept_bind_onward fun w stepped => ?_
    rw [stepped] at there
    have something : w ≠ .null := by
      rintro rfl
      exact there (Spot.walk_null r.resolve r.store keys)
    rw [if_neg something]
    exact ih there same

theorem setPathValue_walked (opened : Open r path) (there : r.walkPath scope path ≠ .ok .null) (v : Value) :
    setPathValue write scope (path.below [key]) false v r =
      (Act.ofExcept (r.walkPath scope path) >>= (put write · key v)) r := by
  obtain ⟨next,rest,split⟩ : ∃ next rest, path.segments ++ [key] = next :: rest := by
    cases path.segments <;> exact ⟨_,_,rfl⟩
  have segments : (path.below [key]).segments = next :: rest := split
  rw [setPathValue_below (opened.below _) segments,setBelowRoot,root_bind]
  unfold Runtime.walkPath at there ⊢
  refine Act.ofExcept_bind_onward fun start found => ?_
  rw [show r.rootSpot scope path.root = .ok start from found] at there
  have something : start ≠ .null := by
    rintro rfl
    exact there (Spot.walk_null r.resolve r.store path.segments)
  rw [if_neg something]
  exact descend_walked write path.segments there split v

/-- A write below a location that is there writes one entry of it. -/
theorem setPathValue_there (opened : Open r path) (there : r.readPath scope path ≠ .ok .null) (v : Value) :
    setPathValue write scope (path.below [key]) false v r =
      (Act.ofExcept (r.readPath scope path) >>= (putInto write · key v)) r := by
  rw [Runtime.readPath_walk] at there ⊢
  have walked : r.walkPath scope path ≠ .ok .null := by
    intro missing
    rw [missing] at there
    exact there rfl
  rw [setPathValue_walked write opened walked]
  refine Act.ofExcept_bind_onward fun spot found => ?_
  rw [found] at there
  exact put_there write there v

end Found
end Reference

namespace Runtime.Roomier

variable {r mid : Runtime} (roomier : r.Roomier mid) {scope : Address}
  (inside : scope < r.store.scopes.size) (path : Path)
include roomier inside

theorem walkPath : mid.walkPath scope path = r.walkPath scope path := by
  have alike := roomier.old.grew roomier.growth roomier.closed
  have agree := (alike.rootSpot ⟨rfl,inside⟩ path.root).bind fun _ _ start =>
    start.walk (fun _ _ => alike.resolve) alike.store path.segments
  exact (agree.eq fun _ _ same => same.eq r.store.identity_diagonal).symm

theorem readPath : mid.readPath scope path = r.readPath scope path := by
  have alike := roomier.old.grew roomier.growth roomier.closed
  have agree := alike.readHandle (fun _ _ => alike.resolve) (.path ⟨rfl,inside⟩ path false)
  exact (agree.eq fun _ _ same => same.eq r.store.identity_diagonal).symm

end Runtime.Roomier

namespace Reference
open PageRuntime.Runtime (Concur)

section Missing

variable {r mid : Runtime} (closed : r.Closed) (steadfast : r.Steadfast) (acyclic : r.Acyclic)
  (roomier : r.Roomier mid) {fuel : Nat} (enough : depth r.store ≤ fuel) {v : Value}
  (present : v.Present mid.store) {key : Segment}

include roomier present in
/-- Containers that are filled last may be stored by different routes. -/
theorem filledLast_concurs {place otherPlace : Value → Act Unit}
    (concurs : ∀ made start, mid.Furnished key made start →
      start.Concur (place made start) (otherPlace made start)) :
    mid.Concur (filledLast (setWithin fuel) key v place mid)
      (filledLast (setWithin fuel) key v otherPlace mid) := by
  obtain ⟨made,start,makes,furnished⟩ := emptyFor_made roomier.closed key
  rw [filledLast,filledLast,Step.bind_done makes,Step.bind_done makes]
  refine Concur.earlier furnished.growth.store.identity (.bind (concurs made start furnished)
    fun link after otherAfter _ _ le twin => .of_matches le ?_)
  have held := present.grew furnished.growth.store
  exact (put_ensues (setWithin_writes fuel) twin (fun _ : True => Value.Alike.mono le held)
    (.value (Value.Alike.mono le furnished.blank.present)) key).matched trivial

include closed steadfast acyclic roomier enough present

/-- A write may enter one handle more than it needs to. -/
theorem setWithin_more {a : Address} (inside : a < r.store.handles.size) :
    setWithin fuel a v mid = setWithin (fuel + 1) a v mid := by
  have size : r.store.handles.size + 1 ≤ depth r.store := by unfold depth; omega
  exact (interchange closed steadfast _ size (Nat.le_trans size enough)
    (Nat.le_trans size (Nat.le_succ_of_le enough))).same a (acyclic.nestsWithin a) inside mid v roomier
      present

theorem setWithin_path {a scope : Address} {path : Path}
    (here : r.store.handleAt a = .path scope path false) :
    setWithin fuel a v mid = setPathValue (setWithin fuel) scope path false v mid := by
  have inside := Runtime.handle_inside here nofun
  rw [setWithin_more closed steadfast acyclic roomier enough present inside,setWithin,
    Step.bind_done (Act.store_run mid),roomier.growth.handleAt inside,here]

theorem setWithin_sub {a parent : Address} (here : r.store.handleAt a = .sub parent key) :
    setWithin fuel a v mid = setBelow (setWithin fuel) parent key v mid := by
  have inside := Runtime.handle_inside here nofun
  rw [setWithin_more closed steadfast acyclic roomier enough present inside,setWithin,
    Step.bind_done (Act.store_run mid),roomier.growth.handleAt inside,here]

omit closed steadfast acyclic enough in
/-- A write does the same twice. -/
theorem setPathValue_refl {scope : Address} (inside : scope < r.store.scopes.size) (path : Path) :
    mid.Concur (setPathValue (setWithin fuel) scope path false v mid)
      (setPathValue (setWithin fuel) scope path false v mid) :=
  .refl (fun _ _ _ => id) ((setPathValue_ensues (setWithin_writes fuel) roomier.closed.twin
    (fun _ : True => present) ⟨rfl,(roomier.growth.store .scope scope inside).1⟩ path false).matched trivial)

variable (replaceable : r.Replaceable) {scope : Address} (inside : scope < r.store.scopes.size)
  {path : Path} (opened : Open r path) (rooted : path.segments = [] → Rooted r scope path)
include replaceable inside opened rooted

/-- Accessors one after another on a handle are written as the longer path is. -/
theorem chain_concurs {a : Address} {keys : List Segment} (chain : r.store.Chain scope path keys a) :
    mid.Concur (setWithin fuel a v mid)
      (setPathValue (setWithin fuel) scope (path.below keys) false v mid) := by
  induction chain generalizing mid v with
  | path here =>
    rw [setWithin_path closed steadfast acyclic roomier enough present here,Path.below_nil]
    exact setPathValue_refl roomier present inside path
  | @sub keys key parent a above here ih =>
    have reads := (Runtime.readReference_chain above).trans (Runtime.resolve_chain above)
    have parentInside : parent < r.store.handles.size := by
      have held := closed.store.handleAt (a := a) (b := a) ⟨rfl,Runtime.handle_inside here nofun⟩
      rw [here] at held
      cases held with
      | sub linked => exact linked.2
    rw [setWithin_sub closed steadfast acyclic roomier enough present here,← Path.below_below]
    show mid.Concur (openedThen (setWithin fuel) Runtime.readReference parent key
      (put (setWithin fuel) · key v) mid) _
    by_cases missing : r.readPath scope (path.below keys) = .ok .null
    · refine (openedThen_concurs closed steadfast acyclic roomier enough present .read parentInside
        (reads.trans missing) fun made after _ => rfl).trans ?_
      refine (filledLast_concurs roomier present fun made start furnished =>
        ih (roomier.trans furnished.toRoomier) furnished.blank.present).trans (.symm ?_)
      exact setPathValue_concurs closed steadfast acyclic roomier enough present replaceable inside
        (opened.below keys) (fun none => rooted (List.append_eq_nil_iff.mp none).1) missing
    · have here : Runtime.readReference mid parent = mid.readPath scope (path.below keys) :=
        (roomier.reads_eq .read parentInside).trans (reads.trans (roomier.readPath inside _).symm)
      have there : mid.readPath scope (path.below keys) ≠ .ok .null := by
        rw [roomier.readPath inside]
        exact missing
      have same : openedThen (setWithin fuel) Runtime.readReference parent key
          (put (setWithin fuel) · key v) mid =
            setPathValue (setWithin fuel) scope ((path.below keys).below [key]) false v mid := by
        rw [openedThen_there _ (by rw [here]; exact there),here,
          setPathValue_there _ ((opened.roomier roomier).below keys) there]
        refine Act.ofExcept_bind_congr fun spot found => ?_
        have settled := Runtime.readPath_settled found
        have something : spot.follow mid.resolve ≠ .ok .null := by
          rw [settled,← found]
          exact there
        rw [put_there _ something,settled,Act.ofExcept_ok_bind]
      rw [same]
      exact setPathValue_refl roomier present inside _

/-- A path through a place that holds a reference is written as the path of the reference is. -/
theorem through_concurs {h other : Address} {p : Path}
    (start : r.store.handleAt h = .path scope path false) (otherInside : other < r.store.scopes.size)
    (shown : Open r p) (holds : r.walkPath other p = .ok (.value (.ref h))) {keys : List Segment}
    (further : keys ≠ []) : mid.Concur (setPathValue (setWithin fuel) other (p.below keys) false v mid)
      (setPathValue (setWithin fuel) scope (path.below keys) false v mid) := by
  induction keys using List.reverseRecOn generalizing mid v with
  | nil => exact absurd rfl further
  | append_singleton keys key ih =>
    have reads := Runtime.readPath_through holds start keys
    rw [← Path.below_below,← Path.below_below]
    by_cases missing : r.readPath scope (path.below keys) = .ok .null
    · refine .trans ?_ (.symm (setPathValue_concurs closed steadfast acyclic roomier enough present
        replaceable inside (opened.below keys) (fun none => rooted (List.append_eq_nil_iff.mp none).1)
          missing))
      by_cases first : keys = []
      · subst first
        rw [Path.below_nil,Path.below_nil]
        rw [Path.below_nil] at missing
        have walked : mid.walkPath other p = .ok (.value (.ref h)) :=
          (roomier.walkPath otherInside p).trans holds
        rw [setPathValue_walked _ (shown.roomier roomier) (by rw [walked]; nofun),walked,
          Act.ofExcept_ok_bind]
        have stores : filledLast (setWithin fuel) key v (setPathValue (setWithin fuel) scope path false) mid =
            filledLast (setWithin fuel) key v (setWithin fuel h) mid :=
          filledLast_congr fun made s makes =>
            (setWithin_path closed steadfast acyclic (roomier.making makes) enough
              (emptyFor_furnishes roomier.closed makes).blank.present start).symm
        rw [stores]
        exact openedThen_concurs closed steadfast acyclic roomier enough present .resolve
          (Runtime.handle_inside start nofun) ((Runtime.resolve_path start).trans missing)
            fun made after blank => (put_made _ blank).symm
      · refine (setPathValue_concurs closed steadfast acyclic roomier enough present replaceable otherInside
          (shown.below keys) (fun none => absurd (List.append_eq_nil_iff.mp none).2 first)
            (reads.trans missing)).trans ?_
        exact filledLast_concurs roomier present fun made start furnished =>
          ih (roomier.trans furnished.toRoomier) furnished.blank.present first
    · have there : mid.readPath scope (path.below keys) ≠ .ok .null := by
        rw [roomier.readPath inside]
        exact missing
      have otherReads : mid.readPath other (p.below keys) = mid.readPath scope (path.below keys) := by
        rw [roomier.readPath otherInside,roomier.readPath inside]
        exact reads
      rw [setPathValue_there _ ((shown.roomier roomier).below keys) (by rw [otherReads]; exact there),
        otherReads,← setPathValue_there _ ((opened.roomier roomier).below keys) there]
      exact setPathValue_refl roomier present inside _

end Missing

section Agree

variable {r : Runtime} (closed : r.Closed) (acyclic : r.Acyclic) (steadfast : r.Steadfast)
  (replaceable : r.Replaceable) {scope : Address} (inside : scope < r.store.scopes.size) {path : Path}
  (opened : Open r path) (rooted : path.segments = [] → Rooted r scope path) {keys : List Segment}
  (further : keys ≠ []) {v : Value} (present : v.Present r.store)
include closed acyclic steadfast present

theorem Target.On.set_eq {target : Target} (named : Target.On r.store scope path target) :
    target.set v r = setPathValue (setWithin (depth r.store)) scope path false v r := by
  cases named with
  | place => rw [Target.set,Step.bind_done (Act.store_run r)]
  | handle here =>
    rw [Target.set,Reference.set,Step.bind_done (Act.store_run r),
      setWithin_path closed steadfast acyclic closed.roomier (Nat.le_refl _) present here]

include replaceable inside opened rooted further

theorem Route.set_concurs {target : Target} (route : Route r scope path keys target) :
    r.Concur (target.set v r)
      (setPathValue (setWithin (depth r.store)) scope (path.below keys) false v r) := by
  cases route with
  | along named =>
    rw [named.set_eq closed acyclic steadfast present]
    exact setPathValue_refl closed.roomier present inside _
  | chain chain =>
    rw [Target.set,Reference.set,Step.bind_done (Act.store_run r)]
    exact chain_concurs closed steadfast acyclic closed.roomier (Nat.le_refl _) present replaceable inside
      opened rooted chain
  | through start otherInside shown holds named =>
    rw [named.set_eq closed acyclic steadfast present]
    exact through_concurs closed steadfast acyclic closed.roomier (Nat.le_refl _) present replaceable inside
      opened rooted start otherInside shown holds further

/-- All routes to a location read the same, remove the same, and write the same up to what the
containers made on the way are called. -/
theorem routes_agree {one other : Target} (first : Route r scope path keys one)
    (second : Route r scope path keys other) : one.get r = other.get r ∧
      one.delete r = other.delete r ∧ r.Concur (one.set v r) (other.set v r) := by
  refine ⟨first.get_eq.trans second.get_eq.symm,?_,?_⟩
  · obtain ⟨before,last,rfl⟩ := List.eq_nil_or_concat keys |>.resolve_left further
    rw [List.concat_eq_append] at first second
    exact (first.delete_eq opened).trans (second.delete_eq opened).symm
  · exact (first.set_concurs closed acyclic steadfast replaceable inside opened rooted further present).trans
      (.symm (second.set_concurs closed acyclic steadfast replaceable inside opened rooted further present))

end Agree

/-- A page whose state holds a reference to a location that is missing. There are accessors on it. -/
def unfilled : Runtime :=
  let rooted := (Scope.makeRoot Page.initial).2
  let first := { rooted with
    store := (rooted.store.newHandle (.path 0 ⟨⟨.state,0⟩,[.field "a"]⟩ false)).2 }
  let second := { first with store := (first.store.newHandle (.sub 0 (.field "b"))).2 }
  let third := { second with store := (second.store.newHandle (.sub 1 (.field "c"))).2 }
  { third with store := (third.store.newDict [⟨.text "p",.str "p",.ref 0⟩]).2 }.setRoot "state" (.dict 3)

theorem unfilled_closed : unfilled.Closed := by
  have rooted := Runtime.Closed.initial.makeRoot
  have first := rooted.newHandle (.path ⟨rfl,Nat.zero_lt_one⟩ ⟨⟨.state,0⟩,[.field "a"]⟩ false)
  have second := first.newHandle (.sub (a := 0) (b := 0) ⟨rfl,Nat.zero_lt_one⟩ (.field "b"))
  have third := second.newHandle (.sub (a := 1) (b := 1) ⟨rfl,Nat.one_lt_two⟩ (.field "c"))
  have held := third.newDict (d := [⟨.text "p",.str "p",.ref 0⟩])
    (.cons ⟨Key.text_alike _ "p",.str "p",.ref ⟨rfl,Nat.zero_lt_succ 2⟩⟩ .nil)
  exact held.setRoot "state" (.dict ⟨rfl,Nat.lt_succ_self 3⟩)

/-- What is put where one of the handles leads is found there. -/
theorem unfilled_steadfast : unfilled.Steadfast := by
  intro reads looks a inside missing key made mid after makes ran
  have few : a = 0 ∨ a = 1 ∨ a = 2 := by
    have inside : a < 3 := inside
    omega
  obtain rfl : after = (Reference.set a made mid).2 := (congrArg Prod.snd ran).symm
  refine .inl ?_
  cases key with
  | index place =>
    have list : emptyFor (.index place) unfilled =
      (.done (.list 0),{ unfilled with store := (unfilled.store.newList []).2 }) := rfl
    cases list.symm.trans makes
    obtain rfl | rfl | rfl := few <;> cases looks <;> decide +kernel
  | field name =>
    have dict : emptyFor (.field name) unfilled =
      (.done (.dict 4),{ unfilled with store := (unfilled.store.newDict []).2 }) := rfl
    cases dict.symm.trans makes
    obtain rfl | rfl | rfl := few <;> cases looks <;> decide +kernel

theorem unfilled_replaceable : unfilled.Replaceable := by
  intro container key a fixed held
  unfold isFixed at fixed
  split at fixed
  · next b =>
    have held : itemAt (unfilled.store.tupleAt b) key = .ref a := held
    rw [show unfilled.store.tupleAt b = [] from rfl] at held
    cases key <;> simp [itemAt,Value.ofOption] at held
  · next b =>
    have held : (unfilled.store.frozenAt b).get key.key = .ref a := held
    rw [show unfilled.store.frozenAt b = [] from rfl] at held
    cases held
  · cases held
  · cases fixed

/-- The location `$state.a` of that page. -/
def vacant : Path := ⟨⟨.state,0⟩,[.field "a"]⟩

def holder : Path := ⟨⟨.state,0⟩,[.field "p"]⟩

/-- A missing location below a missing one is filled alike along the path, by accessors and through the
reference. -/
theorem routes_agree_unfilled :
    let keys := [.field "b",.field "c"]
    let along := Target.place 0 (vacant.below keys)
    let through := Target.place 0 (holder.below keys)
    unfilled.readPath 0 vacant = .ok .null ∧
      (∃ after, along.set (.int 1) unfilled = (.done (),after)) ∧
      unfilled.Concur (along.set (.int 1) unfilled) (Target.set (.handle 2) (.int 1) unfilled) ∧
      unfilled.Concur (along.set (.int 1) unfilled) (through.set (.int 1) unfilled) := by
  intro keys along through
  have acyclic : unfilled.Acyclic := .of_older (by decide +kernel)
  have here : unfilled.store.handleAt 0 = .path 0 vacant false := rfl
  have opened (path : Path) (kind : path.root.kind = .state) : Open unfilled path := by
    rw [Open,isLocked,kind]
    rfl
  have chain : Route unfilled 0 vacant keys (.handle 2) := .chain (.sub (.sub (.path here) rfl) rfl)
  have held : Route unfilled 0 vacant keys through :=
    .through here Nat.zero_lt_one (opened holder rfl) rfl .place
  have agree {other : Target} (route : Route unfilled 0 vacant keys other) :=
    routes_agree unfilled_closed acyclic unfilled_steadfast unfilled_replaceable Nat.zero_lt_one
      (opened vacant rfl) (fun none => absurd none (List.cons_ne_nil _ _)) (List.cons_ne_nil _ _) (.int 1)
        (.along .place) route
  exact ⟨rfl,Step.ended (show (along.set (.int 1) unfilled).1 = .done () by decide +kernel),
    (agree chain).2.2,(agree held).2.2⟩

/-- A page whose state holds a list that begins with a reference to the place after its last. There is an
accessor on the place that is last but one. -/
def backward : Runtime :=
  let rooted := (Scope.makeRoot Page.initial).2
  let first := { rooted with
    store := (rooted.store.newHandle (.path 0 ⟨⟨.state,0⟩,[.field "l",.index 2]⟩ false)).2 }
  let second := { first with
    store := (first.store.newHandle (.path 0 ⟨⟨.state,0⟩,[.field "l",.index (-2)]⟩ false)).2 }
  let third := { second with store := (second.store.newHandle (.sub 1 (.field "z"))).2 }
  let listed := { third with store := (third.store.newList [.ref 0,.int 5]).2 }
  { listed with store := (listed.store.newDict [⟨.text "l",.str "l",.list 0⟩]).2 }.setRoot "state" (.dict 3)

theorem backward_closed : backward.Closed := by
  have rooted := Runtime.Closed.initial.makeRoot
  have first := rooted.newHandle (.path ⟨rfl,Nat.zero_lt_one⟩ ⟨⟨.state,0⟩,[.field "l",.index 2]⟩ false)
  have second := first.newHandle (.path ⟨rfl,Nat.zero_lt_one⟩ ⟨⟨.state,0⟩,[.field "l",.index (-2)]⟩ false)
  have third := second.newHandle (.sub (a := 1) (b := 1) ⟨rfl,Nat.one_lt_two⟩ (.field "z"))
  have listed := third.newList (.cons (.ref (a := 0) (b := 0) ⟨rfl,Nat.zero_lt_succ 2⟩) (.cons (.int 5) .nil))
  have held := listed.newDict (d := [⟨.text "l",.str "l",.list 0⟩])
    (.cons ⟨Key.text_alike _ "l",.str "l",.list ⟨rfl,Nat.zero_lt_one⟩⟩ .nil)
  exact held.setRoot "state" (.dict ⟨rfl,Nat.lt_succ_self 3⟩)

def lastButOne : Path := ⟨⟨.state,0⟩,[.field "l",.index (-2)]⟩

/-- Filling the place after the last moves the place that is last but one, so the accessor fails where the
path does not. -/
theorem routes_differ_retargeting :
    let along := Target.place 0 (lastButOne.below [.field "z"])
    backward.Closed ∧ backward.Acyclic ∧ Open backward lastButOne ∧ Route backward 0 lastButOne [.field "z"] along ∧
      Route backward 0 lastButOne [.field "z"] (.handle 2) ∧
      ∃ stored failure failed, along.set (.int 1) backward = (.done (),stored) ∧
        Target.set (.handle 2) (.int 1) backward = (.raised failure,failed) ∧
        (failed.store.failureAt failure).fault.className = "TypeError" ∧
        ¬ backward.Concur (along.set (.int 1) backward) (Target.set (.handle 2) (.int 1) backward) := by
  intro along
  have opened : Open backward lastButOne := by
    rw [Open,isLocked]
    rfl
  obtain ⟨stored,ran⟩ := Step.ended (show (along.set (.int 1) backward).1 = .done () by decide +kernel)
  obtain ⟨failed,fails⟩ := Step.ended
    (show (Target.set (.handle 2) (.int 1) backward).1 = .raised 0 by decide +kernel)
  have named : ((Target.set (.handle 2) (.int 1) backward).2.store.failureAt 0).fault.className =
    "TypeError" := by decide +kernel
  rw [fails] at named
  refine ⟨backward_closed,.of_older (by decide +kernel),opened,.along .place,
    .chain (.sub (.path (show backward.store.handleAt 1 = _ from rfl)) rfl),stored,0,failed,ran,fails,named,?_⟩
  rintro ⟨link,-,-,ends⟩
  rw [ran,fails] at ends
  cases ends

/-- A page with an accessor on a reference to a missing location, which the first item of a tuple and the
component of the root scope are. -/
def enclosed (path : Path) : Runtime :=
  let store := { Store.empty with
    handles := ⟨#[.path 0 vacant false,.path 0 path false,.sub 1 (.field "z")]⟩
    tuples := ⟨#[[.ref 0]]⟩
    dicts := ⟨#[[],[⟨.text "t",.str "t",.tuple 0⟩]]⟩
    scopes := ⟨#[⟨none,.null,0,false,some "root",[],none,.ref 0,.none⟩]⟩ }
  { Page.initial with store }.setRoot "state" (.dict 1)

def firstItem : Path := ⟨⟨.state,0⟩,[.field "t",.index 0]⟩

-- A tuple must hold no such reference: the path writes through it, the accessor is ignored.
example : ((Target.place 0 (firstItem.below [.field "z"])).set (.int 1) (enclosed firstItem)).2.resolve 0 =
    .ok (.value (.dict 2)) ∧
      (Target.set (.handle 2) (.int 1) (enclosed firstItem)).2.resolve 0 = .ok .null := by decide +kernel

def component : Path := ⟨⟨.component,0⟩,[]⟩

-- Nor must a root that cannot be put elsewhere: the path writes through it, the accessor fails.
example : ((Target.place 0 (component.below [.field "z"])).set (.int 1) (enclosed component)).1 = .done () ∧
    (Target.set (.handle 2) (.int 1) (enclosed component)).1 = .raised 0 := by decide +kernel

end Reference
end PageRuntime
