import PageRuntime.Proofs.Blank
import PageRuntime.Proofs.Reach

/-! Writes to inert roots. A path below a locked root is never written. A handle below another handle
writes into the container it finds there; where everything below the root is missing or passed over
by writes, that too has no effect, along whatever references the root is reached. -/
namespace PageRuntime
namespace Runtime

variable (r : Runtime)

/-- The path leads to the stored reference `b` and from there on along `after`, through no other
reference. -/
def GoesThrough (a b : Address) (after : List Segment) : Prop :=
  ∃ scope path locked start before,
    r.store.handleAt a = .path scope path locked ∧ path.segments = before ++ after ∧
    (path.segments = [] → path.root.kind.dataRoot?.isSome) ∧
    r.rootSpot scope path.root = .ok start ∧
    start.walk r.resolve r.store before = .ok (.value (.ref b)) ∧
    ∀ mid rest, after = mid ++ rest → mid ≠ [] → rest ≠ [] → ∀ c,
      (Spot.value (.ref b)).walk r.resolve r.store mid ≠ .ok (.value (.ref c))

/-- The handles that name a location in a data root: its paths, what is below such a handle or locked
on it, and paths through a stored reference to such a handle. -/
inductive Names (name : String) : Address → Prop
  | root {a scope : Address} {path : Path} {locked : Bool}
      (here : r.store.handleAt a = .path scope path locked)
      (kind : path.root.kind.dataRoot? = some name) (near : path.root.caret ≤ 1) : Names name a
  | sub {a parent : Address} {key : Segment} (here : r.store.handleAt a = .sub parent key)
      (above : Names name parent) : Names name a
  | locked {a inner : Address} (here : r.store.handleAt a = .locked inner)
      (within : Names name inner) : Names name a
  | through {a b : Address} {after : List Segment} (goes : r.GoesThrough a b after)
      (named : Names name b) : Names name a

/-- A registered root of a running page that is locked. -/
structure LockedRoot (name : String) : Prop where
  closed : r.Closed
  alive : r.alive = true
  locked : r.isLocked name = true
  registered : (r.rootValue? name).isSome

/-- Everything below the root is missing or passed over by writes. -/
def Inert (name : String) : Prop :=
  ∀ keys, ∃ spot, r.below name keys = .ok spot ∧ (spot = .null ∨ Reference.isFixed spot)

variable {r} {name : String}

theorem rootSpot_registered {v : Value} (alive : r.alive = true)
    (registered : r.rootValue? name = some v) {root : Root} (kind : root.kind.dataRoot? = some name)
    (near : root.caret ≤ 1) (scope : Address) : r.rootSpot scope root = .ok (.value v) := by
  have close : ¬ 1 < root.caret := Nat.not_lt.mpr near
  have held : r.dataRoot name = .ok (some v) := by
    rw [dataRoot,alive,registered]
    rfl
  unfold rootSpot
  simp only [if_neg close]
  revert kind
  cases root.kind with
  | global => rintro ⟨⟩; simp only [held]; rfl
  | state => rintro ⟨⟩; simp only [held]; rfl
  | named other => rintro ⟨⟩; simp only [held]; rfl
  | _ => rintro ⟨⟩

theorem rootSpot_data (root : LockedRoot r name) {scope : Address} {path : Path}
    (kind : path.root.kind.dataRoot? = some name) (near : path.root.caret ≤ 1) :
    r.rootSpot scope path.root = .ok (.value (Value.ofOption (r.rootValue? name))) := by
  obtain ⟨v,registered⟩ := Option.isSome_iff_exists.mp root.registered
  rw [registered]
  exact rootSpot_registered root.alive registered kind near scope

/-- A handle that names a location in a root reads as that location. -/
theorem Names.resolve_eq_below (root : LockedRoot r name) {a : Address} (names : r.Names name a) :
    ∃ keys, r.resolve a = r.below name keys := by
  induction names with
  | root here kind near =>
    rw [r.resolve_eq,here]
    show ∃ keys, (r.rootSpot _ _ >>= fun start => r.reach start _) = _
    rw [rootSpot_data root kind near]
    exact ⟨_,rfl⟩
  | @sub a parent key here above ih =>
    obtain ⟨keys,reads⟩ := ih
    refine ⟨keys ++ [key],?_⟩
    rw [r.resolve_eq,here,Runtime.below,reach_append]
    show r.resolve parent >>= _ = _
    rw [reads,Runtime.below]
    cases reached : r.reach (.value (Value.ofOption (r.rootValue? name))) keys with
    | error fault => rfl
    | ok container => exact (r.reach_singleton (r.reach_settled reached) key).symm
  | locked here within ih =>
    rw [r.resolve_eq,here]
    exact ih
  | @through a b after goes named ih =>
    obtain ⟨keys,reads⟩ := ih
    obtain ⟨scope,path,locked,start,before,here,split,-,rooted,reached,-⟩ := goes
    refine ⟨keys ++ after,?_⟩
    rw [r.resolve_eq,here,Runtime.below,reach_append]
    show (r.rootSpot scope path.root >>= fun start => r.reach start path.segments) = _
    rw [rooted,split]
    show r.reach start (before ++ after) = _
    unfold reach
    rw [Spot.walk_append,reached]
    show r.reach (.value (.ref b)) after = _
    rw [reach_follow]
    exact congrArg (· >>= fun last => r.reach last after) reads

/-- No location in an inert root is a fault. -/
theorem Names.settled (root : LockedRoot r name) (inert : r.Inert name) {a : Address}
    (names : r.Names name a) :
    ∃ spot, r.resolve a = .ok spot ∧ (spot = .null ∨ Reference.isFixed spot) := by
  obtain ⟨keys,reads⟩ := names.resolve_eq_below root
  obtain ⟨spot,reached,rests⟩ := inert keys
  exact ⟨spot,reads.trans reached,rests⟩

/-! Growth keeps a root locked and inert, and the handles that name its locations. -/
section Growth

variable {after : Runtime} (growth : r.Grew after) (afterClosed : after.Closed)
include growth afterClosed

theorem LockedRoot.grew (root : LockedRoot r name) : LockedRoot after name where
  closed := afterClosed
  alive := growth.alive.trans root.alive
  locked := (growth.isLocked name).trans root.locked
  registered := by
    rw [growth.rootValue?]
    exact root.registered

theorem reach_grew (closed : r.Closed) {spot : Spot} (present : spot.Alike r.store.identity spot)
    (keys : List Segment) : after.reach spot keys = r.reach spot keys := by
  have alike := closed.grew growth afterClosed
  have agree := (present.walk (fun _ _ => alike.resolve) alike.store keys).bind
    fun _ _ last => last.follow fun _ _ => alike.resolve
  exact (agree.eq fun _ _ same => same.eq r.store.identity_diagonal).symm

theorem below_grew (closed : r.Closed) (keys : List Segment) :
    after.below name keys = r.below name keys := by
  unfold below
  rw [growth.rootValue?]
  exact reach_grew growth afterClosed closed (.value (closed.rootPresent name)) keys

theorem Inert.grew (closed : r.Closed) (inert : r.Inert name) : after.Inert name := by
  intro keys
  rw [below_grew growth afterClosed closed]
  exact inert keys

theorem GoesThrough.grew (closed : r.Closed) {a b : Address} {rest : List Segment}
    (goes : r.GoesThrough a b rest) : after.GoesThrough a b rest := by
  obtain ⟨scope,path,locked,start,before,here,split,bare,rooted,reached,direct⟩ := goes
  have inside := handle_inside here nofun
  have known : scope < r.store.scopes.size := by
    have alike := closed.store.handleAt ⟨rfl,inside⟩
    rw [here] at alike
    cases alike with
    | path linked => exact linked.2
  have started := (closed.rootSpot ⟨rfl,known⟩ path.root : Agree (Spot.Alike r.store.identity) _ _)
  rw [rooted] at started
  cases started with
  | ok present =>
    have met := present.walk (fun _ _ => Alike.resolve closed) closed.store before
    rw [reached] at met
    cases met with
    | ok refPresent =>
      refine ⟨scope,path,locked,start,before,(growth.handleAt inside).trans here,split,bare,?_,?_,?_⟩
      · exact (rootSpot_grew closed growth afterClosed known path.root).trans rooted
      · exact (walk_grew closed growth afterClosed present before).trans reached
      · intro mid last split inner outer c
        rw [walk_grew closed growth afterClosed refPresent mid]
        exact direct mid last split inner outer c

theorem Names.grew (closed : r.Closed) {a : Address} (names : r.Names name a) :
    after.Names name a := by
  induction names with
  | root here kind near =>
    exact .root ((growth.handleAt (handle_inside here nofun)).trans here) kind near
  | sub here above ih => exact .sub ((growth.handleAt (handle_inside here nofun)).trans here) ih
  | locked here within ih => exact .locked ((growth.handleAt (handle_inside here nofun)).trans here) ih
  | through goes named ih => exact .through (goes.grew growth afterClosed closed) ih

end Growth

theorem Names.inside {a : Address} (names : r.Names name a) : a < r.store.handles.size := by
  cases names with
  | root here kind near => exact handle_inside here nofun
  | sub here above => exact handle_inside here nofun
  | locked here within => exact handle_inside here nofun
  | through goes named =>
    obtain ⟨scope,path,locked,start,before,here,-⟩ := goes
    exact handle_inside here nofun

/-- A handle on a location in an inert locked root, read within a number of entries. -/
structure Ready (r : Runtime) (name : String) (entries : Nat) (a : Address) : Prop where
  root : LockedRoot r name
  inert : r.Inert name
  names : r.Names name a
  read : ∃ spot, r.resolveWithin entries a = .ok spot

theorem Ready.grew {after : Runtime} {entries : Nat} {a : Address} (ready : Ready r name entries a)
    (grew : r.Grew after) (afterClosed : after.Closed) : Ready after name entries a where
  root := ready.root.grew grew afterClosed
  inert := ready.inert.grew grew afterClosed ready.root.closed
  names := ready.names.grew grew afterClosed ready.root.closed
  read := by
    rw [resolveWithin_grew ready.root.closed grew afterClosed entries ready.names.inside]
    exact ready.read

end Runtime

/-- From here the step succeeds, having only made objects, in a closed runtime. -/
def Act.Passes (r : Runtime) (act : Act Unit) : Prop :=
  ∃ after, act r = (.done (),after) ∧ r.Grew after ∧ after.Closed

theorem Act.Passes.of_run {r : Runtime} {act : Act Unit} (closed : r.Closed)
    (run : act r = (.done (),r)) : act.Passes r := ⟨r,run,.refl r,closed⟩

namespace Reference
open PageRuntime.Runtime (LockedRoot Inert Names Ready)

variable {name : String} {entries : Nat}

/-- Handles on locations in an inert locked root are written without effect. -/
def Spares (name : String) (entries : Nat) (write : Address → Value → Act Unit) : Prop :=
  ∀ r a v, Ready r name entries a → v.Present r.store → (write a v).Passes r

section Writing

variable {write : Address → Value → Act Unit} (spares : Spares name entries write)
  {r : Runtime} (closed : r.Closed)

theorem putInto_fixed {container : Spot} (fixed : isFixed container = true) (key : Segment)
    (v : Value) : putInto write container key v r = (.done (),r) := by
  unfold isFixed at fixed
  split at fixed
  · rfl
  · rfl
  · rfl
  · cases fixed

theorem isFixed_plain {container : Spot} (fixed : isFixed container = true) (a : Address) :
    container ≠ .value (.ref a) := by
  rintro rfl
  cases fixed

theorem opened_found (write : Address → Value → Act Unit) {reading : Act Spot} {found : Spot} (reads : reading r = (.done found,r))
    (something : found ≠ .null) (a : Address) (key : Segment) :
    opened write a reading key r = (.done found,r) := by
  rw [opened,Step.bind_done reads,if_neg something]
  rfl

theorem putItem_through {items : List Value} {store : List Value → Act Unit} {key : Segment}
    {b : Address} (held : itemAt items key = .ref b) (v : Value) :
    putItem write items store key v = write b v := by
  cases key with
  | field name => cases held
  | index place =>
    simp only [itemAt] at held
    simp only [putItem]
    cases found : placeOf? items.length place with
    | none => rw [found] at held; cases held
    | some place =>
      rw [found] at held
      dsimp only [Option.bind_some] at held ⊢
      cases here : items[place]? with
      | none => rw [here] at held; cases held
      | some item =>
        rw [here] at held
        cases held
        rfl

/-- A container that is not there is behind a reference. -/
theorem ref_of_missing {resolve : Address → Except Fault Spot} {container : Spot}
    (followed : container.follow resolve = .ok .null) (something : container ≠ .null) :
    ∃ b, container = .value (.ref b) := by
  unfold Spot.follow at followed
  split at followed
  · exact ⟨_,rfl⟩
  · exact absurd (Except.ok.inj followed) something

theorem follow_plain {resolve : Address → Except Fault Spot} {container settled : Spot}
    (plain : ∀ b, container ≠ .value (.ref b)) (followed : container.follow resolve = .ok settled) :
    container = settled :=
  Except.ok.inj ((Spot.follow_direct resolve plain).symm.trans followed)

include closed spares

/-- What an inert root does not hold is given to nobody: the location stays missing. -/
theorem opened_missing (reading : Act Spot) {a : Address} (ready : Ready r name entries a)
    (reads : ∀ after, r.Grew after → after.Closed → reading after = (.done .null,after))
    (key : Segment) : ∃ after, opened write a reading key r = (.done .null,after) ∧
      r.Grew after ∧ after.Closed := by
  obtain ⟨made,s,makes,grew,-,-,present,closes⟩ := emptyFor_run key r
  have madeClosed := closes closed
  obtain ⟨after,wrote,later,afterClosed⟩ := spares _ a made (ready.grew grew madeClosed) present
  refine ⟨after,?_,grew.trans later,afterClosed⟩
  rw [opened,Step.bind_done (reads r (.refl r) closed),if_pos rfl,Step.bind_done makes,
    Step.bind_done wrote]
  exact reads after (grew.trans later) afterClosed

theorem put_inside {container : Spot} (key : Segment) (v : Value)
    (rests : ∃ settled, container.follow r.resolve = .ok settled ∧
      (settled = .null ∨ isFixed settled = true)) (something : container ≠ .null)
    (ready : ∀ b, container = .value (.ref b) → Ready r name entries b) :
    (put write container key v).Passes r := by
  obtain ⟨settled,followed,rests⟩ := rests
  by_cases behind : ∃ b, container = .value (.ref b)
  · obtain ⟨b,rfl⟩ := behind
    have ready := ready b rfl
    obtain rfl | fixed := rests
    · obtain ⟨after,run,grew,afterClosed⟩ := opened_missing spares closed
        (settle (.value (.ref b))) ready (fun after grew afterClosed => settle_run (by
          rw [Runtime.follow_grew closed grew afterClosed (.value (.ref ⟨rfl,ready.names.inside⟩))]
          exact followed)) key
      refine ⟨after,?_,grew,afterClosed⟩
      rw [put,Step.bind_done run,if_pos rfl]
      rfl
    · have found := opened_found write (settle_run followed)
        (by rintro rfl; cases fixed) b key
      refine .of_run closed ?_
      rw [put,Step.bind_done found,if_neg (by rintro rfl; cases fixed)]
      exact putInto_fixed fixed key v
  · have plain (b : Address) : container ≠ .value (.ref b) := fun same => behind ⟨b,same⟩
    refine .of_run closed ?_
    rw [put_plain _ plain]
    obtain rfl := follow_plain plain followed
    exact putInto_fixed (rests.resolve_left something) key v

/-- An entry that holds a reference is written through it. -/
theorem putInto_through {container : Spot} {key : Segment} {b : Address}
    (held : r.store.member container key = .ref b) (ready : Ready r name entries b) {v : Value}
    (present : v.Present r.store) : (putInto write container key v).Passes r := by
  have wrote := spares r b v ready present
  have bound {scope : Address} (held : r.store.contextKey scope (.text key.bindingName) = .ref b) :
      (putBinding write scope key v).Passes r := by
    unfold putBinding
    dsimp only
    rw [Act.Passes,Step.bind_done (Act.store_run r),held]
    exact wrote
  unfold putInto
  rw [Act.Passes,Step.bind_done (Act.store_run r)]
  cases container with
  | bindings scope => exact bound held
  | items items =>
    dsimp only
    rw [putItem_through held v]
    exact wrote
  | value container =>
    cases container with
    | context a => exact bound held
    | dict a =>
      have held : (r.store.dictAt a).get key.key = .ref b := held
      show ∃ after, putEntry write a key v r = _ ∧ _
      rw [putEntry,Step.bind_done (Act.store_run r),held]
      exact wrote
    | list a =>
      have held : itemAt (r.store.listAt a) key = .ref b := held
      dsimp only
      rw [putItem_through held v]
      exact wrote
    | tuple a => exact ⟨r,rfl,.refl r,closed⟩
    | frozen a => exact ⟨r,rfl,.refl r,closed⟩
    | _ => cases held

theorem put_through {container settled : Spot} {key : Segment} {b : Address}
    (followed : container.follow r.resolve = .ok settled)
    (held : r.store.member settled key = .ref b) (ready : Ready r name entries b) {v : Value}
    (present : v.Present r.store) : (put write container key v).Passes r := by
  have passes := putInto_through spares closed held ready present
  by_cases behind : ∃ c, container = .value (.ref c)
  · obtain ⟨c,rfl⟩ := behind
    have something : settled ≠ .null := by rintro rfl; cases held
    rw [Act.Passes,put,Step.bind_done (opened_found write (settle_run followed) something c key),
      if_neg something]
    exact passes
  · have plain (c : Address) : container ≠ .value (.ref c) := fun same => behind ⟨c,same⟩
    rw [put_plain _ plain,follow_plain plain followed]
    exact passes

/-- Walking on inside an inert root, without another reference on the way. -/
theorem descend_inside (rest : List Segment) {container : Spot} (key : Segment) {v : Value}
    (present : v.Present r.store)
    (rests : ∀ keys, ∃ settled, r.reach container keys = .ok settled ∧
      (settled = .null ∨ isFixed settled = true)) (something : container ≠ .null)
    (ready : ∀ b, container = .value (.ref b) → Ready r name entries b)
    (direct : ∀ mid last, key :: rest = mid ++ last → mid ≠ [] → last ≠ [] → ∀ c,
      container.walk r.resolve r.store mid ≠ .ok (.value (.ref c))) :
    (descend write container key rest v).Passes r := by
  induction rest generalizing container key with
  | nil => exact put_inside spares closed key v (rests []) something ready
  | cons next rest ih =>
    obtain ⟨settled,followed,here⟩ := rests []
    have followed : container.follow r.resolve = .ok settled := followed
    by_cases missing : r.store.member settled key = .null
    · obtain rfl | fixed := here
      · obtain ⟨b,rfl⟩ := ref_of_missing followed something
        obtain ⟨made,s,makes,grew,blank,lacks,madePresent,closes⟩ := emptyFor_run next r
        have madeClosed := closes closed
        have stays : (Spot.value (.ref b)).Alike r.store.identity (.value (.ref b)) :=
          .value (.ref ⟨rfl,(ready b rfl).names.inside⟩)
        obtain ⟨between,wrote,later,betweenClosed⟩ := put_inside spares madeClosed key made
          ⟨.null,(Runtime.follow_grew closed grew madeClosed stays).trans followed,.inl rfl⟩ something
          fun c same => (ready c same).grew grew madeClosed
        obtain ⟨after,run,but,closes⟩ := descend_blank write (blank.grew later) rest v
        refine ⟨after,?_,?_,?_⟩
        · rw [descend_missing write followed missing rfl,Step.bind_done makes,Step.bind_done wrote]
          exact run
        · exact (grew.trans later).trans_but but lacks
        · exact closes betweenClosed (present.grew (grew.trans later).store)
      · exact .of_run closed (descend_fixed write followed missing fixed next rest v)
    · rw [Act.Passes,descend_found write followed missing]
      have step : container.step r.resolve r.store key = .ok (r.store.member settled key) := by
        rw [Spot.step,followed]
        rfl
      refine ih next (fun keys => ?_) (fun same => missing (Spot.value.inj same)) (fun b same => ?_)
        fun mid last split inner outer c => ?_
      · obtain ⟨end',reached,rests⟩ := rests (key :: keys)
        rw [Runtime.reach,Spot.walk_cons,step] at reached
        exact ⟨end',reached,rests⟩
      · refine absurd ?_ (direct [key] (next :: rest) rfl (List.cons_ne_nil _ _)
          (List.cons_ne_nil _ _) b)
        rw [Spot.walk_cons,step]
        exact congrArg _ same
      · have far := direct (key :: mid) last (by rw [split]; rfl) (List.cons_ne_nil _ _) outer c
        rw [Spot.walk_cons,step] at far
        exact far

/-- Walking up to a stored reference on an inert root and on from there. -/
theorem descend_through (before after : List Segment) {container : Spot} {key : Segment}
    {rest : List Segment} (split : key :: rest = before ++ after) {b : Address} {v : Value}
    (present : v.Present r.store)
    (reached : container.walk r.resolve r.store before = .ok (.value (.ref b)))
    (ready : Ready r name entries b)
    (rests : ∀ keys, ∃ settled, r.reach (.value (.ref b)) keys = .ok settled ∧
      (settled = .null ∨ isFixed settled = true))
    (direct : ∀ mid last, after = mid ++ last → mid ≠ [] → last ≠ [] → ∀ c,
      (Spot.value (.ref b)).walk r.resolve r.store mid ≠ .ok (.value (.ref c))) :
    (descend write container key rest v).Passes r := by
  induction before generalizing container key rest with
  | nil =>
    obtain rfl : container = .value (.ref b) := Except.ok.inj reached
    obtain rfl : key :: rest = after := split
    exact descend_inside spares closed rest key present rests nofun
      (fun c same => by cases same; exact ready) direct
  | cons first before ih =>
    obtain ⟨rfl,tail⟩ := List.cons.inj split
    rw [Spot.walk_cons] at reached
    obtain ⟨next,stepped,reached⟩ := ok_of_bind reached
    obtain ⟨settled,followed,met⟩ := ok_of_bind stepped
    obtain rfl : r.store.member settled key = next := Except.ok.inj met
    cases rest with
    | nil =>
      obtain ⟨rfl,rfl⟩ := List.append_eq_nil_iff.mp tail.symm
      have held : r.store.member settled key = .ref b := Spot.value.inj (Except.ok.inj reached)
      exact put_through spares closed followed held ready present
    | cons next rest =>
      have found : r.store.member settled key ≠ .null := by
        intro missing
        rw [missing] at reached
        exact absurd ((Spot.walk_null r.resolve r.store before).symm.trans reached) nofun
      rw [Act.Passes,descend_found write followed found]
      exact ih tail reached

end Writing

theorem isLocked_run {r : Runtime} (alive : r.alive = true) (path : Path) (locked : Bool) :
    isLocked path locked r = (.done (locked || path.root.kind.isComputed ||
      path.root.kind.dataRoot?.any r.isLocked),r) := by
  unfold isLocked
  split
  · next shut => rw [shut]; rfl
  · next free =>
    rw [Bool.not_eq_true] at free
    rw [free]
    cases path.root.kind.dataRoot? with
    | none => rfl
    | some name =>
      dsimp only
      rw [Step.bind_run,Step.read_run]
      dsimp only
      rw [if_pos alive]
      rfl

/-- Writing to a path that is locked is noted and ignored. -/
theorem setPathValue_locked {r : Runtime} (closed : r.Closed) (alive : r.alive = true)
    {path : Path} {locked : Bool} (shut : (locked || path.root.kind.isComputed ||
      path.root.kind.dataRoot?.any r.isLocked) = true) (write : Address → Value → Act Unit)
    (scope : Address) (v : Value) : (setPathValue write scope path locked v).Passes r := by
  obtain ⟨entries,noted⟩ := debugLine_run ("set on read-only location ignored: " ++ path.text) r
  refine ⟨{ r with journal := entries },?_,⟨.refl _,rfl⟩,closed.journal entries⟩
  rw [setPathValue,Step.bind_done (isLocked_run alive path locked),if_pos shut]
  exact noted

theorem root_run {r : Runtime} {scope : Address} {path : Path} {start : Spot}
    (rooted : r.rootSpot scope path.root = .ok start) : root scope path r = (.done start,r) := by
  unfold root
  rw [Step.bind_run,Step.read_run]
  dsimp only
  rw [rooted]
  rfl

/-- What the bare path of a data root reads is what the root holds. -/
theorem rootValue_of_rootSpot {r : Runtime} {scope : Address} {root : Root} {name : String}
    {spot : Spot} (kind : root.kind.dataRoot? = some name) (rooted : r.rootSpot scope root = .ok spot) :
    spot = .value (Value.ofOption (r.rootValue? name)) := by
  have held {found : Option Value} (data : r.dataRoot name = .ok found) : found = r.rootValue? name := by
    unfold Runtime.dataRoot at data
    split at data
    · exact (Except.ok.inj data).symm
    · cases data
  unfold Runtime.rootSpot at rooted
  dsimp only at rooted
  split at rooted
  · cases rooted
  · revert kind rooted
    cases root.kind with
    | global =>
      rintro ⟨⟩ rooted
      obtain ⟨found,data,same⟩ := ok_of_bind rooted
      rw [← held data]
      exact (Except.ok.inj same).symm
    | state =>
      rintro ⟨⟩ rooted
      obtain ⟨found,data,same⟩ := ok_of_bind rooted
      rw [← held data]
      exact (Except.ok.inj same).symm
    | named other =>
      rintro ⟨⟩ rooted
      obtain ⟨found,data,same⟩ := ok_of_bind rooted
      rw [← held data]
      cases found with
      | none => cases same
      | some found => exact (Except.ok.inj same).symm
    | _ => rintro ⟨⟩

/-- Asking a handle on a location for its value is reading it. -/
theorem readWithin_names {r : Runtime} {a : Address} (names : r.Names name a) {fuel : Nat}
    {spot : Spot} (read : r.resolveWithin fuel a = .ok spot) : r.readWithin fuel a = r.resolve a := by
  induction fuel generalizing a with
  | zero => cases read
  | succ fuel ih =>
    unfold Runtime.readWithin
    cases names with
    | root here kind near => rw [here]
    | sub here above => rw [here]
    | locked here within =>
      rw [Runtime.resolveWithin,here] at read
      rw [here,r.resolve_eq,here]
      exact ih within read
    | through goes named =>
      obtain ⟨scope,path,locked,start,before,here,-⟩ := goes
      rw [here]

theorem read_run {r : Runtime} {a : Address}
    (names : r.Names name a) {spot : Spot} (resolved : r.resolve a = .ok spot) :
    read a r = (.done spot,r) := by
  have reads : r.readReference a = r.resolve a := readWithin_names names resolved
  unfold read
  rw [Step.bind_run,Step.read_run]
  dsimp only
  rw [reads,resolved]
  rfl

/-- What a path through a stored reference needs for its reading, the reference needs less of. -/
theorem ready_through {r : Runtime} {b scope : Address} {path : Path} {locked : Bool} {start : Spot}
    {before after : List Segment} (split : path.segments = before ++ after)
    (rooted : r.rootSpot scope path.root = .ok start)
    (reached : start.walk r.resolve r.store before = .ok (.value (.ref b))) {spot : Spot}
    (read : r.readHandle (r.resolveWithin entries) (.path scope path locked) = .ok spot) :
    ∃ spot, r.resolveWithin entries b = .ok spot := by
  obtain ⟨begun,began,read⟩ := ok_of_bind read
  obtain rfl : start = begun := Except.ok.inj (rooted.symm.trans began)
  obtain ⟨last,walked,followed⟩ := ok_of_bind read
  rw [split,Spot.walk_append] at walked
  obtain ⟨mid,met,walked⟩ := ok_of_bind walked
  have same := start.walk_reaches (r.resolveWithin_stable entries) r.store before
  rw [met] at same
  obtain rfl : mid = .value (.ref b) := Except.ok.inj (same.ok.symm.trans reached)
  cases after with
  | nil =>
    obtain rfl : Spot.value (.ref b) = last := Except.ok.inj walked
    exact ⟨spot,followed⟩
  | cons key after =>
    rw [Spot.walk_cons] at walked
    obtain ⟨next,stepped,-⟩ := ok_of_bind walked
    obtain ⟨settled,resolved,-⟩ := ok_of_bind stepped
    exact ⟨settled,resolved⟩

/-- No write through a handle on a location in an inert locked root has any effect. -/
theorem setWithin_spares (entries fuel : Nat) (enough : entries ≤ fuel) :
    Spares name entries (setWithin fuel) := by
  induction entries generalizing fuel with
  | zero =>
    intro r a v ready
    obtain ⟨spot,read⟩ := ready.read
    cases read
  | succ entries ih =>
    obtain ⟨fuel,rfl⟩ : ∃ less, fuel = less + 1 :=
      Nat.exists_eq_add_one.mpr (Nat.lt_of_lt_of_le (Nat.succ_pos _) enough)
    have spares := ih fuel (Nat.le_of_succ_le_succ enough)
    intro r a v ready present
    obtain ⟨spot,read⟩ := ready.read
    rw [Runtime.resolveWithin] at read
    have closed := ready.root.closed
    unfold setWithin
    rw [Act.Passes,Step.bind_done (Act.store_run r)]
    cases ready.names with
    | root here kind near =>
      rw [here]
      refine setPathValue_locked closed ready.root.alive ?_ _ _ v
      rw [kind]
      simp [ready.root.locked]
    | @sub _ parent key here above =>
      rw [here] at read ⊢
      obtain ⟨container,resolved,-⟩ := ok_of_bind read
      have parentReady : Ready r name entries parent :=
        ⟨ready.root,ready.inert,above,container,resolved⟩
      obtain ⟨held,holds,rests⟩ := above.settled ready.root ready.inert
      dsimp only
      unfold setBelow
      obtain rfl | fixed := rests
      · obtain ⟨after,run,grew,afterClosed⟩ := opened_missing spares closed
          (Reference.read parent) parentReady (fun after grew afterClosed =>
            read_run (above.grew grew afterClosed closed)
              ((Runtime.resolve_grew closed grew afterClosed above.inside).trans holds)) key
        refine ⟨after,?_,grew,afterClosed⟩
        rw [Step.bind_done run,if_pos rfl]
        rfl
      · have something : held ≠ .null := by rintro rfl; cases fixed
        have found := opened_found (setWithin fuel) (read_run above holds) something parent key
        rw [Step.bind_done found,if_neg something,put_plain _ (isFixed_plain fixed)]
        exact Act.Passes.of_run closed (putInto_fixed fixed key v)
    | locked here within =>
      rw [here]
      exact Act.Passes.of_run closed rfl
    | @through _ b after goes named =>
      obtain ⟨scope,path,locked,start,before,here,split,bare,rooted,reached,direct⟩ := goes
      rw [here] at read ⊢
      have bReady : Ready r name entries b :=
        ⟨ready.root,ready.inert,named,ready_through split rooted reached read⟩
      have rests : ∀ keys, ∃ settled, r.reach (.value (.ref b)) keys = .ok settled ∧
          (settled = .null ∨ isFixed settled = true) := by
        obtain ⟨front,reads⟩ := named.resolve_eq_below ready.root
        intro keys
        obtain ⟨settled,lies,rests⟩ := ready.inert (front ++ keys)
        refine ⟨settled,?_,rests⟩
        rw [Runtime.reach_follow]
        rw [Runtime.below,Runtime.reach_append] at lies
        exact (congrArg (· >>= fun last => r.reach last keys) reads).trans lies
      dsimp only
      by_cases shut : (locked || path.root.kind.isComputed ||
          path.root.kind.dataRoot?.any r.isLocked) = true
      · exact setPathValue_locked closed ready.root.alive shut _ _ v
      · unfold setPathValue
        rw [Step.bind_done (isLocked_run ready.root.alive path locked),if_neg shut]
        cases keys : path.segments with
        | nil =>
          obtain ⟨other,kind⟩ := Option.isSome_iff_exists.mp (bare keys)
          rw [keys] at split
          obtain ⟨rfl,rfl⟩ := List.append_eq_nil_iff.mp split.symm
          obtain rfl : start = .value (.ref b) := Except.ok.inj reached
          have held := Spot.value.inj (rootValue_of_rootSpot kind rooted)
          unfold setRootPath
          rw [kind]
          dsimp only
          rw [Step.bind_run,Step.read_run]
          dsimp only
          cases value : r.rootValue? other with
          | none => rw [value] at held; cases held
          | some v' =>
            rw [value] at held
            cases held
            exact spares r b v bReady present
        | cons key rest =>
          have something : start ≠ .null := by
            rintro rfl
            have ended := (Spot.walk_null r.resolve r.store before).symm.trans reached
            cases ended
          dsimp only
          unfold setBelowRoot
          rw [Step.bind_done (root_run rooted),if_neg something]
          exact descend_through spares closed before after (keys.symm.trans split) present reached
            bReady rests direct

theorem set_names {r : Runtime} (root : LockedRoot r name) (inert : r.Inert name) {a : Address}
    (names : r.Names name a) {v : Value} (present : v.Present r.store) : (set a v).Passes r := by
  obtain ⟨spot,resolved,-⟩ := names.settled root inert
  have enough : r.store.handles.size + 1 ≤ depth r.store := by
    unfold depth
    omega
  have spares := @setWithin_spares name _ _ enough
  rw [Act.Passes,set,Step.bind_done (Act.store_run r)]
  exact spares r a v ⟨root,inert,names,spot,resolved⟩ present

theorem dropMember_still {r : Runtime} {container : Spot}
    (rests : container = .null ∨ isFixed container = true) (key : Segment) :
    dropMember container key r = (.done (),r) := by
  obtain rfl | fixed := rests
  · rfl
  · unfold isFixed at fixed
    split at fixed
    · rfl
    · rfl
    · rfl
    · cases fixed

end Reference

namespace Runtime
open Reference

/-- The handles that name a location strictly in a data root, so that removing the location concerns
the root: all that name one but paths that end at a stored reference. -/
def NamesWithin (r : Runtime) (name : String) (a : Address) : Prop :=
  (∃ scope path locked, r.store.handleAt a = .path scope path locked ∧
    path.root.kind.dataRoot? = some name ∧ path.root.caret ≤ 1) ∨
  (∃ parent key, r.store.handleAt a = .sub parent key ∧ r.Names name parent) ∨
  ∃ b after, after ≠ [] ∧ r.GoesThrough a b after ∧ r.Names name b

end Runtime

namespace Reference
open PageRuntime.Runtime (LockedRoot Inert Names NamesWithin)

/-- No removal of a location in an inert locked root has any effect. -/
theorem delete_names {r : Runtime} {name : String} (root : LockedRoot r name)
    (inert : r.Inert name) {a : Address} (names : r.NamesWithin name a) :
    delete a r = (.done (),r) := by
  have ignored {path : Path} {locked : Bool} {scope : Address}
      (shut : (locked || path.root.kind.isComputed ||
        path.root.kind.dataRoot?.any r.isLocked) = true) :
      deletePath scope path locked r = (.done (),r) := by
    rw [deletePath,Step.bind_done (isLocked_run root.alive path locked),if_pos shut]
    rfl
  unfold delete
  rw [Step.bind_done (Act.store_run r)]
  obtain ⟨scope,path,locked,here,kind,near⟩ | ⟨parent,key,here,above⟩ |
    ⟨b,after,inner,goes,named⟩ := names
  · rw [here]
    refine ignored ?_
    rw [kind]
    simp [root.locked]
  · rw [here]
    obtain ⟨spot,holds,rests⟩ := above.settled root inert
    have settled : spot.follow r.resolve = .ok spot := by
      obtain rfl | fixed := rests
      · rfl
      · unfold Spot.follow
        split
        · cases fixed
        · rfl
    dsimp only
    rw [Step.bind_done (read_run above holds),Step.bind_done (settle_run settled)]
    exact dropMember_still rests key
  · obtain ⟨scope,path,locked,start,before,here,split,bare,rooted,reached,direct⟩ := goes
    rw [here]
    dsimp only
    by_cases shut : (locked || path.root.kind.isComputed ||
        path.root.kind.dataRoot?.any r.isLocked) = true
    · exact ignored shut
    · rw [deletePath,Step.bind_done (isLocked_run root.alive path locked),if_neg shut]
      obtain ⟨front,reads⟩ := named.resolve_eq_below root
      obtain ⟨settled,lies,rests⟩ := inert (front ++ after.dropLast)
      have walked : start.walk r.resolve r.store path.segments.dropLast >>=
          (fun last => last.follow r.resolve) = .ok settled := by
        rw [split,List.dropLast_append_of_ne_nil inner,Spot.walk_append,reached]
        rw [Runtime.below,Runtime.reach_append] at lies
        show r.reach (.value (.ref b)) after.dropLast = _
        rw [Runtime.reach_follow]
        exact (congrArg (· >>= fun last => r.reach last after.dropLast) reads).trans lies
      obtain ⟨container,found,followed⟩ := ok_of_bind walked
      cases path.segments.getLast? with
      | none => rfl
      | some last =>
        dsimp only
        rw [deleteLast,Step.bind_done (root_run rooted),Step.bind_run,Step.read_run]
        dsimp only
        rw [found,Act.ofExcept_ok_bind,Step.bind_done (settle_run followed)]
        exact dropMember_still rests last

end Reference
end PageRuntime
