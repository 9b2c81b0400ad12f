import PageRuntime.Proofs.Concurrence
import PageRuntime.Proofs.ReadBack

/-! The last container on the way of a write. If the location that a write comes to last is missing, it
makes no difference whether all containers are made from the root on, or the last one first, which is then
stored where the path leads and filled. -/
namespace PageRuntime

namespace Runtime

/-- What only changes a container that nothing leads to changes nothing. -/
theorem Alike.of_but {link : Link} {r after : Runtime} (alike : r.Alike link r) (diagonal : link.Diagonal)
    {key : Segment} {made : Value} (blank : r.Blank key made) (apart : ¬ made.Alike link made)
    (but : r.GrewBut made after) (ordered : after.store.Ordered) : r.Alike link after := by
  have differ (shelf : Shelf) (a : Address) (linked : link shelf a a) : made.spot? ≠ some (shelf,a) := by
    intro here
    refine apart ?_
    cases key with
    | index place =>
      obtain ⟨b,rfl,-,-⟩ := blank
      cases here
      exact .list linked
    | field name =>
      obtain ⟨b,rfl,-,-⟩ := blank
      cases here
      exact .dict linked
  refine ⟨⟨?_,alike.store.paired,?_,alike.store.ordered,ordered⟩,?_,?_,?_⟩
  · intro shelf a b linked
    obtain ⟨left,right⟩ := alike.store.inside shelf a b linked
    exact ⟨left,(but.2 shelf b right).1⟩
  · intro shelf a b linked
    obtain rfl := diagonal shelf a b linked
    rw [(but.2 shelf a (alike.store.inside shelf a a linked).1).2 (differ shelf a linked)]
    exact alike.store.objects shelf a a linked
  · have roots : after.roots = r.roots := show after.frame.roots = r.frame.roots by rw [but.1]
    rw [roots]
    exact alike.roots
  · have document : after.document = r.document :=
      show after.frame.document = r.frame.document by rw [but.1]
    rw [document]
    exact alike.document
  · have same := congrArg Runtime.surroundings but.1
    exact same

/-- What cannot be changed holds no reference to a missing location. -/
def Replaceable (r : Runtime) : Prop := ∀ container key a, Reference.isFixed container = true →
  r.store.member container key = .ref a → r.resolve a ≠ .ok .null

theorem reach_cons {r : Runtime} {spot last : Spot} {key : Segment} {rest : List Segment}
    (reached : r.reach spot (key :: rest) = .ok last) : ∃ settled, spot.follow r.resolve = .ok settled ∧
      r.reach (.value (r.store.member settled key)) rest = .ok last := by
  rw [reach,Spot.walk_cons,Spot.step] at reached
  obtain ⟨on,walked,followed⟩ := ok_of_bind reached
  obtain ⟨v,stepped,walked⟩ := ok_of_bind walked
  obtain ⟨settled,found,met⟩ := ok_of_bind stepped
  cases met
  refine ⟨settled,found,?_⟩
  rw [reach,walked]
  exact followed

/-- A data root stands for what it holds. -/
theorem rootSpot_dataRoot {r : Runtime} {scope : Address} {root : Root} {name : String}
    (kind : root.kind.dataRoot? = some name) {start : Spot} (found : r.rootSpot scope root = .ok start) :
    start = .value (Value.ofOption (r.rootValue? name)) := by
  have held (other : String) {x : Option Value} (found : r.dataRoot other = .ok x) :
      x = r.rootValue? other := by
    unfold Runtime.dataRoot at found
    split at found
    · exact (Except.ok.inj found).symm
    · cases found
  have reads (other : String) (found : (r.dataRoot other >>= fun x =>
      .ok (.value (Value.ofOption x))) = .ok start) :
      start = .value (Value.ofOption (r.rootValue? other)) := by
    obtain ⟨x,read,same⟩ := ok_of_bind found
    rw [← held other read]
    exact (Except.ok.inj same).symm
  unfold Runtime.rootSpot at found
  dsimp only at found
  split at found
  · cases found
  · revert kind found
    cases root.kind with
    | global => rintro ⟨⟩ found; exact reads "global" found
    | state => rintro ⟨⟩ found; exact reads "state" found
    | named other =>
      rintro ⟨⟩ found
      obtain ⟨x,read,same⟩ := ok_of_bind found
      rw [← held _ read]
      cases x with
      | none => cases same
      | some v => exact (Except.ok.inj same).symm
    | _ => nofun

/-- A runtime with more objects reads what was there as before. -/
theorem Roomier.reads {r mid : Runtime} (roomier : r.Roomier mid) {container settled : Spot}
    (into : container.Alike r.store.identity container)
    (followed : container.follow r.resolve = .ok settled) :
    settled.Alike r.store.identity settled ∧ container.follow mid.resolve = .ok settled ∧
      ∀ key, mid.store.member settled key = r.store.member settled key := by
  have present : settled.Alike r.store.identity settled := by
    have agree := into.follow fun _ _ => roomier.old.resolve
    rw [followed] at agree
    cases agree with
    | ok present => exact present
  exact ⟨present,(follow_grew roomier.old roomier.growth roomier.closed into).trans followed,
    Store.member_grew roomier.old roomier.growth present roomier.closed⟩

theorem Roomier.making {r mid start : Runtime} (roomier : r.Roomier mid) {key : Segment} {made : Value}
    (makes : Reference.emptyFor key mid = (.done made,start)) : r.Roomier start :=
  roomier.trans (Reference.emptyFor_furnishes roomier.closed makes).toRoomier

end Runtime

def Path.below (path : Path) (keys : List Segment) : Path :=
  { path with segments := path.segments ++ keys }

namespace Reference
open PageRuntime.Runtime (Looks Roomier Concur)
open PageRuntime.Act (Matches)

/-- Writes and removals through the path are not ignored. -/
def Open (r : Runtime) (path : Path) : Prop := isLocked path false r = (.done false,r)

theorem Open.roomier {r mid : Runtime} {path : Path} (opened : Open r path) (roomier : r.Roomier mid) :
    Open mid path := by
  have matched := isLocked_matches roomier.twin_old path false
  obtain ⟨otherEnding,otherAfter,ran,-,ends⟩ := matched _ _ opened
  cases ends with
  | done same =>
    cases same
    obtain rfl := isLocked_still ran
    exact ran

section

variable {write : Address → Value → Act Unit} {container settled : Spot} {key : Segment} {v : Value}
  {r : Runtime}

theorem put_settled (followed : container.follow r.resolve = .ok settled) (there : settled ≠ .null) :
    put write container key v r = putInto write settled key v r := by
  by_cases behind : ∃ a, container = .value (.ref a)
  · obtain ⟨a,rfl⟩ := behind
    rw [put,Step.bind_done (opened_found write (settle_run followed) there a key),if_neg there]
  · have plain (a : Address) : container ≠ .value (.ref a) := fun same => behind ⟨a,same⟩
    rw [put_plain write plain,follow_plain plain followed]

theorem setPathValue_root {scope : Address} {path : Path} (opened : Open r path) (keys : path.segments = []) :
    setPathValue write scope path false v r = setRootPath write path v r := by
  rw [setPathValue,Step.bind_done opened,if_neg Bool.false_ne_true,keys]

theorem setPathValue_below {scope : Address} {path : Path} {rest : List Segment} (opened : Open r path)
    (keys : path.segments = key :: rest) :
    setPathValue write scope path false v r = setBelowRoot write scope path key rest v r := by
  rw [setPathValue,Step.bind_done opened,if_neg Bool.false_ne_true,keys]

theorem setRootPath_fixed {path : Path} (kind : path.root.kind.dataRoot? = none) :
    setRootPath write path v r = (Act.fail (.write (.fixedRoot path.root.text)) : Act Unit) r := by
  rw [setRootPath,kind]

theorem setRootPath_reference {path : Path} {name : String} (kind : path.root.kind.dataRoot? = some name)
    {a : Address} (held : r.rootValue? name = some (.ref a)) :
    setRootPath write path v r = write a v r := by
  rw [setRootPath,kind]
  dsimp only
  rw [Step.bind_done (Step.read_run r),held]

theorem setRootPath_plain {path : Path} {name : String} (kind : path.root.kind.dataRoot? = some name)
    (plain : ∀ a, r.rootValue? name ≠ some (.ref a)) :
    setRootPath write path v r = setRootValue name v r := by
  rw [setRootPath,kind]
  dsimp only
  rw [Step.bind_done (Step.read_run r)]
  cases held : r.rootValue? name with
  | none => rfl
  | some w =>
    cases w with
    | ref a => exact absurd held (plain a)
    | _ => rfl

section

variable {scope : Address} {path : Path} {start : Spot} {rest : List Segment}

theorem setBelowRoot_found (reads : root scope path r = (.done start,r)) (there : start ≠ .null) :
    setBelowRoot write scope path key rest v r = descend write start key rest v r := by
  rw [setBelowRoot,Step.bind_done reads,if_neg there]

theorem setBelowRoot_refused (reads : root scope path r = (.done .null,r))
    (kind : path.root.kind.dataRoot? = none) : setBelowRoot write scope path key rest v r =
      (Act.fail (.write (.nullRoot path.root.text)) : Act Unit) r := by
  rw [setBelowRoot,Step.bind_done reads,if_pos rfl,kind]

theorem setBelowRoot_missing (reads : root scope path r = (.done .null,r)) {name : String}
    (kind : path.root.kind.dataRoot? = some name) : setBelowRoot write scope path key rest v r = (do
      let made ← emptyFor key
      setRootValue name made
      descend write (.value made) key rest v) r := by
  rw [setBelowRoot,Step.bind_done reads,if_pos rfl,kind]

end

theorem putInto_reference {a : Address} (free : isFixed container = false)
    (held : r.store.member container key = .ref a) :
    putInto write container key v r = write a v r := by
  rw [putInto,Step.bind_done (Act.store_run r)]
  have bound {scope : Address} (held : r.store.contextKey scope (.text key.bindingName) = .ref a) :
      putBinding write scope key v r = write a v r := by
    rw [putBinding,Step.bind_done (Act.store_run r),held]
  cases container with
  | bindings scope => exact bound held
  | items items => exact congrFun (putItem_through held v) r
  | value u =>
    cases u with
    | context b => exact bound held
    | dict b =>
      have held : (r.store.dictAt b).get key.key = .ref a := held
      show putEntry write b key v r = _
      rw [putEntry,Step.bind_done (Act.store_run r),held]
    | list b => exact congrFun (putItem_through (show itemAt _ key = .ref a from held) v) r
    | tuple b => cases free
    | frozen b => cases free
    | _ => cases held

end

variable {r mid : Runtime} (closed : r.Closed) (steadfast : r.Steadfast) (acyclic : r.Acyclic)
  (roomier : r.Roomier mid) {fuel : Nat} (enough : depth r.store ≤ fuel) {v : Value}
  (present : v.Present mid.store) {key : Segment}
include closed steadfast acyclic roomier enough present

/-- A missing location that a handle names is given a container, which is then filled. -/
theorem openedThen_concurs {reads : Runtime → Address → Except Fault Spot} (looks : Looks reads)
    {a : Address} (inside : a < r.store.handles.size) (missing : reads r a = .ok .null)
    {next : Spot → Act Unit} (fills : ∀ made after, after.Blank key made →
      next (.value made) after = put (setWithin fuel) (.value made) key v after) :
    mid.Concur (openedThen (setWithin fuel) reads a key next mid)
      (filledLast (setWithin fuel) key v (setWithin fuel a) mid) := by
  have read := roomier.reads_eq looks inside
  obtain ⟨made,start,makes,furnished⟩ := emptyFor_made roomier.closed key
  have wide := roomier.trans furnished.toRoomier
  have le {s : Store} (sizes : ∀ shelf, start.store.sizeOf shelf ≤ s.sizeOf shelf) :
      mid.store.identity.Le s.identity := fun shelf b c linked => ⟨linked.1,Nat.lt_of_lt_of_le
    (furnished.growth.store shelf b linked.2).1 (sizes shelf)⟩
  have writes := setWithin_writes fuel
  rw [openedThen_missing (read.trans missing) makes,filledLast,Step.bind_done makes]
  refine .bind (.refl (le fun _ => Nat.le_refl _) ((writes True _ start start a a made made
    furnished.closed.twin ⟨rfl,(wide.growth.store .handle a inside).1⟩ fun _ =>
      furnished.blank.present).matched trivial)) fun link after otherAfter ran otherRan _ _ => ?_
  obtain rfl : after = otherAfter := (Prod.mk.inj (ran.symm.trans otherRan)).2
  obtain ⟨afterClosed,blank,sizes⟩ := blank_after roomier.toExtends furnished.growth furnished.closed
    furnished.blank furnished.lacks (fun _ _ twin le alike =>
      writes _ _ _ _ a a made made twin (le _ _ _ ⟨rfl,inside⟩) alike) ran
  have size : r.store.handles.size + 1 ≤ depth r.store := by unfold depth; omega
  have settled := ((interchange closed steadfast _ size (Nat.le_trans size enough)
    (Nat.le_trans size enough)).settles reads looks a (acyclic.nestsWithin a) inside missing mid key made
      start after roomier furnished ran).2
  have held : v.Present after.store := Value.Alike.mono (fun shelf b c linked => ⟨linked.1,
    Nat.lt_of_lt_of_le (furnished.growth.store shelf b linked.2).1 (sizes shelf)⟩) present
  rw [Step.bind_run,look_run]
  obtain leads | ⟨leads,beside,diagonal,wider,itself,apart⟩ := settled
  · rw [leads]
    have there : Spot.value made ≠ Spot.null := fun same => blank.plain.1 (Spot.value.inj same)
    show mid.Concur ((if Spot.value made = Spot.null then _ else next _ : Act Unit) after) _
    rw [if_neg there,fills made after blank]
    exact .refl (le sizes) ((put_ensues writes afterClosed.twin (fun _ : True => held)
      (.value blank.present) key).matched trivial)
  · rw [leads]
    obtain ⟨s,ran,but,puts,closes⟩ := put_blank (setWithin fuel) blank v
    rw [ran]
    refine .done wider ⟨itself.of_but diagonal blank apart but (closes afterClosed held).store.ordered,?_⟩
    exact (puts .handle).symm

omit closed steadfast acyclic enough in
/-- Filling a container that was not stored changes nothing. -/
theorem unplaced_concurs {place : Value → Act Unit}
    (stays : ∀ made start, emptyFor key mid = (.done made,start) → mid.Furnished key made start →
      place made start = (.done (),start)) :
    mid.Concur (.done (),mid) (filledLast (setWithin fuel) key v place mid) := by
  obtain ⟨made,start,makes,furnished⟩ := emptyFor_made roomier.closed key
  obtain ⟨s,ran,but,sizes,closes⟩ := put_blank (setWithin fuel) furnished.blank v
  rw [filledLast,Step.bind_done makes,Step.bind_done (stays made start makes furnished),ran]
  have after := closes furnished.closed (present.grew furnished.growth.store)
  refine .done (fun _ _ _ => id) ⟨roomier.closed.grew
    (furnished.growth.trans_but but furnished.lacks) after,?_⟩
  exact furnished.handles.symm.trans (sizes .handle).symm

/-- The last container may be made before it is known where it belongs. -/
theorem descend_last_concurs (replaceable : r.Replaceable) {container : Spot}
    (into : container.Alike r.store.identity container) {next : Segment}
    (missing : r.reach container [next] = .ok .null) :
    mid.Concur (descend (setWithin fuel) container next [key] v mid)
      (filledLast (setWithin fuel) key v (descend (setWithin fuel) container next []) mid) := by
  obtain ⟨settled,followed,onwards⟩ := Runtime.reach_cons missing
  obtain ⟨-,here,member⟩ := roomier.reads into followed
  by_cases nothing : r.store.member settled next = .null
  · cases fixed : isFixed settled with
    | true =>
      rw [descend_fixed _ here ((member next).trans nothing) fixed]
      refine unplaced_concurs roomier present fun made start _ furnished => ?_
      obtain ⟨-,there,-⟩ := (roomier.trans furnished.toRoomier).reads into followed
      have some : settled ≠ .null := by rintro rfl; cases fixed
      exact (put_settled there some).trans (putInto_fixed fixed next made)
    | false =>
      rw [descend_missing _ here ((member next).trans nothing) fixed]
      exact filledLast_descend (setWithin_writes fuel) roomier.closed present
        (into.mono roomier.growth.store.identity) []
  · obtain ⟨a,held⟩ := ref_of_missing onwards fun same => nothing (Spot.value.inj same)
    have held := Spot.value.inj held
    have linked := roomier.old.store.member (roomier.reads into followed).1 next
    rw [held] at linked onwards
    cases linked with
    | ref linked =>
      have free : isFixed settled = false := Bool.eq_false_iff.mpr fun fixed =>
        replaceable settled next a fixed held onwards
      rw [descend_found _ here (by rw [member]; exact nothing),member,held]
      have stores : filledLast (setWithin fuel) key v (descend (setWithin fuel) container next []) mid =
          filledLast (setWithin fuel) key v (setWithin fuel a) mid := by
        refine filledLast_congr fun made start makes => ?_
        obtain ⟨-,there,member⟩ := (roomier.making makes).reads into followed
        have some : settled ≠ .null := by rintro rfl; cases held
        exact (put_settled there some).trans
          (putInto_reference free ((member next).trans held))
      rw [stores]
      exact openedThen_concurs closed steadfast acyclic roomier enough present .resolve linked.2 onwards
        fun made after blank => (put_made _ blank).symm

/-- Where a path leads to nothing, the container of one more accessor may be made first, then stored there
and filled. -/
theorem descend_concurs (replaceable : r.Replaceable) (rest : List Segment) {container : Spot}
    (into : container.Alike r.store.identity container) {next : Segment}
    (missing : r.reach container (next :: rest) = .ok .null) :
    mid.Concur (descend (setWithin fuel) container next (rest ++ [key]) v mid)
      (filledLast (setWithin fuel) key v (descend (setWithin fuel) container next rest) mid) := by
  induction rest generalizing container next with
  | nil =>
    exact descend_last_concurs closed steadfast acyclic roomier enough present replaceable into missing
  | cons after rest ih =>
    obtain ⟨settled,followed,onwards⟩ := Runtime.reach_cons missing
    obtain ⟨settledInto,here,member⟩ := roomier.reads into followed
    have later (made : Value) (start : Runtime) (makes : emptyFor key mid = (.done made,start)) :
        container.follow start.resolve = .ok settled ∧
          start.store.member settled next = r.store.member settled next := by
      obtain ⟨-,there,member⟩ := (roomier.making makes).reads into followed
      exact ⟨there,member next⟩
    by_cases nothing : r.store.member settled next = .null
    · cases fixed : isFixed settled with
      | true =>
        rw [List.cons_append,descend_fixed _ here ((member next).trans nothing) fixed]
        refine unplaced_concurs roomier present fun made start makes _ => ?_
        obtain ⟨there,same⟩ := later made start makes
        exact descend_fixed _ there (same.trans nothing) fixed after rest made
      | false =>
        have stores : filledLast (setWithin fuel) key v
            (descend (setWithin fuel) container next (after :: rest)) mid =
              filledLast (setWithin fuel) key v (fun last => do
                let inner ← emptyFor after
                put (setWithin fuel) container next inner
                descend (setWithin fuel) (.value inner) after rest last) mid := by
          refine filledLast_congr fun made start makes => ?_
          obtain ⟨there,same⟩ := later made start makes
          exact descend_missing _ there (same.trans nothing) fixed after rest made
        rw [List.cons_append,descend_missing _ here ((member next).trans nothing) fixed,stores]
        have le := roomier.growth.store.identity
        exact made_early (setWithin_writes fuel) roomier.closed present
          (fun same link _ _ _ _ twin more alike => put_ensues (setWithin_writes fuel) twin alike
            (into.mono (le.trans more)) next)
          fun _ _ innerClosed more blank => descend_blank_last (setWithin_writes fuel) innerClosed
            (Value.Alike.mono more present) blank rest
    · have stores : filledLast (setWithin fuel) key v
          (descend (setWithin fuel) container next (after :: rest)) mid =
            filledLast (setWithin fuel) key v (descend (setWithin fuel)
              (.value (r.store.member settled next)) after rest) mid := by
        refine filledLast_congr fun made start makes => ?_
        obtain ⟨there,same⟩ := later made start makes
        rw [descend_found _ there (by rw [same]; exact nothing),same]
      rw [List.cons_append,descend_found _ here (by rw [member]; exact nothing),member,stores]
      exact ih (.value (roomier.old.store.member settledInto next)) onwards

omit closed steadfast acyclic enough present in
/-- Two writes that are refused for reasons of one class. -/
theorem refused_concurs {fault otherFault : Fault} (same : fault.className = otherFault.className)
    {place : Value → Act Unit} (refuses : ∀ made start, emptyFor key mid = (.done made,start) →
      place made start = (Act.fail otherFault : Act Unit) start) :
    mid.Concur ((Act.fail fault : Act Unit) mid) (filledLast (setWithin fuel) key v place mid) := by
  obtain ⟨made,start,makes,furnished⟩ := emptyFor_made roomier.closed key
  have failed {fault : Fault} {r : Runtime} (closed : r.Closed) :
      ({ r with store := (r.store.newFailure ⟨fault,none,none⟩).2 } : Runtime).Closed := by
    have same : Matches r.store.identity r r (fun _ _ _ => True) (Act.fail fault : Act Unit)
      (Act.fail fault : Act Unit) := .fail closed.twin fault
    exact same.closed _ (Act.fail_run fault r)
  have grown (fault : Fault) (r : Runtime) :
      r.Grew { r with store := (r.store.newFailure ⟨fault,none,none⟩).2 } :=
    ⟨.of_adds (r.store.newFailure_adds _),rfl⟩
  have raised (fault : Fault) (s : Store) :
      (s.newFailure ⟨fault,none,none⟩).2.failureAt s.failures.size = ⟨fault,none,none⟩ :=
    Object.failure.inj (s.newFailure_adds ⟨fault,none,none⟩).object
  have refused : (place made >>= fun _ => put (setWithin fuel) (.value made) key v) start =
      (.raised _,_) := Step.bind_raised ((refuses made start makes).trans (Act.fail_run otherFault start))
  rw [filledLast,Step.bind_done makes,refused,Act.fail_run]
  refine ⟨_,fun _ _ _ => id,⟨?_,?_⟩,.raised ?_⟩
  · exact (roomier.closed.grew (furnished.growth.trans (grown otherFault start))
      (failed furnished.closed)).of_grew_left (grown fault mid) (failed roomier.closed).store.ordered
  · exact furnished.handles.symm
  · show ((mid.store.newFailure ⟨fault,none,none⟩).2.failureAt mid.store.failures.size).fault.className =
      ((start.store.newFailure ⟨otherFault,none,none⟩).2.failureAt start.store.failures.size).fault.className
    rw [raised,raised]
    exact same

/-- The root of the path is written where another value can be put, or it holds no reference to a missing
location. -/
def Rooted (r : Runtime) (scope : Address) (path : Path) : Prop :=
  path.root.kind.dataRoot? = none → ∀ a, r.rootSpot scope path.root = .ok (.value (.ref a)) →
    r.resolve a ≠ .ok .null

section

variable {scope : Address} (inside : scope < r.store.scopes.size) {path : Path} {start : Spot}
  (found : r.rootSpot scope path.root = .ok start)
include inside found

omit closed steadfast acyclic enough present in
theorem root_found (other : Path) (same : other.root = path.root) :
    root scope other mid = (.done start,mid) := by
  rw [root_grew roomier inside,same,found]
  rfl

/-- A root that leads to nothing may be given its container at once. -/
theorem setRoot_concurs (rooted : Rooted r scope path) (missing : r.reach start [] = .ok .null) :
    mid.Concur (setBelowRoot (setWithin fuel) scope (path.below [key]) key [] v mid)
      (filledLast (setWithin fuel) key v (setRootPath (setWithin fuel) path) mid) := by
  have reads : root scope (path.below [key]) mid = (.done start,mid) :=
    root_found roomier inside found (path.below [key]) rfl
  have roots {name : String} (made : Value) (s : Runtime) (makes : emptyFor key mid = (.done made,s)) :
      s.rootValue? name = r.rootValue? name := by
    rw [Runtime.rootValue?,(roomier.making makes).growth.roots]
    rfl
  by_cases nothing : start = .null
  · rw [nothing] at reads
    cases kind : path.root.kind.dataRoot? with
    | none =>
      have sameClass : Fault.className (.write (.nullRoot path.root.text)) =
        Fault.className (.write (.fixedRoot path.root.text)) := rfl
      rw [setBelowRoot_refused reads kind]
      exact refused_concurs roomier sameClass fun made s makes => setRootPath_fixed kind
    | some name =>
      have held := Runtime.rootSpot_dataRoot kind found
      have stores : filledLast (setWithin fuel) key v (setRootPath (setWithin fuel) path) mid =
          filledLast (setWithin fuel) key v (setRootValue name) mid := by
        refine filledLast_congr fun made s makes => setRootPath_plain kind fun a there => ?_
        rw [roots made s makes] at there
        rw [nothing,there] at held
        cases held
      rw [stores,setBelowRoot_missing reads kind]
      exact .refl (fun _ _ _ => id) (filledLast_matches (setWithin_writes fuel) roomier.closed.twin present
        fun _ _ _ _ twin same => (setRootValue_ensues twin (fun _ : True => same) name).matched trivial)
  · rw [setBelowRoot_found reads nothing]
    obtain ⟨a,rfl⟩ := ref_of_missing missing nothing
    cases kind : path.root.kind.dataRoot? with
    | none => exact absurd missing (rooted kind a found)
    | some name =>
      have held := Runtime.rootSpot_dataRoot kind found
      have value : r.rootValue? name = some (.ref a) := by
        cases there : r.rootValue? name with
        | none =>
          rw [there] at held
          cases held
        | some w =>
          rw [there] at held
          cases held
          rfl
      have linked := closed.rootHeld value
      have stores : filledLast (setWithin fuel) key v (setRootPath (setWithin fuel) path) mid =
          filledLast (setWithin fuel) key v (setWithin fuel a) mid :=
        filledLast_congr fun made s makes =>
          setRootPath_reference kind ((roots made s makes).trans value)
      rw [stores]
      cases linked with
      | ref linked =>
        exact openedThen_concurs closed steadfast acyclic roomier enough present .resolve linked.2 missing
          fun made after blank => (put_made _ blank).symm

theorem setBelowRoot_concurs (replaceable : r.Replaceable) {next : Segment} {rest : List Segment}
    (missing : r.reach start (next :: rest) = .ok .null) :
    mid.Concur (setBelowRoot (setWithin fuel) scope (path.below [key]) next (rest ++ [key]) v mid)
      (filledLast (setWithin fuel) key v (setBelowRoot (setWithin fuel) scope path next rest) mid) := by
  have reads : root scope (path.below [key]) mid = (.done start,mid) :=
    root_found roomier inside found (path.below [key]) rfl
  have later (made : Value) (s : Runtime) (makes : emptyFor key mid = (.done made,s)) :
      root scope path s = (.done start,s) := root_found (roomier.making makes) inside found path rfl
  by_cases nothing : start = .null
  · subst nothing
    cases kind : path.root.kind.dataRoot? with
    | none =>
      rw [setBelowRoot_refused reads kind]
      exact refused_concurs roomier rfl fun made s makes => setBelowRoot_refused (later made s makes) kind
    | some name =>
      have stores : filledLast (setWithin fuel) key v
          (setBelowRoot (setWithin fuel) scope path next rest) mid =
            filledLast (setWithin fuel) key v (fun last => do
              let made ← emptyFor next
              setRootValue name made
              descend (setWithin fuel) (.value made) next rest last) mid :=
        filledLast_congr fun made s makes => setBelowRoot_missing (later made s makes) kind
      rw [stores,setBelowRoot_missing reads kind]
      exact made_early (setWithin_writes fuel) roomier.closed present
        (fun same link _ _ _ _ twin more alike => setRootValue_ensues twin alike name)
        fun _ _ innerClosed more blank => descend_blank_last (setWithin_writes fuel) innerClosed
          (Value.Alike.mono more present) blank rest
  · have stores : filledLast (setWithin fuel) key v (setBelowRoot (setWithin fuel) scope path next rest) mid =
        filledLast (setWithin fuel) key v (descend (setWithin fuel) start next rest) mid :=
      filledLast_congr fun made s makes => setBelowRoot_found (later made s makes) nothing
    rw [stores,setBelowRoot_found reads nothing]
    have agree := Runtime.Alike.rootSpot closed ⟨rfl,inside⟩ path.root
    rw [found] at agree
    cases agree with
    | ok into =>
      exact descend_concurs closed steadfast acyclic roomier enough present replaceable rest into missing

end

/-- Where a path leads to nothing, a write one accessor further may make the last container first. -/
theorem setPathValue_concurs (replaceable : r.Replaceable) {scope : Address}
    (inside : scope < r.store.scopes.size) {path : Path} (opened : Open r path)
    (rooted : path.segments = [] → Rooted r scope path) (missing : r.readPath scope path = .ok .null) :
    mid.Concur (setPathValue (setWithin fuel) scope (path.below [key]) false v mid)
      (filledLast (setWithin fuel) key v (setPathValue (setWithin fuel) scope path false) mid) := by
  obtain ⟨start,found,onwards⟩ : ∃ start, r.rootSpot scope path.root = .ok start ∧
      r.reach start path.segments = .ok .null := ok_of_bind missing
  have still : Open mid (path.below [key]) := opened.roomier roomier
  have later (made : Value) (s : Runtime) (makes : emptyFor key mid = (.done made,s)) : Open s path :=
    opened.roomier (roomier.making makes)
  cases keys : path.segments with
  | nil =>
    have below : (path.below [key]).segments = [key] := congrArg (· ++ [key]) keys
    have stores : filledLast (setWithin fuel) key v (setPathValue (setWithin fuel) scope path false) mid =
        filledLast (setWithin fuel) key v (setRootPath (setWithin fuel) path) mid :=
      filledLast_congr fun made s makes => setPathValue_root (later made s makes) keys
    rw [keys] at onwards
    rw [stores,setPathValue_below still below]
    exact setRoot_concurs closed steadfast acyclic roomier enough present inside found (rooted keys) onwards
  | cons next rest =>
    have below : (path.below [key]).segments = next :: (rest ++ [key]) := congrArg (· ++ [key]) keys
    have stores : filledLast (setWithin fuel) key v (setPathValue (setWithin fuel) scope path false) mid =
        filledLast (setWithin fuel) key v (setBelowRoot (setWithin fuel) scope path next rest) mid :=
      filledLast_congr fun made s makes => setPathValue_below (later made s makes) keys
    rw [keys] at onwards
    rw [stores,setPathValue_below still below]
    exact setBelowRoot_concurs closed steadfast acyclic roomier enough present inside found replaceable
      onwards

end Reference
end PageRuntime
