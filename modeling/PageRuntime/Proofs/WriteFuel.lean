import PageRuntime.Proofs.LinkAlgebra
import PageRuntime.Proofs.ReferenceChains
import PageRuntime.Proofs.Landings

/-! How deep writes go. A write enters handles as a reading does, as long as what is missing leads to the
container that it is given. So more fuel than a reading needs makes no difference to a write. -/
namespace PageRuntime

namespace Runtime
open PageRuntime.Reference (emptyFor)

/-- Nothing that was there leads to the value. -/
def Astray (r after : Runtime) (v : Value) : Prop :=
  ∃ link : Link, link.Diagonal ∧ r.store.identity.Le link ∧ after.Alike link after ∧ ¬ v.Alike link v

/-- A handle that led to nothing has been given a container. It leads there from then on, or still to
nothing, and so does everything else. -/
def Settled (r after : Runtime) (found : Except Fault Spot) (made : Value) : Prop :=
  found = .ok (.value made) ∨ found = .ok .null ∧ r.Astray after made

/-- No handle that leads to nothing is retargeted by giving it a container. -/
def Steadfast (r : Runtime) : Prop :=
  ∀ reads, Looks reads → ∀ a, a < r.store.handles.size → reads r a = .ok .null →
    ∀ key made mid after, emptyFor key r = (.done made,mid) →
      Reference.set a made mid = (.done (),after) → r.Settled after (reads after a) made

/-- The handles that are entered to read a handle or to write through it. -/
def enters (r : Runtime) (a : Address) : List Address := r.leads a ++
  match r.store.handleAt a with
  | .path _ path _ =>
    match path.root.kind.dataRoot?.bind r.rootValue? with
    | some (.ref b) => [b]
    | _ => []
  | _ => []

/-- No handle is entered to read or write itself. -/
def Acyclic (r : Runtime) : Prop := ∀ a, ¬ Relation.TransGen (HasPart r.enters) a a

theorem Acyclic.of_older {r : Runtime}
    (older : ∀ a < r.store.handles.size, ∀ b ∈ r.enters a, b < a) : r.Acyclic := by
  have below (a b : Address) (entered : HasPart r.enters a b) : b < a := by
    by_cases inside : a < r.store.handles.size
    · exact older a inside b entered
    · rw [HasPart,enters,leads,r.handleAt_outside (Nat.not_lt.mp inside)] at entered
      cases entered
  have falls (a b : Address) (way : Relation.TransGen (HasPart r.enters) a b) : b < a := by
    induction way with
    | single entered => exact below _ _ entered
    | tail _ entered ih => exact Nat.lt_trans (below _ _ entered) ih
  exact fun a loop => Nat.lt_irrefl a (falls a a loop)

theorem Acyclic.nestsWithin {r : Runtime} (acyclic : r.Acyclic) (a : Address) :
    NestsWithin r.enters (r.store.handles.size + 1) a := by
  have unlooped : Unlooped r.enters a := fun b _ => acyclic b
  have nests := unlooped.nestsWithin_succ (List.range r.store.handles.size) fun b _ => by
    by_cases inside : b < r.store.handles.size
    · exact .inl (List.mem_range.mpr inside)
    · rw [enters,leads,r.handleAt_outside (Nat.not_lt.mp inside)]
      exact .inr rfl
  rwa [List.length_range] at nests

/-- What a handle gives when it is asked for its value lies behind it, or is a reference that the handle is
read through. -/
theorem readWithin_cases {r : Runtime} (fuel : Nat) {a : Address} {spot : Spot}
    (ran : r.readWithin fuel a = .ok spot) : r.resolve a = .ok spot ∨
      ∃ b, spot = .value (.ref b) ∧ r.resolve a = r.resolve b ∧
        ∀ n, NestsWithin r.enters n a → NestsWithin r.enters n b := by
  induction fuel generalizing a with
  | zero => cases ran
  | succ fuel ih =>
    have entered (b : Address) (asked : b ∈ r.asks r.resolve (r.store.handleAt a)) (n : Nat)
        (nests : NestsWithin r.enters n a) : NestsWithin r.enters n b := by
      cases n with
      | zero => cases nests
      | succ n => exact (nests b (List.mem_append_left _ asked)).mono (Nat.le_succ n)
    rw [readWithin] at ran
    split at ran
    · next v label here =>
      obtain rfl := Except.ok.inj ran
      rw [here] at entered
      have resolves : r.resolve a = (Spot.value v).follow r.resolve := by rw [r.resolve_eq,here]; rfl
      by_cases behind : ∃ b, v = .ref b
      · obtain ⟨b,rfl⟩ := behind
        exact .inr ⟨b,rfl,resolves,entered b (List.mem_singleton_self b)⟩
      · exact .inl (resolves.trans (Spot.follow_plain _ fun b same => behind ⟨b,same⟩))
    · next inner here =>
      rw [here] at entered
      have resolves : r.resolve a = r.resolve inner := by rw [r.resolve_eq,here]; rfl
      obtain same | ⟨b,rfl,same,nests⟩ := ih ran
      · exact .inl (resolves.trans same)
      · exact .inr ⟨b,rfl,resolves.trans same,fun n within =>
          nests n (entered inner (List.mem_singleton_self inner) n within)⟩
    · exact .inl ran

/-- A closed runtime with more objects than another closed one, but no more handles. -/
structure Roomier (r mid : Runtime) : Prop extends r.Extends mid where
  handles : mid.store.handles.size = r.store.handles.size

/-- A blank container has been made. -/
structure Furnished (r : Runtime) (key : Segment) (made : Value) (mid : Runtime) : Prop extends
    r.Roomier mid where
  blank : mid.Blank key made
  lacks : r.Lacks made

theorem Closed.roomier {r : Runtime} (closed : r.Closed) : r.Roomier r := ⟨closed.extends,rfl⟩

namespace Roomier

variable {r mid after : Runtime} (roomier : r.Roomier mid)
include roomier

theorem trans (more : mid.Roomier after) : r.Roomier after :=
  ⟨roomier.toExtends.grew more.growth more.closed,more.handles.trans roomier.handles⟩

theorem twin_old : r.Twin r.store.identity mid :=
  ⟨roomier.old.grew roomier.growth roomier.closed,roomier.handles.symm⟩

end Roomier

end Runtime

namespace Reference
open PageRuntime.Runtime (Looks Roomier Furnished Steadfast)

theorem emptyFor_made {r : Runtime} (closed : r.Closed) (key : Segment) :
    ∃ made mid, emptyFor key r = (.done made,mid) ∧ r.Furnished key made mid := by
  obtain ⟨made,s,makes,growth,blank,lacks,-,closes⟩ := emptyFor_run key r
  have handles : (emptyFor key r).2.store.handles = r.store.handles := by cases key <;> rfl
  rw [makes] at handles
  exact ⟨made,_,makes,⟨⟨⟨closed,growth,closes closed⟩,congrArg _ handles⟩,blank,lacks⟩⟩

theorem emptyFor_furnishes {r mid : Runtime} (closed : r.Closed) {key : Segment} {made : Value}
    (makes : emptyFor key r = (.done made,mid)) : r.Furnished key made mid := by
  obtain ⟨_,_,ran,furnished⟩ := emptyFor_made closed key
  cases makes.symm.trans ran
  exact furnished

theorem root_grew {r mid : Runtime} (roomier : r.Roomier mid) {scope : Address}
    (inside : scope < r.store.scopes.size) (path : Path) :
    root scope path mid = (Act.ofExcept (r.rootSpot scope path.root) : Act Spot) mid := by
  rw [root,Step.bind_done (Step.read_run mid),
    Runtime.rootSpot_grew roomier.old roomier.growth roomier.closed inside]

section Same

variable {write other : Address → Value → Act Unit} {key : Segment} {v : Value} {r : Runtime}

/-- Only what is written through depends on how handles are written. -/
theorem putItem_same {items : List Value} (store : List Value → Act Unit)
    (same : ∀ x, itemAt items key = .ref x → write x v r = other x v r) :
    putItem write items store key v r = putItem other items store key v r := by
  cases key with
  | field name => rfl
  | index place =>
    unfold putItem
    dsimp only
    cases placed : placeOf? items.length place with
    | none => rfl
    | some place =>
      have held (x : Address) (here : items[place]? = some (.ref x)) : write x v r = other x v r := by
        refine same x ?_
        simp only [itemAt,placed,Option.bind_some,here]
        rfl
      dsimp only
      generalize items[place]? = found at held
      cases found with
      | none => rfl
      | some w =>
        cases w with
        | ref x => exact held x rfl
        | _ => rfl

theorem putBinding_same {scope : Address}
    (same : ∀ x, r.store.contextKey scope (.text key.bindingName) = .ref x → write x v r = other x v r) :
    putBinding write scope key v r = putBinding other scope key v r := by
  rw [putBinding,putBinding,Step.bind_done (Act.store_run r),Step.bind_done (Act.store_run r)]
  generalize r.store.contextKey scope (.text key.bindingName) = held at same
  cases held with
  | ref x => exact same x rfl
  | _ => rfl

theorem putEntry_same {a : Address}
    (same : ∀ x, (r.store.dictAt a).get key.key = .ref x → write x v r = other x v r) :
    putEntry write a key v r = putEntry other a key v r := by
  rw [putEntry,putEntry,Step.bind_done (Act.store_run r),Step.bind_done (Act.store_run r)]
  generalize (r.store.dictAt a).get key.key = held at same
  cases held with
  | ref x => exact same x rfl
  | _ => rfl

theorem putInto_same {container : Spot}
    (same : ∀ x, r.store.member container key = .ref x → write x v r = other x v r) :
    putInto write container key v r = putInto other container key v r := by
  rw [putInto,putInto,Step.bind_done (Act.store_run r),Step.bind_done (Act.store_run r)]
  cases container with
  | bindings scope => exact putBinding_same same
  | items items => exact putItem_same _ same
  | value u =>
    cases u with
    | context a => exact putBinding_same same
    | dict a => exact putEntry_same same
    | list a => exact putItem_same _ same
    | _ => rfl

theorem put_made (write : Address → Value → Act Unit) {made : Value} (blank : r.Blank key made) :
    put write (.value made) key v r = putInto write (.value made) key v r := by
  have plain (a : Address) : Spot.value made ≠ .value (.ref a) := fun same =>
    blank.plain.2.1 a (Spot.value.inj same)
  rw [put_plain write plain]

theorem put_blank_same {made : Value} (blank : r.Blank key made) :
    put write (.value made) key v r = put other (.value made) key v r := by
  rw [put_made write blank,put_made other blank]
  refine putInto_same fun x here => ?_
  rw [blank.member key] at here
  cases here

theorem descend_blank_same {made : Value} (blank : r.Blank key made) (rest : List Segment) :
    descend write (.value made) key rest v r = descend other (.value made) key rest v r := by
  induction rest generalizing r key made with
  | nil => exact put_blank_same blank
  | cons next rest ih =>
    have followed := Spot.follow_plain r.resolve blank.plain.2.1
    obtain ⟨inner,s,makes,grew,innerBlank,lacks,-,-⟩ := emptyFor_run next r
    obtain ⟨t,puts,but,-⟩ := put_blank write (blank.grew grew) inner
    obtain ⟨shelf,a,here,inside⟩ := blank.inside
    have differ : made.spot? ≠ inner.spot? := by
      intro same
      exact absurd inside (Nat.not_lt.mpr (lacks shelf a (same.symm.trans here)))
    rw [descend_missing write followed (blank.member key) blank.plain.2.2,
      descend_missing other followed (blank.member key) blank.plain.2.2,Step.bind_done makes,
      Step.bind_done makes,Step.bind_done puts,
      Step.bind_done ((put_blank_same (blank.grew grew)).symm.trans puts)]
    exact ih (innerBlank.but but differ)

end Same

/-- The way to write that `opened` is followed by. -/
def openedThen (write : Address → Value → Act Unit) (reads : Runtime → Address → Except Fault Spot)
    (a : Address) (key : Segment) (next : Spot → Act Unit) : Act Unit := do
  let target ← opened write a (look reads a) key
  if target = Spot.null then return () else next target

section Opened

variable {write : Address → Value → Act Unit} {reads : Runtime → Address → Except Fault Spot}
  {a : Address} {key : Segment} {next : Spot → Act Unit} {r : Runtime}

theorem look_run (reads : Runtime → Address → Except Fault Spot) (a : Address) (r : Runtime) :
    look reads a r = (Act.ofExcept (reads r a) : Act Spot) r := by
  rw [look,Step.bind_done (Step.read_run r)]

theorem openedThen_error {fault : Fault} (failed : reads r a = .error fault) :
    openedThen write reads a key next r = (Act.fail fault : Act Unit) r := by
  have looked : look reads a r = (Act.fail fault : Act Spot) r := by rw [look_run,failed]; rfl
  rw [openedThen,opened,Step.bind_assoc,Step.bind_run,looked]
  rfl

theorem openedThen_found {spot : Spot} (found : reads r a = .ok spot) (there : spot ≠ .null) :
    openedThen write reads a key next r = next spot r := by
  have looked : look reads a r = (.done spot,r) := by rw [look_run,found]; rfl
  rw [openedThen,Step.bind_done (opened_found write looked there a key),if_neg there]

theorem openedThen_missing {made : Value} {mid : Runtime} (missing : reads r a = .ok .null)
    (makes : emptyFor key r = (.done made,mid)) : openedThen write reads a key next r = (do
      write a made
      let target ← look reads a
      if target = Spot.null then return () else next target) mid := by
  have looked : look reads a r = (.done Spot.null,r) := by rw [look_run,missing]; rfl
  rw [openedThen,opened,Step.bind_assoc,Step.bind_done looked,if_pos rfl,Step.bind_assoc,
    Step.bind_done makes,Step.bind_assoc]

end Opened

/-- Two ways to write do the same with the handles that some steps of reading are enough for, and none
of these is retargeted. -/
structure Interchange (r : Runtime) (n fuel more : Nat) : Prop where
  same : ∀ a, NestsWithin r.enters n a → a < r.store.handles.size → ∀ mid v, r.Roomier mid →
    v.Present mid.store → setWithin fuel a v mid = setWithin more a v mid
  settles : ∀ reads, Looks reads → ∀ a, NestsWithin r.enters n a → a < r.store.handles.size →
    reads r a = .ok .null → ∀ mid key made start after, r.Roomier mid → mid.Furnished key made start →
      setWithin fuel a made start = (.done (),after) →
        after.Blank key made ∧ mid.Settled after (reads after a) made

namespace Interchange

variable {r mid : Runtime} {n fuel more : Nat}
  (interchange : Interchange r n fuel more) (roomier : r.Roomier mid)
include interchange roomier

theorem openedThen_same {reads : Runtime → Address → Except Fault Spot} (looks : Looks reads)
    {a : Address} (nests : NestsWithin r.enters n a) (inside : a < r.store.handles.size)
    (key : Segment) {next otherNext : Spot → Act Unit}
    (found : ∀ spot, reads r a = .ok spot → spot ≠ .null → next spot mid = otherNext spot mid)
    (filled : ∀ made after, after.Blank key made →
      next (.value made) after = otherNext (.value made) after) :
    openedThen (setWithin fuel) reads a key next mid = openedThen (setWithin more) reads a key otherNext mid := by
  have read := roomier.reads_eq looks inside
  cases reading : reads r a with
  | error fault =>
    rw [openedThen_error (read.trans reading),openedThen_error (read.trans reading)]
  | ok spot =>
    by_cases there : spot = .null
    · subst there
      obtain ⟨made,s,makes,furnished⟩ := emptyFor_made roomier.closed key
      have wide := roomier.trans furnished.toRoomier
      rw [openedThen_missing (read.trans reading) makes,openedThen_missing (read.trans reading) makes,
        Step.bind_run,Step.bind_run,
        ← interchange.same a nests inside s made wide furnished.blank.present]
      cases wrote : setWithin fuel a made s with
      | mk ending after =>
        cases ending with
        | raised f => rfl
        | exhausted => rfl
        | done u =>
          obtain ⟨blank,settled⟩ := interchange.settles reads looks a nests inside reading mid key made s
            after roomier furnished wrote
          dsimp only
          rw [Step.bind_run,Step.bind_run,look_run]
          obtain leads | ⟨leads,-⟩ := settled
          · rw [leads]
            have there : Spot.value made ≠ Spot.null := fun same => blank.plain.1 (Spot.value.inj same)
            show (if Spot.value made = Spot.null then _ else next _ : Act Unit) after =
              (if Spot.value made = Spot.null then _ else otherNext _ : Act Unit) after
            rw [if_neg there,if_neg there]
            exact filled made after blank
          · rw [leads]
            rfl
    · rw [openedThen_found (read.trans reading) there,openedThen_found (read.trans reading) there]
      exact found spot reading there

variable {v : Value} (held : v.Present mid.store)
include held

theorem putInto_same {container : Spot} (present : container.Alike r.store.identity container)
    {key : Segment} (nests : ∀ a, r.store.member container key = .ref a → NestsWithin r.enters n a) :
    putInto (setWithin fuel) container key v mid = putInto (setWithin more) container key v mid := by
  refine Reference.putInto_same fun a here => ?_
  rw [Store.member_grew roomier.old roomier.growth present roomier.closed] at here
  have inside := roomier.old.store.member present key
  rw [here] at inside
  cases inside with
  | ref linked => exact interchange.same a (nests a here) linked.2 mid v roomier held

omit interchange roomier held in
theorem putInto_blank_same {made : Value} {key : Segment} (blank : mid.Blank key made) :
    putInto (setWithin fuel) (.value made) key v mid = putInto (setWithin more) (.value made) key v mid :=
  Reference.putInto_same fun a here => by rw [blank.member key] at here; cases here

theorem put_same {container : Spot} (present : container.Alike r.store.identity container)
    {key : Segment}
    (nests : ∀ a ∈ container.askedOn r.resolve r.store [key], NestsWithin r.enters n a) :
    put (setWithin fuel) container key v mid = put (setWithin more) container key v mid := by
  rw [Spot.askedOn] at nests
  have into {settled : Spot} (followed : container.follow r.resolve = .ok settled)
      (present : settled.Alike r.store.identity settled) :
      putInto (setWithin fuel) settled key v mid = putInto (setWithin more) settled key v mid := by
    refine putInto_same interchange roomier held present fun a here => nests a ?_
    rw [Spot.step,followed]
    refine List.mem_append_right _ ?_
    show a ∈ (Spot.value (r.store.member settled key)).asked
    rw [here]
    exact List.mem_singleton_self a
  by_cases behind : ∃ a, container = .value (.ref a)
  · obtain ⟨a,rfl⟩ := behind
    have inside : a < r.store.handles.size := by
      cases present with
      | value present =>
        cases present with
        | ref linked => exact linked.2
    refine interchange.openedThen_same roomier .resolve
      (nests a (List.mem_append_left _ (List.mem_singleton_self a))) inside key
      (fun spot found _ => into found ?_) fun made after blank => putInto_blank_same blank
    exact Looks.resolve.present roomier.old inside found
  · have plain (a : Address) : container ≠ .value (.ref a) := fun same => behind ⟨a,same⟩
    rw [put_plain _ plain,put_plain _ plain]
    exact into (Spot.follow_direct r.resolve plain) present

theorem descend_same (rest : List Segment) {container : Spot}
    (present : container.Alike r.store.identity container) {key : Segment}
    (nests : ∀ a ∈ container.askedOn r.resolve r.store (key :: rest), NestsWithin r.enters n a) :
    descend (setWithin fuel) container key rest v mid = descend (setWithin more) container key rest v mid := by
  induction rest generalizing container key with
  | nil => exact put_same interchange roomier held present nests
  | cons next rest ih =>
    have follows := Runtime.follow_grew roomier.old roomier.growth roomier.closed present
    cases followed : container.follow r.resolve with
    | error fault =>
      have failed : step container key mid = (Act.fail fault : Act Value) mid := by
        rw [step,Step.bind_done (Step.read_run mid),Spot.step,follows,followed]
        rfl
      rw [descend,descend,Step.bind_run,Step.bind_run,failed]
      rfl
    | ok settled =>
      have settledPresent : settled.Alike r.store.identity settled := by
        have agree := present.follow fun _ _ => roomier.old.resolve
        rw [followed] at agree
        cases agree with
        | ok present => exact present
      have member := Store.member_grew roomier.old roomier.growth settledPresent roomier.closed key
      have reached : container.follow mid.resolve = .ok settled := follows.trans followed
      have askedNext : container.askedOn r.resolve r.store (key :: next :: rest) =
          container.asked ++
            (Spot.value (r.store.member settled key)).askedOn r.resolve r.store (next :: rest) := by
        rw [Spot.askedOn,Spot.step,followed]
        rfl
      rw [askedNext] at nests
      by_cases missing : mid.store.member settled key = .null
      · cases fixed : isFixed settled with
        | true => rw [descend_fixed _ reached missing fixed,descend_fixed _ reached missing fixed]
        | false =>
          rw [descend_missing _ reached missing fixed,descend_missing _ reached missing fixed]
          obtain ⟨made,s,makes,furnished⟩ := emptyFor_made roomier.closed next
          have wide := roomier.trans furnished.toRoomier
          rw [Step.bind_done makes,Step.bind_done makes,Step.bind_run,Step.bind_run]
          have puts : put (setWithin fuel) container key made s = put (setWithin more) container key made s := by
            refine put_same interchange wide furnished.blank.present present fun a asked => ?_
            rw [Spot.askedOn,Spot.step,followed] at asked
            refine nests a ?_
            obtain above | below := List.mem_append.mp asked
            · exact List.mem_append_left _ above
            · refine List.mem_append_right _ ?_
              rw [Spot.askedOn]
              exact List.mem_append_left _ below
          rw [← puts]
          cases put_ran : put (setWithin fuel) container key made s with
          | mk ending after =>
            cases ending with
            | raised f => rfl
            | exhausted => rfl
            | done u =>
              obtain ⟨-,blank,-⟩ := blank_after roomier.toExtends furnished.growth furnished.closed
                furnished.blank furnished.lacks (fun same link twin le alike =>
                  put_ensues (setWithin_writes fuel) twin alike (present.mono le) key) put_ran
              exact descend_blank_same blank rest
      · rw [descend_found _ reached missing,descend_found _ reached missing,member]
        exact ih (.value (roomier.old.store.member settledPresent key)) fun a asked =>
          nests a (List.mem_append_right _ asked)

theorem setRootPath_same {path : Path}
    (nests : ∀ a, path.root.kind.dataRoot?.bind r.rootValue? = some (.ref a) → NestsWithin r.enters n a) :
    setRootPath (setWithin fuel) path v mid = setRootPath (setWithin more) path v mid := by
  rw [setRootPath,setRootPath]
  cases kind : path.root.kind.dataRoot? with
  | none => rfl
  | some name =>
    rw [kind] at nests
    have roots : mid.rootValue? name = r.rootValue? name := by
      rw [Runtime.rootValue?,roomier.growth.roots]
      rfl
    dsimp only
    rw [Step.bind_done (Step.read_run mid),Step.bind_done (Step.read_run mid),roots]
    cases found : r.rootValue? name with
    | none => rfl
    | some w =>
      cases w with
      | ref a =>
        have inside := roomier.old.rootHeld found
        cases inside with
        | ref linked => exact interchange.same a (nests a found) linked.2 mid v roomier held
      | _ => rfl

theorem setBelowRoot_same {scope : Address} (inside : scope < r.store.scopes.size) {path : Path}
    {key : Segment} {rest : List Segment}
    (nests : ∀ start, r.rootSpot scope path.root = .ok start →
      ∀ a ∈ start.askedOn r.resolve r.store (key :: rest), NestsWithin r.enters n a) :
    setBelowRoot (setWithin fuel) scope path key rest v mid =
      setBelowRoot (setWithin more) scope path key rest v mid := by
  rw [setBelowRoot,setBelowRoot,Step.bind_run,Step.bind_run,root_grew roomier inside]
  cases found : r.rootSpot scope path.root with
  | error fault => rfl
  | ok start =>
    show (if start = Spot.null then _ else descend (setWithin fuel) start key rest v : Act Unit) mid =
      (if start = Spot.null then _ else descend (setWithin more) start key rest v : Act Unit) mid
    by_cases missing : start = .null
    · rw [if_pos missing,if_pos missing]
      cases path.root.kind.dataRoot? with
      | none => rfl
      | some name =>
        obtain ⟨made,s,makes,furnished⟩ := emptyFor_made roomier.closed key
        dsimp only
        rw [Step.bind_done makes,Step.bind_done makes]
        exact descend_blank_same (r := s.setRoot name made) furnished.blank rest
    · rw [if_neg missing,if_neg missing]
      have agree := Runtime.Alike.rootSpot roomier.old ⟨rfl,inside⟩ path.root
      rw [found] at agree
      cases agree with
      | ok present => exact descend_same interchange roomier held rest present (nests start found)

theorem setPathValue_same {scope : Address} (inside : scope < r.store.scopes.size) {path : Path}
    {locked : Bool} {a : Address} (here : r.store.handleAt a = .path scope path locked)
    (nests : NestsWithin r.enters (n + 1) a) :
    setPathValue (setWithin fuel) scope path locked v mid =
      setPathValue (setWithin more) scope path locked v mid := by
  have leads : r.leads a = r.asks r.resolve (.path scope path locked) := by rw [Runtime.leads,here]
  rw [setPathValue,setPathValue,Step.bind_run,Step.bind_run]
  cases locking : isLocked path locked mid with
  | mk ending after =>
    cases ending with
    | raised f => rfl
    | exhausted => rfl
    | done shut =>
      obtain rfl := isLocked_still locking
      dsimp only
      cases shut with
      | true => rfl
      | false =>
        rw [if_neg Bool.false_ne_true,if_neg Bool.false_ne_true]
        cases keys : path.segments with
        | nil =>
          refine setRootPath_same interchange roomier held fun b root => nests b ?_
          rw [Runtime.enters,here]
          refine List.mem_append_right _ ?_
          dsimp only
          rw [root]
          exact List.mem_singleton_self b
        | cons key rest =>
          refine setBelowRoot_same interchange roomier held inside fun start found b asked =>
            nests b (List.mem_append_left _ ?_)
          rw [leads,Runtime.asks,found,keys]
          exact asked

theorem setBelow_same {parent a : Address} {key : Segment}
    (here : r.store.handleAt a = .sub parent key) (nests : NestsWithin r.enters (n + 1) a)
    (inside : parent < r.store.handles.size) :
    setBelow (setWithin fuel) parent key v mid = setBelow (setWithin more) parent key v mid := by
  have leads : r.leads a = r.asks r.resolve (.sub parent key) := by rw [Runtime.leads,here]
  have nestsParent : NestsWithin r.enters n parent := by
    refine nests parent (List.mem_append_left _ ?_)
    rw [leads]
    exact List.mem_cons_self
  refine interchange.openedThen_same roomier .read nestsParent inside key (fun spot found there => ?_)
    fun made after blank => put_blank_same blank
  have present := Looks.read.present roomier.old inside found
  have behind : spot.follow r.resolve = r.resolve parent ∧
      ∀ b ∈ spot.asked, NestsWithin r.enters n b := by
    obtain settled | ⟨b,rfl,same,within⟩ := Runtime.readWithin_cases _ found
    · have follows := r.resolve_settled settled
      refine ⟨follows.trans settled.symm,fun b asked => ?_⟩
      unfold Spot.asked at asked
      split at asked
      · exact absurd settled (r.resolve_ne_ref parent _)
      · cases asked
    · refine ⟨same.symm,fun c asked => ?_⟩
      obtain rfl := List.mem_singleton.mp asked
      exact within n nestsParent
  refine put_same interchange roomier held present fun b asked => ?_
  rw [Spot.askedOn,Spot.step,behind.1] at asked
  obtain above | below := List.mem_append.mp asked
  · exact behind.2 b above
  · refine nests b (List.mem_append_left _ ?_)
    rw [leads,Runtime.asks]
    refine List.mem_cons_of_mem _ ?_
    cases resolved : r.resolve parent with
    | error fault =>
      rw [resolved] at below
      cases below
    | ok container =>
      rw [resolved] at below
      exact below

end Interchange

section Transfer

variable {r mid other : Runtime} {key : Segment} {made otherMade : Value}

/-- Blank containers that nothing is paired with yet can be paired with each other. -/
theorem twin_with_blanks {link : Link} (twin : mid.Twin link other) (blank : mid.Blank key made)
    (otherBlank : other.Blank key otherMade)
    (free : ∀ shelf a, made.spot? = some (shelf,a) → ∀ b, ¬ link shelf a b)
    (otherFree : ∀ shelf b, otherMade.spot? = some (shelf,b) → ∀ a, ¬ link shelf a b) :
    ∃ more, link.Le more ∧ mid.Twin more other ∧ made.Alike more otherMade := by
  cases key with
  | index place =>
    obtain ⟨a,rfl,inside,empty⟩ := blank
    obtain ⟨b,rfl,otherInside,otherEmpty⟩ := otherBlank
    refine ⟨link.add .list a b,link.le_add _ _ _,twin.add (free .list a rfl) (otherFree .list b rfl)
      inside otherInside ?_,.list (link.add_self _ _ _)⟩
    show Object.Alike _ (.items (mid.store.listAt a)) (.items (other.store.listAt b))
    rw [empty,otherEmpty]
    exact .items .nil
  | field name =>
    obtain ⟨a,rfl,inside,empty⟩ := blank
    obtain ⟨b,rfl,otherInside,otherEmpty⟩ := otherBlank
    refine ⟨link.add .dict a b,link.le_add _ _ _,twin.add (free .dict a rfl) (otherFree .dict b rfl)
      inside otherInside ?_,.dict (link.add_self _ _ _)⟩
    show Object.Alike _ (.entries (mid.store.dictAt a)) (.entries (other.store.dictAt b))
    rw [empty,otherEmpty]
    exact .entries .nil

/-- Runtimes that have gained a blank container each are alike, and so are the containers. -/
theorem twin_of_blanks (roomier : r.Roomier mid) (otherRoomier : r.Roomier other)
    (blank : mid.Blank key made) (otherBlank : other.Blank key otherMade) (lacks : r.Lacks made)
    (otherLacks : r.Lacks otherMade) :
    ∃ link, r.store.identity.Le link ∧ mid.Twin link other ∧ made.Alike link otherMade := by
  have twin : mid.Twin r.store.identity other :=
    ⟨otherRoomier.twin_old.alike.of_grew_left roomier.growth roomier.closed.store.ordered,
      roomier.handles.trans otherRoomier.handles.symm⟩
  refine twin_with_blanks twin blank otherBlank (fun shelf a here b linked => ?_)
    fun shelf b here a linked => ?_
  · exact absurd linked.2 (Nat.not_lt.mpr (lacks shelf a here))
  · exact absurd (linked.1 ▸ linked.2) (Nat.not_lt.mpr (otherLacks shelf b here))

/-- What was settled in one runtime is settled in one that is alike. -/
theorem settled_alike {after otherAfter : Runtime} {link : Link} (le : r.store.identity.Le link)
    (alike : after.Alike link otherAfter) {found otherFound : Except Fault Spot}
    (agree : Agree (Spot.Alike link) found otherFound) (same : made.Alike link otherMade)
    (settled : r.Settled after found made) : r.Settled otherAfter otherFound otherMade := by
  obtain rfl | ⟨rfl,onward,diagonal,wider,itself,apart⟩ := settled
  · cases agree with
    | @ok _ spot reads =>
      cases reads with
      | value reads => rw [(reads.eq_iff alike.store.paired same).mp rfl]; exact .inl rfl
  · have missing : otherFound = .ok .null := by
      cases agree with
      | ok reads => rw [reads.null_iff.mp rfl]
    refine .inr ⟨missing,link.back.join (onward.join link),?_,fun shelf a b linked => ?_,
      alike.back.join (itself.join alike),fun linked => apart ?_⟩
    · rintro shelf a b ⟨c,first,d,second,third⟩
      obtain rfl := diagonal _ _ _ second
      exact (alike.store.paired _ _ _ _ _ first third).mp rfl
    · obtain ⟨rfl,-⟩ := id linked
      exact ⟨a,le shelf a a linked,a,wider shelf a a linked,le shelf a a linked⟩
    · refine Value.Alike.mono ?_ (same.join (linked.join same.back))
      rintro shelf a b ⟨x,first,y,⟨c,second,d,third,fourth⟩,fifth⟩
      obtain rfl := (alike.store.paired _ _ _ _ _ first second).mpr rfl
      obtain rfl := (alike.store.paired _ _ _ _ _ fourth fifth).mpr rfl
      exact third

/-- What was made before the container is led to as it was. -/
theorem settled_earlier {pre after : Runtime} {found : Except Fault Spot} (earlier : r.Roomier pre)
    (furnished : pre.Furnished key made mid) (only : Store.OnlyWithin r.store.identity mid.store after.store)
    (sizes : ∀ shelf, mid.store.sizeOf shelf ≤ after.store.sizeOf shelf)
    (settled : r.Settled after found made) : pre.Settled after found made := by
  obtain leads | ⟨missing,link,diagonal,le,alike,apart⟩ := settled
  · exact .inl leads
  · let whole : Link := fun shelf a b => link shelf a b ∨
      a = b ∧ r.store.sizeOf shelf ≤ a ∧ a < pre.store.sizeOf shelf
    have more : link.Le whole := fun _ _ _ linked => .inl linked
    have old : pre.store.identity.Le whole := by
      rintro shelf a b ⟨rfl,inside⟩
      by_cases first : a < r.store.sizeOf shelf
      · exact .inl (le shelf a a ⟨rfl,first⟩)
      · exact .inr ⟨rfl,Nat.le_of_not_lt first,inside⟩
    have same : whole.Diagonal := by
      rintro shelf a b (linked | ⟨rfl,-,-⟩)
      · exact diagonal shelf a b linked
      · rfl
    refine .inr ⟨missing,whole,same,old,⟨⟨?_,?_,?_,alike.store.ordered,alike.store.ordered⟩,
      alike.roots.imp fun _ _ one => ⟨one.1,one.2.mono more⟩,more.option alike.document,rfl⟩,?_⟩
    · rintro shelf a b (linked | ⟨rfl,-,inside⟩)
      · exact alike.store.inside shelf a b linked
      · have inside := Nat.lt_of_lt_of_le (furnished.growth.store shelf a inside).1 (sizes shelf)
        exact ⟨inside,inside⟩
    · intro shelf a b c d one other
      obtain rfl := same shelf a b one
      obtain rfl := same shelf c d other
      exact .rfl
    · rintro shelf a b (linked | ⟨rfl,late,inside⟩)
      · exact (alike.store.objects shelf a b linked).mono more
      · obtain ⟨there,kept⟩ := furnished.growth.store shelf a inside
        rw [only shelf a there fun b linked => absurd linked.2 (Nat.not_lt.mpr late),kept]
        exact (earlier.closed.store.objects shelf a a ⟨rfl,inside⟩).mono old
    · intro linked
      have blank := furnished.blank
      have lacks := furnished.lacks
      cases key with
      | index place =>
        obtain ⟨a,rfl,-,-⟩ := blank
        cases linked with
        | list linked =>
          obtain linked | ⟨-,-,inside⟩ := linked
          · exact apart (.list linked)
          · exact absurd inside (Nat.not_lt.mpr (lacks .list a rfl))
      | field name =>
        obtain ⟨a,rfl,-,-⟩ := blank
        cases linked with
        | dict linked =>
          obtain linked | ⟨-,-,inside⟩ := linked
          · exact apart (.dict linked)
          · exact absurd inside (Nat.not_lt.mpr (lacks .dict a rfl))

end Transfer

theorem looks_agree {reads : Runtime → Address → Except Fault Spot} (looks : Looks reads) {link : Link}
    {r other : Runtime} (alike : r.Alike link other) {a b : Address} (linked : link .handle a b) :
    Agree (Spot.Alike link) (reads r a) (reads other b) := by
  cases looks with
  | resolve => exact alike.resolve linked
  | read => exact alike.readReference linked

section Enough

variable {r : Runtime} (closed : r.Closed) (steadfast : r.Steadfast)
include closed steadfast

/-- The handles that readings of some steps enter are written alike with all fuel that is as much. -/
theorem interchange (n : Nat) (few : n ≤ depth r.store) {fuel more : Nat} (enough : n ≤ fuel)
    (alsoEnough : n ≤ more) : Interchange r n fuel more := by
  induction n generalizing fuel more with
  | zero => exact ⟨fun _ nests => nests.elim,fun _ _ _ nests => nests.elim⟩
  | succ n ih =>
    have same {fuel more : Nat} (enough : n + 1 ≤ fuel) (alsoEnough : n + 1 ≤ more) (a : Address)
        (nests : NestsWithin r.enters (n + 1) a) (inside : a < r.store.handles.size)
        (mid : Runtime) (v : Value) (roomier : r.Roomier mid) (held : v.Present mid.store) :
        setWithin fuel a v mid = setWithin more a v mid := by
      obtain ⟨fuel,rfl⟩ := Nat.exists_eq_succ_of_ne_zero (Nat.ne_of_gt (Nat.lt_of_lt_of_le n.succ_pos enough))
      obtain ⟨more,rfl⟩ := Nat.exists_eq_succ_of_ne_zero (Nat.ne_of_gt (Nat.lt_of_lt_of_le n.succ_pos alsoEnough))
      have inner := ih (Nat.le_of_succ_le few) (Nat.le_of_succ_le_succ enough)
        (Nat.le_of_succ_le_succ alsoEnough)
      have present := closed.store.handleAt ⟨rfl,inside⟩
      rw [setWithin,setWithin,Step.bind_done (Act.store_run mid),Step.bind_done (Act.store_run mid),
        roomier.growth.handleAt inside]
      cases here : r.store.handleAt a with
      | path scope path locked =>
        rw [here] at present
        cases present with
        | path linked => exact inner.setPathValue_same roomier held linked.2 here nests
      | sub parent key =>
        rw [here] at present
        cases present with
        | sub linked => exact inner.setBelow_same roomier held here nests linked.2
      | locked inner => rfl
      | cell w label => rfl
    refine ⟨fun a nests inside mid v => same enough alsoEnough a nests inside mid v,?_⟩
    intro reads looks a nests inside missing pre key made mid after earlier making ran
    have roomier := earlier.trans making.toRoomier
    have blank := making.blank
    have lacks : r.Lacks made :=
      making.lacks.earlier fun shelf b here => (earlier.growth.store shelf b here).1
    obtain ⟨first,start,makes,furnished⟩ := emptyFor_made closed key
    obtain ⟨link,le,twin,alike⟩ :=
      twin_of_blanks furnished.toRoomier roomier furnished.blank blank furnished.lacks lacks
    obtain ⟨-,stillBlank,sizes⟩ := blank_after closed.extends roomier.growth roomier.closed blank lacks
      (fun _ _ twin le alike => setWithin_writes fuel _ _ _ _ a a made made twin
        (le _ _ _ ⟨rfl,inside⟩) alike) ran
    have only : Store.OnlyWithin r.store.identity mid.store after.store := by
      obtain ⟨_,_,_,only,-⟩ := setWithin_writes fuel False _ mid mid a a made made
        (closed.extends.grew roomier.growth roomier.closed).twin ⟨rfl,inside⟩ False.elim _ after ran
      exact only
    refine ⟨stillBlank,settled_earlier earlier making only sizes ?_⟩
    have matched := (setWithin_writes (depth r.store) True link start mid a a first made twin
      (le _ _ _ ⟨rfl,inside⟩) fun _ => alike).matched trivial
    rw [same enough few a nests inside mid made roomier blank.present] at ran
    cases began : setWithin (depth r.store) a first start with
    | mk ending last =>
      obtain ⟨otherEnding,otherLast,otherRan,onward,ends⟩ := matched ending last began
      obtain ⟨rfl,rfl⟩ := Prod.mk.inj (otherRan.symm.trans ran)
      cases ends with
      | @done x _ _ =>
        have size : depth start.store = depth r.store := congrArg (4 * · + 8) furnished.handles
        have set : Reference.set a first start = (.done (),last) := by
          rw [Reference.set,Step.bind_done (Act.store_run start),size]
          exact began
        have more := Link.le_extend link start.store mid.store last.store
        exact settled_alike (le.trans more) onward.twin.alike
          (looks_agree looks onward.twin.alike (more _ _ _ (le _ _ _ ⟨rfl,inside⟩)))
          (alike.mono more) (steadfast reads looks a inside missing key first start last makes set)

end Enough

end Reference
end PageRuntime
