import PageRuntime.Proofs.LikeWriting

/-! Failing writes. A write that fails leaves everything as it was, unless a handle was retargeted on
the way: it led to nothing, was given a new container, and led to something else from then on. -/
namespace PageRuntime

namespace Runtime
open PageRuntime.Reference (setWithin)

theorem Blank.present {r : Runtime} {key : Segment} {made : Value} (blank : r.Blank key made) :
    made.Present r.store := by
  cases key with
  | index place =>
    obtain ⟨a,rfl,inside,-⟩ := blank
    exact .list ⟨rfl,inside⟩
  | field name =>
    obtain ⟨a,rfl,inside,-⟩ := blank
    exact .dict ⟨rfl,inside⟩

/-- The two ways in which a write looks for a container behind a handle. -/
inductive Looks : (Runtime → Address → Except Fault Spot) → Prop
  | resolve : Looks Runtime.resolve
  | read : Looks Runtime.readReference

/-- What comes of a runtime as objects are made and missing locations are given new containers. -/
inductive Fills (r : Runtime) : Runtime → Prop
  | refl : Fills r r
  | grow {mid after : Runtime} (fills : Fills r mid) (growth : mid.Grew after) : Fills r after
  | fill {mid after : Runtime} {fuel : Nat} {b : Address} {key : Segment} {made : Value}
      (fills : Fills r mid) (lacks : r.Lacks made) (blank : mid.Blank key made)
      (filled : setWithin fuel b made mid = (.done (),after)) : Fills r after

/-- On the way from one runtime to another, a handle that led to nothing was given a new container
and then led to something else. -/
inductive Retargets (r after : Runtime) : Prop
  | moved {reads : Runtime → Address → Except Fault Spot} {start mid : Runtime} {fuel : Nat}
      {b : Address} {key : Segment} {made : Value} (looks : Looks reads) (growth : r.Grew start)
      (closed : start.Closed) (inside : b < r.store.handles.size) (missing : reads r b = .ok .null)
      (lacks : r.Lacks made) (blank : start.Blank key made)
      (filled : setWithin fuel b made start = (.done (),mid)) (still : reads mid b ≠ .ok .null)
      (elsewhere : reads mid b ≠ .ok (.value made)) (rest : mid.Fills after) : Retargets r after

/-- Nothing has happened but growth, or a handle was retargeted. -/
def Fell (r after : Runtime) : Prop := r.Grew after ∨ r.Retargets after

/-- A closed runtime with more objects than another closed one. -/
structure Extends (base r : Runtime) : Prop where
  old : base.Closed
  growth : base.Grew r
  closed : r.Closed

theorem Fills.trans {r mid after : Runtime}
    (wider : ∀ shelf, r.store.sizeOf shelf ≤ mid.store.sizeOf shelf) (first : r.Fills mid)
    (second : mid.Fills after) : r.Fills after := by
  induction second with
  | refl => exact first
  | grow _ growth ih => exact .grow ih growth
  | fill _ lacks blank filled ih =>
    exact .fill ih (fun shelf a here => Nat.le_trans (wider shelf) (lacks shelf a here)) blank filled

theorem Onward.wider {link : Link} {r other after otherAfter : Runtime}
    (onward : Onward link r other after otherAfter) (shelf : Shelf) :
    r.store.sizeOf shelf ≤ after.store.sizeOf shelf := by
  obtain ⟨n,size,-⟩ := onward.paced shelf
  omega

theorem Onward.present {link : Link} {r other after otherAfter : Runtime}
    (onward : Onward link r other after otherAfter) {v : Value} (present : v.Present r.store) :
    v.Present after.store :=
  Value.Alike.mono (fun shelf _ _ linked =>
    ⟨linked.1,Nat.lt_of_lt_of_le linked.2 (onward.wider shelf)⟩) present

/-- A new container has been stored where a handle leads. -/
theorem filled_onward {r after : Runtime} (closed : r.Closed) {fuel : Nat} {b : Address}
    (inside : b < r.store.handles.size) {v : Value} (present : v.Present r.store)
    (filled : setWithin fuel b v r = (.done (),after)) :
    Onward r.store.identity r r after after :=
  Reference.setWithin_onward closed.twin ⟨rfl,inside⟩ filled present

theorem Fell.fills {r after : Runtime} (fell : r.Fell after) : r.Fills after := by
  obtain growth | ⟨looks,growth,closed,inside,missing,lacks,blank,filled,still,elsewhere,rest⟩ := fell
  · exact .grow .refl growth
  · have onward := filled_onward closed (growth.store .handle _ inside).1 blank.present filled
    refine .trans (fun shelf => Nat.le_trans ?_ (onward.wider shelf))
      (.fill (.grow .refl growth) lacks blank filled) rest
    refine Nat.le_of_not_lt fun less => ?_
    exact Nat.lt_irrefl _ (growth.store shelf _ less).1

namespace Extends

variable {base r after : Runtime} (within : base.Extends r)
include within

theorem twin : r.Twin base.store.identity r :=
  ⟨(within.old.grew within.growth within.closed).of_grew_left within.growth
    within.closed.store.ordered,rfl⟩

theorem grew (growth : r.Grew after) (closed : after.Closed) : base.Extends after :=
  ⟨within.old,within.growth.trans growth,closed⟩

theorem agree {reads : Runtime → Address → Except Fault Spot} (looks : Looks reads) {a : Address}
    (inside : a < base.store.handles.size) :
    Agree (Spot.Alike base.store.identity) (reads base a) (reads r a) := by
  have alike := within.old.grew within.growth within.closed
  cases looks with
  | resolve => exact alike.resolve ⟨rfl,inside⟩
  | read => exact alike.readReference ⟨rfl,inside⟩

theorem reads_eq {reads : Runtime → Address → Except Fault Spot} (looks : Looks reads) {a : Address}
    (inside : a < base.store.handles.size) : reads r a = reads base a :=
  ((within.agree looks inside).eq fun _ _ same => same.eq base.store.identity_diagonal).symm

end Extends

theorem Closed.extends {r : Runtime} (closed : r.Closed) : r.Extends r := ⟨closed,.refl r,closed⟩

/-- A reading in a closed runtime gives what is there. -/
theorem Looks.present {reads : Runtime → Address → Except Fault Spot} (looks : Looks reads)
    {r : Runtime} (closed : r.Closed) {a : Address} (inside : a < r.store.handles.size) {spot : Spot}
    (found : reads r a = .ok spot) : spot.Alike r.store.identity spot := by
  have agree := closed.extends.agree looks inside
  rw [found] at agree
  cases agree with
  | ok present => exact present

/-- A container stays blank while nothing changes but what was there before it was made. -/
theorem Blank.only {base r after : Runtime} {key : Segment} {made : Value} (blank : r.Blank key made)
    (lacks : base.Lacks made) (only : Store.OnlyWithin base.store.identity r.store after.store)
    (wider : ∀ shelf, r.store.sizeOf shelf ≤ after.store.sizeOf shelf) : after.Blank key made := by
  have unpaired {shelf : Shelf} {a : Address} (here : made.spot? = some (shelf,a)) (b : Address) :
      ¬ base.store.identity shelf a b := by
    rintro ⟨rfl,inside⟩
    exact absurd inside (Nat.not_lt.mpr (lacks shelf a here))
  cases key with
  | index place =>
    obtain ⟨a,rfl,inside,empty⟩ := blank
    have same := only .list a inside (unpaired rfl)
    exact ⟨a,rfl,Nat.lt_of_lt_of_le inside (wider .list),(Object.items.inj same).trans empty⟩
  | field name =>
    obtain ⟨a,rfl,inside,empty⟩ := blank
    have same := only .dict a inside (unpaired rfl)
    exact ⟨a,rfl,Nat.lt_of_lt_of_le inside (wider .dict),(Object.entries.inj same).trans empty⟩

end Runtime

namespace Reference
open PageRuntime.Runtime (Looks Retargets Fell Extends Onward)
open PageRuntime.Act (Ensues)

/-- Looks for what is behind a handle. -/
def look (reads : Runtime → Address → Except Fault Spot) (a : Address) : Act Spot := do
  let r ← Step.read
  Act.ofExcept (reads r a)

theorem look_onlyGrows (reads : Runtime → Address → Except Fault Spot) (a : Address) :
    (look reads a).OnlyGrows := .bind .read fun _ => .ofExcept _

theorem look_done {reads : Runtime → Address → Except Fault Spot} {a : Address} {r after : Runtime}
    {spot : Spot} (ran : look reads a r = (.done spot,after)) : reads r a = .ok spot ∧ after = r :=
  Act.ofExcept_done ran

/-- Failing writes of the values of a runtime through handles that a runtime had before it grew. -/
def Steady (write : Address → Value → Act Unit) : Prop :=
  ∀ base r a v, Extends base r → a < base.store.handles.size → v.Present r.store →
    ∀ failure after, write a v r = (.raised failure,after) → base.Fell after

variable {fuel : Nat} (steady : Steady (setWithin fuel)) {base r : Runtime} (within : base.Extends r)
  {v : Value} (present : v.Present r.store) {failure : Address} {after : Runtime}
include within

/-- A step that writes a container made for it alone leaves that container blank. -/
theorem blank_after {act : Act Unit} {key : Segment} {made : Value} {s : Runtime}
    (growth : r.Grew s) (closed : s.Closed) (blank : s.Blank key made) (lacks : r.Lacks made)
    (ensues : ∀ same link, s.Twin link s → base.store.identity.Le link →
      (same → made.Alike link made) → Ensues link s s same act act)
    (ran : act s = (.done (),after)) :
    after.Closed ∧ after.Blank key made ∧ ∀ shelf, s.store.sizeOf shelf ≤ after.store.sizeOf shelf := by
  have whole := within.grew growth closed
  obtain ⟨_,otherAfter,otherRan,-,onward,-⟩ := ensues True s.store.identity closed.twin
    whole.growth.store.identity (fun _ => blank.present) _ after ran
  obtain rfl : after = otherAfter := (Prod.mk.inj (ran.symm.trans otherRan)).2
  obtain ⟨-,-,-,only,-⟩ := ensues False base.store.identity whole.twin (.refl _) nofun _ after ran
  have onward := onward trivial
  refine ⟨onward.closed,blank.only (fun shelf a here => ?_) only onward.wider,onward.wider⟩
  refine Nat.le_trans (Nat.le_of_not_lt fun less => ?_) (lacks shelf a here)
  exact Nat.lt_irrefl _ (within.growth.store shelf _ less).1

include steady

/-- What follows once a container was opened fails only if it fails inside what was there, or a
handle was retargeted. -/
theorem opened_fell {reads : Runtime → Address → Except Fault Spot} (looks : Looks reads)
    {a : Address} (inside : a < base.store.handles.size) (key : Segment) {next : Spot → Act Unit}
    (fills : ∀ mid made, mid.Blank key made → ∀ f after, next (.value made) mid ≠ (.raised f,after))
    (later : ∀ base r target, Extends base r → target.Alike base.store.identity target →
      v.Present r.store → ∀ f after, next target r = (.raised f,after) → base.Fell after)
    (present : v.Present r.store)
    (ran : (do
      let target ← opened (setWithin fuel) a (look reads a) key
      if target = Spot.null then return () else next target) r = (.raised failure,after)) :
    base.Fell after := by
  have agree := within.agree looks inside
  cases found : reads r a with
  | error fault =>
    have fails : (look reads a : Act Spot) r = (Act.fail fault : Act Spot) r := by
      rw [look,Step.bind_run,Step.read_run]
      dsimp only
      rw [found]
      rfl
    rw [opened,Step.bind_run,Step.bind_run,fails,Act.fail_run] at ran
    cases ran
    exact .inl (within.growth.trans ⟨.of_adds (r.store.newFailure_adds _),rfl⟩)
  | ok spot =>
    have looked : look reads a r = (.done spot,r) := by
      rw [look,Step.bind_run,Step.read_run]
      dsimp only
      rw [found]
      rfl
    by_cases missing : spot = .null
    · subst missing
      obtain ⟨made,s,makes,growth,blank,lacks,madePresent,closes⟩ := emptyFor_run key r
      have closed := closes within.closed
      have whole := within.grew growth closed
      have gone : reads base a = .ok .null := (within.reads_eq looks inside).symm.trans found
      have baseLacks : base.Lacks made := fun shelf b here => by
        refine Nat.le_trans (Nat.le_of_not_lt fun less => ?_) (lacks shelf b here)
        exact Nat.lt_irrefl _ (within.growth.store shelf _ less).1
      rw [opened,Step.bind_assoc,Step.bind_done looked,if_pos rfl,Step.bind_assoc,
        Step.bind_done makes,Step.bind_assoc] at ran
      obtain failed | ⟨_,mid,filled,onwards⟩ := Step.raised_of_bind ran
      · exact steady base _ a made whole inside madePresent failure after failed
      · have here := (whole.growth.store .handle a inside).1
        have onward := Runtime.filled_onward closed here madePresent filled
        obtain ⟨midClosed,midBlank,wider⟩ := blank_after within growth closed blank lacks
          (fun same link twin le alike => setWithin_writes fuel same link _ _ a a made made twin
            (le _ _ _ ⟨rfl,inside⟩) alike) filled
        have moved (still : reads mid a ≠ .ok .null) (elsewhere : reads mid a ≠ .ok (.value made))
            (rest : mid.Fills after) : base.Fell after :=
          .inr (.moved looks whole.growth closed inside gone baseLacks blank filled still elsewhere rest)
        obtain failed | ⟨target,_,looking,rests⟩ := Step.raised_of_bind onwards
        · have fills : mid.Fills after := .grow .refl ((look_onlyGrows reads a).of_run failed)
          refine moved (fun same => ?_) (fun same => ?_) fills
          · rw [look,Step.bind_run,Step.read_run] at failed
            dsimp only at failed
            rw [same] at failed
            cases failed
          · rw [look,Step.bind_run,Step.read_run] at failed
            dsimp only at failed
            rw [same] at failed
            cases failed
        · obtain ⟨leads,rfl⟩ := look_done looking
          by_cases gone : target = .null
          · rw [if_pos gone] at rests
            cases rests
          · rw [if_neg gone] at rests
            by_cases itself : target = .value made
            · subst itself
              exact absurd rests (fills _ made midBlank failure after)
            · refine moved (fun same => ?_) (fun same => ?_) ?_
              · exact gone (Except.ok.inj (leads.symm.trans same))
              · exact itself (Except.ok.inj (leads.symm.trans same))
              · have vPresent := onward.present (present.grew growth.store)
                have insideMid := Nat.lt_of_lt_of_le here (onward.wider .handle)
                exact (later _ _ target midClosed.extends (looks.present midClosed insideMid leads)
                  vPresent failure after rests).fills
    · rw [Step.bind_done (show opened (setWithin fuel) a (look reads a) key r = (.done spot,r) by
        rw [opened,Step.bind_done looked,if_neg missing]; rfl),if_neg missing] at ran
      rw [found] at agree
      have alike : spot.Alike base.store.identity spot := by
        revert agree
        generalize reads base a = result
        intro agree
        cases agree with
        | ok same =>
          obtain rfl := same.eq base.store.identity_diagonal
          exact same
      exact later base r spot within alike present failure after ran

include present

theorem putBinding_fell {scope : Address} (linked : base.store.identity .scope scope scope)
    (key : Segment) (ran : putBinding (setWithin fuel) scope key v r = (.raised failure,after)) :
    base.Fell after := by
  have held := within.twin.alike.store.contextKey linked
    (Key.text_alike base.store.identity key.bindingName)
  rw [putBinding,Step.bind_done (Act.store_run r)] at ran
  revert ran held
  generalize r.store.contextKey scope (.text key.bindingName) = found
  intro ran held
  cases held with
  | ref linked => exact steady base r _ v within linked.2 present failure after ran
  | _ => cases ran

theorem putEntry_fell {a : Address} (linked : base.store.identity .dict a a) (key : Segment)
    (ran : putEntry (setWithin fuel) a key v r = (.raised failure,after)) : base.Fell after := by
  have alike := within.twin.alike.store
  have held := Dict.get_alike alike.paired (alike.dictAt linked) (key.key_alike base.store.identity)
  rw [putEntry,Step.bind_done (Act.store_run r)] at ran
  revert ran held
  generalize (r.store.dictAt a).get key.key = found
  intro ran held
  cases held with
  | ref linked => exact steady base r _ v within linked.2 present failure after ran
  | _ => cases ran

theorem putItem_fell {items : List Value} (values : Values.Alike base.store.identity items items)
    {store : List Value → Act Unit} (stores : ∀ xs f after, store xs r ≠ (.raised f,after))
    (key : Segment) (ran : putItem (setWithin fuel) items store key v r = (.raised failure,after)) :
    base.Fell after := by
  cases key with
  | field name => exact .inl (within.growth.trans ((Act.OnlyGrows.fail _).of_run ran))
  | index place =>
    unfold putItem at ran
    dsimp only at ran
    cases placed : placeOf? items.length place with
    | none =>
      rw [placed] at ran
      dsimp only at ran
      split at ran
      · cases ran
      · exact absurd ran (stores _ _ _)
    | some place =>
      rw [placed] at ran
      dsimp only at ran
      have held := List.getElem?_alike values place
      revert ran held
      generalize items[place]? = found
      intro ran held
      cases held with
      | none => exact absurd ran (stores _ _ _)
      | some held =>
        cases held with
        | ref linked => exact steady base r _ v within linked.2 present failure after ran
        | _ => exact absurd ran (stores _ _ _)

theorem putInto_fell {container : Spot} (into : container.Alike base.store.identity container)
    (key : Segment) (ran : putInto (setWithin fuel) container key v r = (.raised failure,after)) :
    base.Fell after := by
  have alike := within.twin.alike.store
  have fails (fault : Fault) (ran : (Act.fail fault : Act Unit) r = (.raised failure,after)) :
      base.Fell after := .inl (within.growth.trans ((Act.OnlyGrows.fail _).of_run ran))
  rw [putInto,Step.bind_done (Act.store_run r)] at ran
  cases into with
  | bindings linked => exact putBinding_fell steady within present linked key ran
  | items values => exact putItem_fell steady within present values (fun _ _ _ ran => by cases ran) key ran
  | value into =>
    cases into with
    | context linked =>
      exact putBinding_fell steady within present (alike.contextAt linked) key ran
    | dict linked => exact putEntry_fell steady within present linked key ran
    | list linked =>
      exact putItem_fell steady within present (alike.listAt linked) (fun _ _ _ ran => by cases ran) key ran
    | tuple linked => cases ran
    | frozen linked => cases ran
    | fset linked => cases ran
    | _ => exact fails _ ran

omit steady within present in
theorem put_blank_fills {key : Segment} {made : Value} {mid : Runtime} (blank : mid.Blank key made)
    (v : Value) (f : Address) (after : Runtime) :
    putInto (setWithin fuel) (.value made) key v mid ≠ (.raised f,after) := by
  obtain ⟨s,puts,-⟩ := put_blank (setWithin fuel) blank v
  rw [put_plain _ fun a same => blank.plain.2.1 a (Spot.value.inj same)] at puts
  rw [puts]
  exact nofun

theorem put_fell {container : Spot} (into : container.Alike base.store.identity container)
    (key : Segment) (ran : put (setWithin fuel) container key v r = (.raised failure,after)) :
    base.Fell after := by
  by_cases behind : ∃ a, container = .value (.ref a)
  · obtain ⟨a,rfl⟩ := behind
    have inside : a < base.store.handles.size := by
      cases into with
      | value into =>
        cases into with
        | ref linked => exact linked.2
    exact opened_fell steady within .resolve inside key
      (fun mid made blank => put_blank_fills blank v)
      (fun base r target within into present f after ran =>
        putInto_fell steady within present into key ran) present ran
  · rw [put_plain _ fun a same => behind ⟨a,same⟩] at ran
    exact putInto_fell steady within present into key ran

theorem descend_fell (rest : List Segment) {container : Spot}
    (into : container.Alike base.store.identity container) (key : Segment)
    (ran : descend (setWithin fuel) container key rest v r = (.raised failure,after)) :
    base.Fell after := by
  have reads {α : Type} {act : Act α} (only : act.OnlyGrows)
      (ran : act r = (.raised failure,after)) : base.Fell after :=
    .inl (within.growth.trans (only.of_run ran))
  induction rest generalizing container key with
  | nil => exact put_fell steady within present into key ran
  | cons next rest ih =>
    have agree := into.follow fun _ _ => within.twin.alike.resolve
    cases followed : container.follow r.resolve with
    | error fault =>
      have fails : step container key r = (Act.fail fault : Act Value) r := by
        rw [step,Step.bind_run,Step.read_run]
        dsimp only
        rw [Spot.step,followed]
        rfl
      rw [descend,Step.bind_run,fails,Act.fail_run] at ran
      cases ran
      exact .inl (within.growth.trans ((Act.OnlyGrows.fail fault : Act.OnlyGrows (α := Unit) _).of_run rfl))
    | ok settled =>
      rw [followed] at agree
      cases agree with
      | ok settledAlike =>
        by_cases missing : r.store.member settled key = .null
        · cases fixed : isFixed settled with
          | true =>
            rw [descend_fixed _ followed missing fixed] at ran
            cases ran
          | false =>
            rw [descend_missing _ followed missing fixed] at ran
            obtain ⟨made,s,makes,growth,blank,lacks,madePresent,closes⟩ := emptyFor_run next r
            have closed := closes within.closed
            have whole := within.grew growth closed
            rw [Step.bind_done makes] at ran
            obtain failed | ⟨_,mid,stored,onwards⟩ := Step.raised_of_bind ran
            · exact put_fell steady whole madePresent into key failed
            · obtain ⟨-,midBlank,-⟩ := blank_after within growth closed blank lacks
                (fun same link twin le alike =>
                  put_ensues (setWithin_writes fuel) twin alike (into.mono le) key) stored
              obtain ⟨last,run,-,-⟩ := descend_blank (setWithin fuel) midBlank rest v
              rw [run] at onwards
              cases onwards
        · rw [descend_found _ followed missing] at ran
          exact ih (.value (within.twin.alike.store.member settledAlike key)) next ran

theorem setRootPath_fell (path : Path)
    (ran : setRootPath (setWithin fuel) path v r = (.raised failure,after)) : base.Fell after := by
  unfold setRootPath at ran
  cases kind : path.root.kind.dataRoot? with
  | none =>
    rw [kind] at ran
    exact .inl (within.growth.trans ((Act.OnlyGrows.fail _).of_run ran))
  | some name =>
    rw [kind] at ran
    dsimp only at ran
    rw [Step.bind_run,Step.read_run] at ran
    dsimp only at ran
    have held := within.twin.alike.rootValue? name
    revert ran held
    generalize r.rootValue? name = found
    intro ran held
    cases held with
    | none => cases ran
    | some held =>
      cases held with
      | ref linked => exact steady base r _ v within linked.2 present failure after ran
      | _ => cases ran

theorem setBelowRoot_fell {scope : Address} (linked : base.store.identity .scope scope scope)
    (path : Path) (key : Segment) (rest : List Segment)
    (ran : setBelowRoot (setWithin fuel) scope path key rest v r = (.raised failure,after)) :
    base.Fell after := by
  unfold setBelowRoot at ran
  obtain failed | ⟨start,mid,rooted,onwards⟩ := Step.raised_of_bind ran
  · exact .inl (within.growth.trans ((root_onlyGrows scope path).of_run failed))
  · obtain ⟨found,rfl⟩ : r.rootSpot scope path.root = .ok start ∧ mid = r := Act.ofExcept_done rooted
    have agree := within.twin.alike.rootSpot linked path.root
    rw [found] at agree
    cases agree with
    | ok alike =>
      by_cases missing : start = .null
      · rw [if_pos missing] at onwards
        cases kind : path.root.kind.dataRoot? with
        | none =>
          rw [kind] at onwards
          exact .inl (within.growth.trans ((Act.OnlyGrows.fail _).of_run onwards))
        | some name =>
          rw [kind] at onwards
          obtain ⟨made,s,makes,growth,blank,-⟩ := emptyFor_run key mid
          dsimp only at onwards
          rw [Step.bind_done makes] at onwards
          have held : (({ mid with store := s } : Runtime).setRoot name made).Blank key made := blank
          obtain ⟨last,run,-,-⟩ := descend_blank (setWithin fuel) held rest v
          have ends : descend (setWithin fuel) (.value made) key rest v
              (({ mid with store := s } : Runtime).setRoot name made) = (.raised failure,after) :=
            onwards
          rw [run] at ends
          cases ends
      · rw [if_neg missing] at onwards
        exact descend_fell steady within present rest alike key onwards

theorem setPathValue_fell {scope : Address} (linked : base.store.identity .scope scope scope)
    (path : Path) (locked : Bool)
    (ran : setPathValue (setWithin fuel) scope path locked v r = (.raised failure,after)) :
    base.Fell after := by
  unfold setPathValue at ran
  obtain failed | ⟨shut,mid,asked,onwards⟩ := Step.raised_of_bind ran
  · exact .inl (within.growth.trans ((isLocked_onlyGrows path locked).of_run failed))
  · obtain rfl := isLocked_still asked
    split at onwards
    · obtain ⟨entries,noted⟩ := debugLine_run ("set on read-only location ignored: " ++ path.text) mid
      rw [noted] at onwards
      cases onwards
    · cases keys : path.segments with
      | nil =>
        rw [keys] at onwards
        exact setRootPath_fell steady within present path onwards
      | cons key rest =>
        rw [keys] at onwards
        exact setBelowRoot_fell steady within present linked path key rest onwards

theorem setBelow_fell {parent : Address} (inside : parent < base.store.handles.size) (key : Segment)
    (ran : setBelow (setWithin fuel) parent key v r = (.raised failure,after)) : base.Fell after :=
  opened_fell steady within .read inside key
    (fun mid made blank f after ran => by
      obtain ⟨s,puts,-⟩ := put_blank (setWithin fuel) blank v
      rw [puts] at ran
      cases ran)
    (fun base r target within into present f after ran =>
      put_fell steady within present into key ran) present ran

omit steady within present in
/-- A write that fails leaves everything as it was or retargets a handle. -/
theorem setWithin_steady (fuel : Nat) : Steady (setWithin fuel) := by
  induction fuel with
  | zero =>
    intro base r a v within inside present failure after ran
    exact .inl (within.growth.trans ((Act.OnlyGrows.fail _).of_run ran))
  | succ fuel ih =>
    intro base r a v within inside present failure after ran
    rw [setWithin,Step.bind_done (Act.store_run r)] at ran
    have held := within.twin.alike.store.handleAt ⟨rfl,inside⟩
    revert ran held
    generalize r.store.handleAt a = handle
    intro ran held
    cases held with
    | path linked path locked => exact setPathValue_fell ih within present linked path locked ran
    | sub linked key => exact setBelow_fell ih within present linked.2 key ran
    | locked linked => cases ran
    | cell held label => cases ran

end Reference
end PageRuntime
