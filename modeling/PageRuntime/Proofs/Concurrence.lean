import PageRuntime.Proofs.WriteFuel

/-! Runs that concur. Two runs concur if they end alike, with values or with failures of one class, and
leave the same up to what was made on the way. So what is made, and in which order, is left out of
account. -/
namespace PageRuntime

theorem Store.Alike.failureClass {link : Link} {s other : Store} (alike : s.Alike link other) {f g : Address}
    (linked : link .failure f g) :
    (s.failureAt f).fault.className = (other.failureAt g).fault.className := by
  have held : Object.Alike link (.failure (s.failureAt f)) (.failure (other.failureAt g)) :=
    alike.objects .failure f g linked
  cases held with
  | failure held => exact congrArg Fault.className held.fault

namespace Runtime
open PageRuntime.Act (Matches)

/-- Two runs in runtimes that came of one end alike and leave runtimes that are alike. -/
def Concur (r : Runtime) (one other : Outcome Unit × Runtime) : Prop :=
  ∃ link, r.store.identity.Le link ∧ one.2.Twin link other.2 ∧
    one.1.Alike (fun _ _ => True) (fun f g => (one.2.store.failureAt f).fault.className =
      (other.2.store.failureAt g).fault.className) other.1

namespace Concur

variable {r mid otherMid : Runtime} {one other third : Outcome Unit × Runtime}

theorem symm (concur : r.Concur one other) : r.Concur other one := by
  obtain ⟨link,le,twin,ends⟩ := concur
  refine ⟨link.back,fun shelf a b linked => ?_,twin.back,?_⟩
  · obtain ⟨rfl,-⟩ := id linked
    exact le shelf a a linked
  · revert ends
    generalize one.1 = ending
    generalize other.1 = otherEnding
    intro ends
    cases ends with
    | done _ => exact .done trivial
    | raised same => exact .raised same.symm
    | exhausted => exact .exhausted

theorem trans (first : r.Concur one other) (second : r.Concur other third) : r.Concur one third := by
  obtain ⟨link,le,twin,ends⟩ := first
  obtain ⟨onward,further,twinNext,endsNext⟩ := second
  refine ⟨link.join onward,fun shelf a b linked => ?_,twin.join twinNext,?_⟩
  · obtain ⟨rfl,-⟩ := id linked
    exact ⟨a,le shelf a a linked,further shelf a a linked⟩
  · revert ends endsNext
    generalize one.1 = ending
    generalize other.1 = midEnding
    generalize third.1 = lastEnding
    intro ends endsNext
    cases ends with
    | done _ =>
      cases endsNext with
      | done _ => exact .done trivial
    | raised same =>
      cases endsNext with
      | raised sameNext => exact .raised (same.trans sameNext)
    | exhausted =>
      cases endsNext with
      | exhausted => exact .exhausted

theorem earlier (le : r.store.identity.Le mid.store.identity) (concur : mid.Concur one other) :
    r.Concur one other := by
  obtain ⟨link,wider,rest⟩ := concur
  exact ⟨link,le.trans wider,rest⟩

theorem done {link : Link} (le : r.store.identity.Le link) (twin : mid.Twin link otherMid) :
    r.Concur (.done (),mid) (.done (),otherMid) := ⟨link,le,twin,.done trivial⟩

theorem of_matches {link : Link} (le : r.store.identity.Le link) {act otherAct : Act Unit}
    (matched : Matches link mid otherMid (fun _ _ _ => True) act otherAct) :
    r.Concur (act mid) (otherAct otherMid) := by
  cases ran : act mid with
  | mk ending after =>
    obtain ⟨otherEnding,otherAfter,otherRan,onward,ends⟩ := matched ending after ran
    rw [otherRan]
    exact ⟨_,le.trans (link.le_extend _ _ _),onward.twin,ends.imp (fun _ _ _ => trivial)
      fun f g linked => onward.twin.alike.store.failureClass linked⟩

/-- A step that does the same in runtimes that are alike concurs with itself. -/
theorem refl {act : Act Unit} (le : r.store.identity.Le mid.store.identity)
    (matched : Matches mid.store.identity mid mid (fun _ _ _ => True) act act) :
    r.Concur (act mid) (act mid) := of_matches le matched

theorem bind {act otherAct : Act Unit} {next otherNext : Act Unit}
    (first : r.Concur (act mid) (otherAct otherMid))
    (later : ∀ link after otherAfter, act mid = (.done (),after) →
      otherAct otherMid = (.done (),otherAfter) → r.store.identity.Le link →
        after.Twin link otherAfter → r.Concur (next after) (otherNext otherAfter)) :
    r.Concur ((act >>= fun _ => next) mid) ((otherAct >>= fun _ => otherNext) otherMid) := by
  obtain ⟨link,le,twin,ends⟩ := first
  rw [Step.bind_run,Step.bind_run]
  cases ran : act mid with
  | mk ending after =>
    cases otherRan : otherAct otherMid with
    | mk otherEnding otherAfter =>
      rw [ran,otherRan] at ends twin
      cases ends with
      | done _ => exact later link after otherAfter ran otherRan le twin
      | raised same => exact ⟨link,le,twin,.raised same⟩
      | exhausted => exact ⟨link,le,twin,.exhausted⟩

end Concur
end Runtime

namespace Reference
open PageRuntime.Runtime (Concur)
open PageRuntime.Act (Matches Ensues)

section Early

variable {write : Address → Value → Act Unit} (writes : Writes write write)

/-- Makes a container that is filled last: first it is put where it belongs, then it is filled. -/
def filledLast (write : Address → Value → Act Unit) (key : Segment) (v : Value)
    (place : Value → Act Unit) : Act Unit := do
  let made ← emptyFor key
  place made
  put write (.value made) key v

variable {r : Runtime} {v : Value} {key next : Segment}

theorem filledLast_congr {place otherPlace : Value → Act Unit}
    (same : ∀ made mid, emptyFor key r = (.done made,mid) → place made mid = otherPlace made mid) :
    filledLast write key v place r = filledLast write key v otherPlace r := by
  obtain ⟨made,s,makes,-⟩ := emptyFor_run key r
  rw [filledLast,filledLast,Step.bind_done makes,Step.bind_done makes,Step.bind_run,Step.bind_run,
    same made _ makes]

include writes in
theorem filledLast_matches {link : Link} {other : Runtime} (twin : r.Twin link other) {otherValue : Value}
    (alike : v.Alike link otherValue) {place otherPlace : Value → Act Unit}
    (places : ∀ mid otherMid made otherMade, mid.Twin (link.extend r.store other.store mid.store) otherMid →
      made.Alike (link.extend r.store other.store mid.store) otherMade →
        Matches (link.extend r.store other.store mid.store) mid otherMid (fun _ _ _ => True)
          (place made) (otherPlace otherMade)) :
    Matches link r other (fun _ _ _ => True) (filledLast write key v place)
      (filledLast write key otherValue otherPlace) := by
  refine .bind (emptyFor_matches twin key) fun mid otherMid made otherMade onward same => ?_
  refine .bind (places mid otherMid made otherMade onward.twin same) fun _ _ _ _ further _ => ?_
  refine (put_ensues writes further.twin (fun _ : True => ?_)
    (.value (same.mono (Link.le_extend _ _ _ _))) key).matched trivial
  exact (alike.mono (Link.le_extend _ _ _ _)).mono (Link.le_extend _ _ _ _)

variable (closed : r.Closed) (present : v.Present r.store)
include writes closed present

theorem filledLast_descend {container : Spot} (into : container.Alike r.store.identity container)
    (rest : List Segment) : r.Concur (filledLast write key v (descend write container next rest) r)
      (filledLast write key v (descend write container next rest) r) :=
  .refl (fun _ _ _ => id) (filledLast_matches writes closed.twin present
    fun _ _ _ _ twin same => (descend_ensues writes twin (fun _ : True => same) rest
      (into.mono (Link.le_extend _ _ _ _)) next).matched trivial)

omit closed in
/-- A container that has been made early is stored and filled as one that is made when it is needed. -/
theorem filledLast_early {start after filled : Runtime} {last made otherMade : Value}
    (early : r.Furnished key last start) (onward : Runtime.Onward r.store.identity start r after filled)
    (filledClosed : filled.Closed)
    (same : made.Alike (r.store.identity.extend start.store r.store after.store) otherMade)
    (rest : List Segment) : r.Concur ((do
        descend write (.value made) next rest last
        put write (.value last) key v) after)
      (filledLast write key v (descend write (.value otherMade) next rest) filled) := by
  have le := r.store.identity.le_extend start.store r.store after.store
  obtain ⟨otherLast,ended,otherMakes,late⟩ := emptyFor_made filledClosed key
  rw [filledLast,Step.bind_done otherMakes]
  have lastBlank := early.blank.only early.lacks onward.only onward.wider
  have twin : after.Twin (r.store.identity.extend start.store r.store after.store) ended :=
    ⟨onward.twin.alike.of_grew late.growth late.closed.store.ordered,
      onward.twin.handles.trans late.handles.symm⟩
  have free (shelf : Shelf) (a : Address) (here : last.spot? = some (shelf,a)) (b : Address) :
      ¬ r.store.identity.extend start.store r.store after.store shelf a b := by
    rintro (⟨-,earlier⟩ | ⟨n,rfl,-,-⟩)
    · exact absurd earlier (Nat.not_lt.mpr (early.lacks shelf a here))
    · obtain ⟨k,c,there,inside⟩ := early.blank.inside
      cases here.symm.trans there
      exact absurd inside (Nat.not_lt.mpr (Nat.le_add_right _ n))
  obtain ⟨more,longer,twin,sameLast⟩ := twin_with_blanks twin lastBlank late.blank free
    fun shelf b here a linked => absurd (onward.twin.alike.store.inside shelf a b linked).2
      (Nat.not_lt.mpr (late.lacks shelf b here))
  refine .of_matches (le.trans longer) (.bind ((descend_ensues writes twin
    (fun _ : True => sameLast) rest (.value (same.mono longer)) next).matched trivial)
      fun _ _ _ _ further _ => ?_)
  refine (put_ensues writes further.twin (fun _ : True => ?_)
    (.value (sameLast.mono (Link.le_extend _ _ _ _))) key).matched trivial
  exact Value.Alike.mono ((le.trans longer).trans (Link.le_extend _ _ _ _)) present

/-- It makes no difference whether a container is made before or after the one that it comes to lie in. -/
theorem made_early {fill : Value → Act Unit} {rest : List Segment}
    (fills : ∀ same link mid otherMid made otherMade, mid.Twin link otherMid →
      r.store.identity.Le link → (same → made.Alike link otherMade) →
        Ensues link mid otherMid same (fill made) (fill otherMade))
    (inner : ∀ (mid : Runtime) (made : Value), mid.Closed → r.store.identity.Le mid.store.identity →
      mid.Blank next made → mid.Concur (descend write (.value made) next (rest ++ [key]) v mid)
        (filledLast write key v (descend write (.value made) next rest) mid)) :
    r.Concur ((do
        let made ← emptyFor next
        fill made
        descend write (.value made) next (rest ++ [key]) v) r)
      (filledLast write key v (fun last => do
        let made ← emptyFor next
        fill made
        descend write (.value made) next rest last) r) := by
  obtain ⟨last,start,makesLast,early⟩ := emptyFor_made closed key
  obtain ⟨made,mid,makes,furnished⟩ := emptyFor_made closed next
  have twin : start.Twin r.store.identity r :=
    ⟨closed.of_grew_left early.growth early.closed.store.ordered,early.handles⟩
  have matched : Matches r.store.identity start r Value.Alike
      (emptyFor next >>= fun made => fill made >>= fun _ => pure made)
      (emptyFor next >>= fun made => fill made >>= fun _ => pure made) :=
    .bind (emptyFor_matches twin next) fun mid otherMid made otherMade onward same =>
      .bind ((fills True _ mid otherMid made otherMade onward.twin (Link.le_extend _ _ _ _)
        fun _ => same).matched trivial) fun after otherAfter _ _ further _ =>
          .pure further.twin (same.mono (Link.le_extend _ _ _ _))
  have opens (r : Runtime) (onwards : Value → Act Unit) : (do
      let made ← emptyFor next
      fill made
      onwards made) r = ((emptyFor next >>= fun made => fill made >>= fun _ => pure made) >>= onwards) r := by
    rw [bind_assoc]
    refine congrFun (congrArg _ (funext fun made => ?_)) r
    rw [bind_assoc]
    rfl
  rw [opens,filledLast,Step.bind_done makesLast]
  have opensBoth : (do
      (do
        let made ← emptyFor next
        fill made
        descend write (.value made) next rest last)
      put write (.value last) key v) start =
      ((emptyFor next >>= fun made => fill made >>= fun _ => pure made) >>= fun made => do
        descend write (.value made) next rest last
        put write (.value last) key v) start := by
    rw [← opens]
    simp only [bind_assoc]
  rw [opensBoth]
  cases began : (emptyFor next >>= fun made => fill made >>= fun _ => pure made) start with
  | mk ending after =>
    obtain ⟨otherEnding,otherAfter,otherBegan,onward,ends⟩ := matched ending after began
    have le := r.store.identity.le_extend start.store r.store after.store
    cases ends with
    | exhausted =>
      rw [Step.bind_exhausted otherBegan,Step.bind_exhausted began]
      exact .symm ⟨_,le,onward.twin,.exhausted⟩
    | @raised f g linked =>
      rw [Step.bind_raised otherBegan,Step.bind_raised began]
      exact .symm ⟨_,le,onward.twin,.raised (onward.twin.alike.store.failureClass linked)⟩
    | @done x y same =>
      rw [Step.bind_done otherBegan,Step.bind_done began]
      rw [Step.bind_done makes] at otherBegan
      obtain ⟨_,filled,ran,returned⟩ := Step.done_of_bind otherBegan
      obtain ⟨sameMade,rfl⟩ := Prod.mk.inj returned
      obtain rfl := Outcome.done.inj sameMade
      obtain ⟨otherClosed,blank,wider⟩ := blank_after closed.extends furnished.growth furnished.closed
        furnished.blank furnished.lacks (fun same link twin le alike =>
          fills same link mid mid made made twin le alike) ran
      have sizes (shelf : Shelf) : r.store.sizeOf shelf ≤ filled.store.sizeOf shelf :=
        Nat.le_trans (furnished.growth.store.sizeOf_le shelf) (wider shelf)
      have leOther : r.store.identity.Le filled.store.identity := fun shelf a b linked =>
        ⟨linked.1,Nat.lt_of_lt_of_le linked.2 (sizes shelf)⟩
      refine ((inner filled made otherClosed leOther blank).earlier leOther).trans (.symm ?_)
      exact filledLast_early writes present early onward otherClosed same rest

/-- Below a blank container, the last of the containers that are made may be made first. -/
theorem descend_blank_last {made : Value} (blank : r.Blank next made) (rest : List Segment) :
    r.Concur (descend write (.value made) next (rest ++ [key]) v r)
      (filledLast write key v (descend write (.value made) next rest) r) := by
  induction rest generalizing r next made with
  | nil =>
    have followed := Spot.follow_plain r.resolve blank.plain.2.1
    rw [List.nil_append,descend_missing write followed (blank.member next) blank.plain.2.2]
    exact filledLast_descend writes closed present (.value blank.present) []
  | cons after rest ih =>
    have followed := Spot.follow_plain r.resolve blank.plain.2.1
    rw [List.cons_append,descend_missing write followed (blank.member next) blank.plain.2.2]
    refine (made_early writes closed present (fun same link mid otherMid inner otherInner twin le alike =>
      put_ensues writes twin alike (.value (Value.Alike.mono le blank.present)) next)
        fun mid inner midClosed le innerBlank =>
          ih midClosed (Value.Alike.mono le present) innerBlank).trans ?_
    have opens : filledLast write key v (descend write (.value made) next (after :: rest)) r =
        filledLast write key v (fun last => do
          let inner ← emptyFor after
          put write (.value made) next inner
          descend write (.value inner) after rest last) r := by
      refine filledLast_congr fun last mid makes => ?_
      have blank := blank.grew (emptyFor_furnishes closed makes).growth
      exact descend_missing write (Spot.follow_plain _ blank.plain.2.1) (blank.member next)
        blank.plain.2.2 after rest last
    rw [← opens]
    exact filledLast_descend writes closed present (.value blank.present) (after :: rest)

end Early
end Reference
end PageRuntime
