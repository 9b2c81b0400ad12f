import PageRuntime.Proofs.WriteFrames

/-! Storing. A write along a path that meets no read-only container and does not count from the end, below
a value that nothing leads out of and where nothing that can change is held twice, sets the value at the
path. -/
namespace PageRuntime
open Reference (isFixed)

/-- None of the containers that the accessors lead through is read-only. -/
def Store.Unfixed (s : Store) (x : Value) (keys : List Segment) : Prop :=
  ∀ before last, before ++ [last] <+: keys → isFixed (s.lies (.value x) before) = false

namespace Runtime

variable {r after : Runtime} {v z : Value} {key : Segment}

theorem GrewBut.member {made : Value} (but : r.GrewBut made after) (unbound : ∀ a, z ≠ .context a)
    (inside : z.Inside r.store) (differ : z ≠ made) (key : Segment) :
    after.store.member (.value z) key = r.store.member (.value z) key :=
  Store.member_congr unbound (fun shelf a here => (but.2 shelf a (inside shelf a here)).2
    fun there => differ (Value.spot_inj here there)) key

theorem GrewBut.of_later {base mid : Runtime} {made : Value} (grew : r.Grew base)
    (first : base.GrewBut z mid) (later : mid.GrewBut made after) (lacks : r.Lacks made) :
    r.GrewBut z after := by
  refine ⟨later.1.trans (first.1.trans grew.frame),fun shelf a inside => ?_⟩
  obtain ⟨inBase,same⟩ := grew.store shelf a inside
  obtain ⟨inMid,others⟩ := first.2 shelf a inBase
  obtain ⟨still,laterOthers⟩ := later.2 shelf a inMid
  refine ⟨still,fun elsewhere => (laterOthers fun here => ?_).trans ((others elsewhere).trans same)⟩
  exact absurd inside (Nat.not_lt.mpr (lacks shelf a here))

namespace Entered

variable (entered : r.Entered v (.value z) key after) (unbound : ∀ a, z ≠ .context a)
include entered unbound

theorem but : z.isMutable = true ∧ r.GrewBut z after := by
  obtain ⟨shelf,a,o,t,enters,puts,rfl⟩ := entered
  cases enters with
  | dict => exact ⟨rfl,.of_puts puts rfl⟩
  | list => exact ⟨rfl,.of_puts puts rfl⟩
  | binding shows =>
    obtain same | ⟨b,same,-⟩ := shows
    · cases same
    · exact absurd (Spot.value.inj same) (unbound b)

theorem member (inside : z.Inside r.store) (counts : key.Counts) {other : Segment}
    (otherCounts : other.Counts) : after.store.member (.value z) other =
      if other = key then v else r.store.member (.value z) other := by
  obtain ⟨shelf,a,o,t,enters,puts,rfl⟩ := entered
  refine enters.member puts unbound ?_ counts otherCounts
  cases enters with
  | dict => exact inside _ _ rfl
  | list => exact inside _ _ rfl
  | binding shows =>
    obtain same | ⟨b,same,-⟩ := shows
    · cases same
    · exact absurd (Spot.value.inj same) (unbound b)

end Entered

theorem Blank.value_inside {made : Value} (blank : r.Blank key made) : made.Inside r.store := by
  obtain ⟨shelf,a,here,inside⟩ := blank.inside
  rintro other b there
  cases here.symm.trans there
  exact inside

theorem Blank.unbound {made : Value} (blank : r.Blank key made) (a : Address) : made ≠ .context a := by
  rintro rfl
  cases key with
  | index place =>
    obtain ⟨b,same,-⟩ := blank
    cases same
  | field name =>
    obtain ⟨b,same,-⟩ := blank
    cases same

theorem Blank.not_spurns {made : Value} (blank : r.Blank key made) (counts : key.Counts) :
    ¬ r.store.Spurns (.value made) key := by
  rintro (fixed | ⟨a,place,-,rfl,before⟩)
  · rw [blank.plain.2.2] at fixed
    cases fixed
  · have counts := counts place rfl
    omega

end Runtime

namespace Reference

variable {write : Address → Value → Act Unit} {r after : Runtime} {v : Value} {key : Segment}
  {rest : List Segment}

theorem put_blank_done {made : Value} (blank : r.Blank key made) (counts : key.Counts)
    (ran : put write (.value made) key v r = (.done (),after)) :
    r.Entered v (.value made) key after := by
  rw [put_plain write fun a same => blank.plain.2.1 a (Spot.value.inj same)] at ran
  refine (putInto_done (fun _ same => by cases same) (fun b => ?_) ran).resolve_left fun spurned => ?_
  · rw [blank.member]
    exact nofun
  · exact blank.not_spurns counts spurned.1

/-- The entry of a blank container is all that there is below it. -/
theorem sets_of_blank {s t : Store} {made w : Value} {mid : Runtime} (blank : r.Blank key made)
    (counts : key.Counts) (entered : r.Entered w (.value made) key mid)
    (still : ∀ other, t.member (.value made) other = mid.store.member (.value made) other)
    (below : s.Sets t v .null w rest) : s.Sets t v .null made (key :: rest) := by
  have reads (other : Segment) (otherCounts : other.Counts) :
      t.member (.value made) other = if other = key then w else .null := by
    rw [still,entered.member blank.unbound blank.value_inside counts otherCounts,blank.member]
  refine .cons nofun blank.plain.2.1 (fun other otherCounts differ => ?_) ?_
  · rw [reads other otherCounts,if_neg differ]
    exact ⟨rfl,.null,.null⟩
  · rwa [reads key counts,if_pos rfl]

/-- Writing on into a container made for the accessors sets the value there, where nothing was. -/
theorem descend_blank_sets {s : Store} (plain : ∀ a, v ≠ .ref a) {made : Value}
    (blank : r.Blank key made) (forward : ¬ Backward (key :: rest))
    (ran : descend write (.value made) key rest v r = (.done (),after)) :
    s.Sets after.store v .null made (key :: rest) := by
  obtain ⟨counts,onwards⟩ := not_backward_cons.mp forward
  induction rest generalizing r key made with
  | nil => exact sets_of_blank blank counts (put_blank_done blank counts ran) (fun _ => rfl) (.nil plain)
  | cons next rest ih =>
    have followed := Spot.follow_plain r.resolve blank.plain.2.1
    obtain ⟨inner,t,makes,grew,innerBlank,lacks,-,-⟩ := emptyFor_run next r
    rw [descend_missing write followed (blank.member key) blank.plain.2.2,Step.bind_done makes] at ran
    generalize ({ r with store := t } : Runtime) = base at makes grew innerBlank ran
    obtain ⟨_,mid,puts,ran⟩ := Step.done_of_bind ran
    have baseBlank := blank.grew grew
    have entered := put_blank_done baseBlank counts puts
    have but := (entered.but blank.unbound).2
    have differ : made ≠ inner := by
      rintro rfl
      obtain ⟨shelf,a,here,inside⟩ := blank.inside
      exact absurd inside (Nat.not_lt.mpr (lacks shelf a here))
    have midBlank : mid.Blank next inner := by
      refine innerBlank.but but fun same => differ ?_
      obtain ⟨shelf,a,here,-⟩ := blank.inside
      exact Value.spot_inj here (same.symm.trans here)
    obtain ⟨last,run,innerBut,-⟩ := descend_blank write midBlank rest v
    obtain rfl : last = after := (Prod.mk.inj (run.symm.trans ran)).2
    have inside : made.Inside mid.store := fun shelf a here =>
      (but.2 shelf a (baseBlank.value_inside shelf a here)).1
    exact sets_of_blank baseBlank counts entered (innerBut.member blank.unbound inside differ)
      (ih midBlank onwards ran (not_backward_cons.mp onwards).1 (not_backward_cons.mp onwards).2)

/-- Where a write lands, one entry of the container is all that changes, and the accessors left lead
from it to the value. -/
theorem landed_sets {z : Value} {last : Segment} {left : List Segment} (plain : ∀ a, v ≠ .ref a)
    (unbound : ∀ a, z ≠ .context a) (inside : z.Inside r.store) (forward : ¬ Backward (last :: left))
    (missing : left ≠ [] → r.store.member (.value z) last = .null)
    (landed : (left = [] ∧ r.Entered v (.value z) last after) ∨
      MadeBelow write v r ⟨.value z,last,left⟩ after) :
    z.isMutable = true ∧ r.GrewBut z after ∧ ∃ y,
      (∀ other, other.Counts → after.store.member (.value z) other =
        if other = last then y else r.store.member (.value z) other) ∧
      r.store.Sets after.store v (r.store.member (.value z) last) y left := by
  obtain ⟨counts,onwards⟩ := not_backward_cons.mp forward
  obtain ⟨rfl,entered⟩ | ⟨next,more,made,base,mid,rfl,grew,-,lacks,entered,blank,ran⟩ := landed
  · obtain ⟨mutable,but⟩ := entered.but unbound
    exact ⟨mutable,but,v,fun _ => entered.member unbound inside counts,.nil plain⟩
  · obtain ⟨mutable,but⟩ := entered.but unbound
    obtain ⟨last,run,later,-⟩ := descend_blank write blank more v
    obtain rfl : last = after := (Prod.mk.inj (run.symm.trans ran)).2
    have insideBase : z.Inside base.store := fun shelf a here =>
      (grew.store shelf a (inside shelf a here)).1
    have insideMid : z.Inside mid.store := fun shelf a here =>
      (but.2 shelf a (insideBase shelf a here)).1
    have older : z ≠ made := by
      rintro rfl
      obtain ⟨shelf,a,here,-⟩ := blank.inside
      exact absurd (inside shelf a here) (Nat.not_lt.mpr (lacks shelf a here))
    refine ⟨mutable,.of_later grew but later lacks,made,fun other otherCounts => ?_,?_⟩
    · have same : base.store.member (.value z) other = r.store.member (.value z) other :=
        Store.member_congr unbound (fun shelf a here => (grew.store shelf a (inside shelf a here)).2) other
      rw [later.member unbound insideMid older,
        entered.member unbound insideBase counts otherCounts,same]
    · rw [missing (List.cons_ne_nil next more)]
      exact descend_blank_sets plain blank onwards ran

/-- Below a value that nothing leads out of, a write sets the value at its path, and one container is
all that changes. -/
theorem descend_sets {root : Value} (closed : r.Closed) (present : root.Present r.store)
    (apart : (r.store.layout [root]).Apart) (alone : r.store.SelfContained root)
    (plain : ∀ a, v ≠ .ref a) (forward : ¬ Backward (key :: rest))
    (free : r.store.Unfixed root (key :: rest))
    (ran : descend write (.value root) key rest v r = (.done (),after)) :
    ∃ z, r.store.Within root z ∧ z.isMutable = true ∧ r.GrewBut z after ∧
      r.store.Sets after.store v root root (key :: rest) := by
  obtain ⟨_,⟨direct,-⟩,-⟩ := alone.finds (key :: rest)
  rw [descend_eq_land direct] at ran
  have whole := direct.landing
  have missing : (r.store.landing (.value root) key rest).left ≠ [] → _ := Store.landing_missing
  obtain ⟨before,lies,split⟩ := r.store.landing_lies (.value root) key rest
  obtain ⟨z,finds,within⟩ := alone.finds before
  have there := Store.lies_present closed (.value present) before
  rw [finds.2] at lies there
  generalize lands : r.store.landing (.value root) key rest = landing at ran whole missing lies split
  obtain ⟨container,last,left⟩ := landing
  dsimp only at whole missing lies split
  subst lies
  have inside : z.Inside r.store := by
    cases there with
    | value present => exact Value.Present.inside present
  have unbound (a : Address) : z ≠ .context a := by
    obtain rfl | within := within
    · exact nofun
    · exact (alone z within).2 a
  have onwards : ¬ Backward (last :: left) := by
    rw [split] at forward
    exact mt (Backward.mono (List.subset_append_right before _)) forward
  -- a container is spurned for being read-only or for an accessor that lies before its start
  obtain ⟨spurned,-⟩ | ⟨-,landed⟩ := land_done closed there (fun _ same => by cases same) whole ran
  · obtain fixed | ⟨a,place,-,same,negative⟩ := spurned
    · have unfixed := free before last (split ▸ ⟨left,by rw [List.append_assoc]; rfl⟩)
      rw [finds.2,fixed] at unfixed
      cases unfixed
    · have counts := (not_backward_cons.mp onwards).1 place same
      omega
  · obtain ⟨mutable,but,y,entered,below⟩ := landed_sets plain unbound inside onwards missing landed
    refine ⟨z,within.resolve_left ?_,mutable,but,?_⟩
    · rintro rfl
      cases mutable
    · refine Store.sets_of_landing apart alone mutable (fun u inner differ shelf a here => ?_) entered
        below .self forward lands
      refine (but.2 shelf a ((inner.present closed present).inside shelf a here)).2 fun there => ?_
      exact differ (Value.spot_inj here there)

end Reference
end PageRuntime
