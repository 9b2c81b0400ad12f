import PageRuntime.Proofs.Retargeting

/-! Filling leaves marks. Where new containers are stored in what was there before, that holds
something it could not hold before, and goes on doing so: a retargeted handle cannot go unnoticed. -/
namespace PageRuntime

theorem placeOf?_lt {length place : Nat} {i : Int} (placed : placeOf? length i = some place) :
    place < length := by
  unfold placeOf? at placed
  dsimp only at placed
  generalize (if i < 0 then i + (length : Int) else i) = counted at placed
  by_cases bounds : 0 ≤ counted ∧ counted < length
  · rw [if_pos bounds] at placed
    obtain rfl := Option.some.inj placed
    omega
  · rw [if_neg bounds] at placed
    cases placed

theorem Dict.insert_holds (d : Dict) (key : Key) (label v : Value) :
    ∃ slot ∈ d.insert key label v, slot.value = v := by
  induction d with
  | nil => exact ⟨_,List.mem_cons_self,rfl⟩
  | cons slot rest ih =>
    unfold Dict.insert
    split
    · exact ⟨_,List.mem_cons_self,rfl⟩
    · obtain ⟨found,member,holds⟩ := ih
      exact ⟨found,List.mem_cons_of_mem _ member,holds⟩

theorem Dict.get?_append (before rest : Dict) (other : Key) :
    get? (before ++ rest) other = (get? before other).or (get? rest other) := by
  unfold get?
  rw [List.find?_append]
  cases before.find? (·.key = other) <;> rfl

theorem Named.set_holds {α : Type} (name : String) (x : α) (named : Named α) :
    ∃ pair ∈ Named.set name x named, pair.2 = x := by
  induction named with
  | nil => exact ⟨_,List.mem_cons_self,rfl⟩
  | cons pair rest ih =>
    unfold Named.set
    split
    · exact ⟨_,List.mem_cons_self,rfl⟩
    · obtain ⟨found,member,holds⟩ := ih
      exact ⟨found,List.mem_cons_of_mem _ member,holds⟩

namespace Runtime

/-- Every shelf has at least as many objects. -/
def Wider (base r : Runtime) : Prop := ∀ shelf, base.store.sizeOf shelf ≤ r.store.sizeOf shelf

/-- What was there in `base` holds nothing that came later. -/
structure Inward (base r : Runtime) : Prop where
  objects : ∀ shelf a, a < base.store.sizeOf shelf →
    (r.store.object shelf a).Alike base.store.identity (r.store.object shelf a)
  roots : ∀ pair ∈ r.roots, pair.2.Present base.store

/-- What was there in `base` is the same in both runtimes. -/
structure Untouched (base r after : Runtime) : Prop where
  objects : ∀ shelf a, a < base.store.sizeOf shelf →
    after.store.object shelf a = r.store.object shelf a
  frame : after.frame = r.frame

/-- What was there in `base` is untouched, or holds something that came later. -/
def Marks (base r after : Runtime) : Prop :=
  base.Wider r → base.Wider after ∧ (base.Inward after → base.Untouched r after)

variable {base r mid after : Runtime}

theorem Blank.fresh {key : Segment} {made : Value} (blank : mid.Blank key made)
    (lacks : base.Lacks made) : ¬ made.Present base.store := by
  intro present
  cases key with
  | index place =>
    obtain ⟨a,rfl,-,-⟩ := blank
    cases present with
    | list linked => exact absurd linked.2 (Nat.not_lt.mpr (lacks .list a rfl))
  | field name =>
    obtain ⟨a,rfl,-,-⟩ := blank
    cases present with
    | dict linked => exact absurd linked.2 (Nat.not_lt.mpr (lacks .dict a rfl))

theorem Untouched.inward (untouched : base.Untouched r after) (inward : base.Inward after) :
    base.Inward r where
  objects shelf a inside := by
    rw [← untouched.objects shelf a inside]
    exact inward.objects shelf a inside
  roots pair member := by
    have same : after.roots = r.roots :=
      show after.frame.roots = r.frame.roots by rw [untouched.frame]
    exact inward.roots pair (by rwa [same])

namespace Marks

theorem refl (base r : Runtime) : base.Marks r r :=
  fun wider => ⟨wider,fun _ => ⟨fun _ _ _ => rfl,rfl⟩⟩

theorem trans (first : base.Marks r mid) (second : base.Marks mid after) : base.Marks r after := by
  intro wider
  obtain ⟨midWider,early⟩ := first wider
  obtain ⟨afterWider,late⟩ := second midWider
  refine ⟨afterWider,fun inward => ?_⟩
  have later := late inward
  have earlier := early (later.inward inward)
  exact ⟨fun shelf a inside => (later.objects shelf a inside).trans (earlier.objects shelf a inside),
    later.frame.trans earlier.frame⟩

instance (base : Runtime) : Std.Refl (Marks base) := ⟨refl base⟩

instance (base : Runtime) : Trans (Marks base) (Marks base) (Marks base) := ⟨trans⟩

theorem of_grew (growth : r.Grew after) : base.Marks r after := by
  intro wider
  refine ⟨fun shelf => Nat.le_of_not_lt fun less => ?_,fun _ => ⟨fun shelf a inside => ?_,growth.frame⟩⟩
  · exact Nat.lt_irrefl _ (growth.store shelf _ (Nat.lt_of_lt_of_le less (wider shelf))).1
  · exact (growth.store shelf a (Nat.lt_of_lt_of_le inside (wider shelf))).2

theorem of_onlyGrows {α : Type} {act : Act α} (only : act.OnlyGrows) :
    Step.Keeps (Marks base) act := only.imp fun _ _ growth => of_grew growth

theorem of_puts {s : Store} {shelf : Shelf} {a : Address} {o : Object}
    (puts : r.store.Puts s shelf a o) (foreign : ¬ o.Alike base.store.identity o) :
    base.Marks r { r with store := s } := by
  intro wider
  refine ⟨fun k => ?_,fun inward => ⟨fun k b inside => puts.others k b ?_,rfl⟩⟩
  · rw [puts.sizes]
    exact wider k
  · refine Classical.not_and_iff_not_or_not.mp fun same => foreign ?_
    obtain ⟨rfl,rfl⟩ := same
    have held := inward.objects k b inside
    rwa [puts.object (Nat.lt_of_lt_of_le inside (wider k))] at held

theorem setRoot {v : Value} (fresh : ¬ v.Present base.store) (name : String) :
    base.Marks r (r.setRoot name v) := by
  intro wider
  refine ⟨wider,fun inward => absurd ?_ fresh⟩
  obtain ⟨pair,member,rfl⟩ := Named.set_holds name v r.roots
  exact inward.roots pair member

end Marks
end Runtime

namespace Reference
open PageRuntime.Runtime (Marks)

variable {base : Runtime} {v : Value} (fresh : ¬ v.Present base.store)

theorem items_foreign {items : List Value} (member : v ∈ items) (fresh : ¬ v.Present base.store) :
    ¬ (Object.items items).Alike base.store.identity (.items items) := by
  intro alike
  cases alike with
  | items alike => exact fresh (List.forall₂_same.mp alike v member)

include fresh

theorem insert_foreign (d : Dict) (key : Key) (label : Value) :
    ¬ (Object.entries (d.insert key label v)).Alike base.store.identity
      (.entries (d.insert key label v)) := by
  intro alike
  obtain ⟨slot,member,rfl⟩ := Dict.insert_holds d key label v
  cases alike with
  | entries alike => exact fresh (List.forall₂_same.mp alike slot member).value

omit fresh in
/-- An empty container is made where nothing was before. -/
theorem emptyFor_marks {α : Type} (key : Segment) {next : Value → Act α}
    (later : ∀ made, ¬ made.Present base.store → Step.Keeps (Marks base) (next made)) :
    Step.Keeps (Marks base) (emptyFor key >>= next) := by
  intro r wider
  obtain ⟨made,s,makes,growth,blank,lacks,-,-⟩ := emptyFor_run key r
  rw [Step.bind_done makes]
  have fresh : ¬ made.Present base.store :=
    blank.fresh fun shelf a here => Nat.le_trans (wider shelf) (lacks shelf a here)
  exact (Marks.of_grew growth).trans (later made fresh _) wider

variable {write : Address → Value → Act Unit}
  (marks : ∀ a w, ¬ w.Present base.store → Step.Keeps (Marks base) (write a w))
include marks

theorem putBinding_marks (scope : Address) (key : Segment) :
    Step.Keeps (Marks base) (putBinding write scope key v) := by
  refine .bind (.of_onlyGrows .store) fun s => ?_
  split
  · exact marks _ v fresh
  · exact fun r => .of_puts (r.store.putDict_puts _ _) (insert_foreign fresh _ _ _)

theorem putEntry_marks (a : Address) (key : Segment) :
    Step.Keeps (Marks base) (putEntry write a key v) := by
  refine .bind (.of_onlyGrows .store) fun s => ?_
  split
  · exact marks _ v fresh
  · exact fun r => .of_puts (r.store.putDict_puts _ _) (insert_foreign fresh _ _ _)

theorem putItem_marks {items : List Value} {store : List Value → Act Unit}
    (stores : ∀ xs, v ∈ xs → Step.Keeps (Marks base) (store xs)) (key : Segment) :
    Step.Keeps (Marks base) (putItem write items store key v) := by
  cases key with
  | field name => exact .of_onlyGrows (.fail _)
  | index place =>
    unfold putItem
    dsimp only
    cases placed : placeOf? items.length place with
    | none =>
      dsimp only
      split
      · exact .pure ()
      · exact stores _ (List.mem_append_right _ List.mem_cons_self)
    | some place =>
      dsimp only
      split
      · exact marks _ v fresh
      · exact stores _ (List.mem_iff_getElem.mpr ⟨place,by simpa using placeOf?_lt placed,by simp⟩)

theorem putInto_marks (container : Spot) (key : Segment) :
    Step.Keeps (Marks base) (putInto write container key v) := by
  refine .bind (.of_onlyGrows .store) fun s => ?_
  split
  · exact putBinding_marks fresh marks _ key
  · exact putItem_marks fresh marks (fun _ _ => .pure ()) key
  · exact putBinding_marks fresh marks _ key
  · exact putEntry_marks fresh marks _ key
  · exact putItem_marks fresh marks (fun xs member r =>
      .of_puts (r.store.putList_puts _ xs) (items_foreign member fresh)) key
  · exact .pure ()
  · exact .pure ()
  · exact .pure ()
  · exact .of_onlyGrows (.fail _)

omit fresh in
theorem opened_marks (a : Address) {reading : Act Spot} (reads : reading.OnlyGrows)
    (key : Segment) : Step.Keeps (Marks base) (opened write a reading key) := by
  refine .bind (.of_onlyGrows reads) fun found => ?_
  split
  · exact emptyFor_marks key fun made fresh =>
      .bind (marks a made fresh) fun _ => .of_onlyGrows reads
  · exact .pure found

theorem put_marks (container : Spot) (key : Segment) :
    Step.Keeps (Marks base) (put write container key v) := by
  unfold put
  split
  · refine .bind (opened_marks marks _ (settle_onlyGrows _) key) fun target => ?_
    split
    · exact .pure ()
    · exact putInto_marks fresh marks target key
  · exact putInto_marks fresh marks container key

theorem descend_marks (rest : List Segment) (container : Spot) (key : Segment) :
    Step.Keeps (Marks base) (descend write container key rest v) := by
  induction rest generalizing container key with
  | nil => exact put_marks fresh marks container key
  | cons after rest ih =>
    refine .bind (.of_onlyGrows (step_onlyGrows container key)) fun next => ?_
    split
    · refine .bind (.of_onlyGrows (settle_onlyGrows container)) fun settled => ?_
      split
      · exact .pure ()
      · exact emptyFor_marks after fun made fresh =>
          .bind (put_marks fresh marks container key) fun _ => ih (.value made) after
    · exact ih (.value next) after

omit marks in
theorem setRootValue_marks (name : String) : Step.Keeps (Marks base) (setRootValue name v) :=
  fun _ => .setRoot fresh name

theorem setRootPath_marks (path : Path) : Step.Keeps (Marks base) (setRootPath write path v) := by
  unfold setRootPath
  split
  · exact .of_onlyGrows (.fail _)
  · refine .bind (.of_onlyGrows .read) fun r => ?_
    split
    · exact marks _ v fresh
    · exact setRootValue_marks fresh _

theorem setBelowRoot_marks (scope : Address) (path : Path) (key : Segment) (rest : List Segment) :
    Step.Keeps (Marks base) (setBelowRoot write scope path key rest v) := by
  refine .bind (.of_onlyGrows (root_onlyGrows scope path)) fun container => ?_
  split
  · split
    · exact .of_onlyGrows (.fail _)
    · exact emptyFor_marks key fun made foreign =>
        .bind (setRootValue_marks foreign _) fun _ => descend_marks fresh marks rest _ key
  · exact descend_marks fresh marks rest container key

theorem setPathValue_marks (scope : Address) (path : Path) (locked : Bool) :
    Step.Keeps (Marks base) (setPathValue write scope path locked v) := by
  refine .bind (.of_onlyGrows (isLocked_onlyGrows path locked)) fun shut => ?_
  split
  · exact .of_onlyGrows (.debugLine _)
  · split
    · exact setRootPath_marks fresh marks path
    · exact setBelowRoot_marks fresh marks scope path _ _

theorem setBelow_marks (parent : Address) (key : Segment) :
    Step.Keeps (Marks base) (setBelow write parent key v) := by
  refine .bind (opened_marks marks _ (look_onlyGrows _ _) key) fun container => ?_
  split
  · exact .pure ()
  · exact put_marks fresh marks container key

omit fresh marks in
theorem setWithin_marks (fuel : Nat) (a : Address) (w : Value) (fresh : ¬ w.Present base.store) :
    Step.Keeps (Marks base) (setWithin fuel a w) := by
  induction fuel generalizing a w with
  | zero => exact .of_onlyGrows (.fail _)
  | succ fuel ih =>
    refine .bind (.of_onlyGrows .store) fun s => ?_
    split
    · exact setPathValue_marks fresh ih _ _ _
    · exact setBelow_marks fresh ih _ _
    · exact .pure ()
    · refine fun r => .of_puts (r.store.putHandle_puts _ _) fun alike => ?_
      cases alike with
      | handle alike =>
        cases alike with
        | cell alike => exact fresh alike

end Reference

namespace Runtime

variable {r after : Runtime}

theorem Fills.marks {base : Runtime} (wider : base.Wider r) (fills : r.Fills after) :
    base.Marks r after := by
  induction fills with
  | refl => exact .refl base r
  | grow _ growth ih => exact ih.trans (.of_grew growth)
  | @fill mid after fuel b key made _ lacks blank filled ih =>
    have fresh : ¬ made.Present base.store :=
      blank.fresh fun shelf a here => Nat.le_trans (wider shelf) (lacks shelf a here)
    have kept := Reference.setWithin_marks fuel b made fresh mid
    rw [filled] at kept
    exact ih.trans kept

theorem Closed.inward (closed : r.Closed) (growth : r.Grew after) : r.Inward after where
  objects shelf a inside := by
    rw [(growth.store shelf a inside).2]
    exact closed.store.objects shelf a a ⟨rfl,inside⟩
  roots pair member := by
    rw [growth.roots] at member
    exact (List.forall₂_same.mp closed.roots pair member).2

/-- Retargeting a handle is more than growth. -/
theorem Retargets.not_grew (closed : r.Closed) (retargets : r.Retargets after) : ¬ r.Grew after := by
  intro whole
  cases retargets with
  | @moved reads start mid fuel b key made looks growth closedStart inside missing lacks blank filled
      still elsewhere rest =>
    have wider : r.Wider start := fun shelf => Nat.le_of_not_lt fun less =>
      Nat.lt_irrefl _ (growth.store shelf _ less).1
    have first := Reference.setWithin_marks fuel b made (blank.fresh lacks) start
    rw [filled] at first
    obtain ⟨midWider,early⟩ := first wider
    obtain ⟨-,late⟩ := rest.marks midWider midWider
    have inward := closed.inward whole
    have untouched := early ((late inward).inward inward)
    have onward := filled_onward closedStart (growth.store .handle b inside).1 blank.present filled
    have same : r.Grew mid := ⟨fun shelf a here => ⟨Nat.lt_of_lt_of_le here (midWider shelf),
      (untouched.objects shelf a here).trans (growth.store shelf a here).2⟩,
      untouched.frame.trans growth.frame⟩
    have within : Extends r mid := ⟨closed,same,onward.closed⟩
    exact still ((within.reads_eq looks inside).trans missing)

/-- A failing run is growth if and only if no handle was retargeted. -/
theorem Fell.grew_iff (closed : r.Closed) (fell : r.Fell after) : r.Grew after ↔ ¬ r.Retargets after :=
  ⟨fun growth retargets => retargets.not_grew closed growth,fell.resolve_right⟩

end Runtime
end PageRuntime
