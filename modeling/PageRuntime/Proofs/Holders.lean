import PageRuntime.Proofs.ReadBack

/-! Holders. Once a value has been written along a path, the last container on the way holds it. To write
there again changes one entry of the holder, and however often that is done, the path leads to the last
value and those that part from it to what they led to at first. -/
namespace PageRuntime
open Reference (isFixed)

/-- The accessor can be written into the value: it is a dictionary, or a list and the accessor an index. -/
def Value.Takes (z : Value) (key : Segment) : Prop :=
  (∃ a, z = .dict a) ∨ ∃ a place, z = .list a ∧ key = .index place

namespace Value.Takes

variable {z : Value} {key : Segment} (takes : z.Takes key)
include takes

theorem mutable : z.isMutable = true := by
  obtain ⟨a,rfl⟩ | ⟨a,place,rfl,rfl⟩ := takes <;> rfl

theorem unbound (a : Address) : z ≠ .context a := by
  obtain ⟨a,rfl⟩ | ⟨a,place,rfl,rfl⟩ := takes <;> exact Value.noConfusion

theorem something : z ≠ .null := by
  obtain ⟨a,rfl⟩ | ⟨a,place,rfl,rfl⟩ := takes <;> exact Value.noConfusion

theorem placed : ∃ shelf a, z.spot? = some (shelf,a) := by
  obtain ⟨a,rfl⟩ | ⟨a,place,rfl,rfl⟩ := takes <;> exact ⟨_,_,rfl⟩

theorem free : isFixed (.value z) = false := by
  obtain ⟨a,rfl⟩ | ⟨a,place,rfl,rfl⟩ := takes <;> rfl

theorem not_spurns (counts : key.Counts) (s : Store) : ¬ s.Spurns (.value z) key := by
  rintro (fixed | ⟨a,place,-,rfl,before⟩)
  · rw [takes.free] at fixed
    cases fixed
  · have counts := counts place rfl
    omega

end Value.Takes

theorem Runtime.Blank.takes {r : Runtime} {key : Segment} {made : Value} (blank : r.Blank key made) :
    made.Takes key := by
  cases key with
  | index place =>
    obtain ⟨a,rfl,-⟩ := blank
    exact .inr ⟨a,place,rfl,rfl⟩
  | field name =>
    obtain ⟨a,rfl,-⟩ := blank
    exact .inl ⟨a,rfl⟩

namespace Store

variable {s t : Store} {v w x y z : Value} {key : Segment} {rest : List Segment}

/-- The holder has come to hold the value under the accessor, and all else that was there is as it was. -/
structure Fills (s t : Store) (z : Value) (key : Segment) (v : Value) : Prop where
  kept : ∀ shelf a, a < s.sizeOf shelf → a < t.sizeOf shelf ∧
    (z.spot? ≠ some (shelf,a) → t.object shelf a = s.object shelf a)
  entry : ∀ other, other.Counts → t.member (.value z) other =
    if other = key then v else s.member (.value z) other

theorem Fills.again {u : Store} (fills : s.Fills t z key v) (more : t.Fills u z key w) :
    s.Fills u z key w where
  kept shelf a inside := by
    obtain ⟨still,same⟩ := fills.kept shelf a inside
    obtain ⟨there,sameAgain⟩ := more.kept shelf a still
    exact ⟨there,fun elsewhere => (sameAgain elsewhere).trans (same elsewhere)⟩
  entry other counts := by
    rw [more.entry other counts,fills.entry other counts]
    split <;> rfl

theorem Fills.grew {u : Store} (fills : s.Fills t z key v) (grew : t.Grew u) (inside : z.Inside t)
    (unbound : ∀ a, z ≠ .context a) : s.Fills u z key v where
  kept shelf a inside := by
    obtain ⟨still,same⟩ := fills.kept shelf a inside
    obtain ⟨there,sameAgain⟩ := grew shelf a still
    exact ⟨there,fun elsewhere => sameAgain.trans (same elsewhere)⟩
  entry other counts := by
    rw [← fills.entry other counts]
    exact member_congr unbound (fun shelf a here => (grew shelf a (inside shelf a here)).2) other

theorem Fills.member (fills : s.Fills t z key v) (inside : x.Inside s) (unbound : ∀ a, x ≠ .context a)
    (differ : x ≠ z) (other : Segment) : t.member (.value x) other = s.member (.value x) other :=
  member_congr unbound (fun shelf a here => (fills.kept shelf a (inside shelf a here)).2
    fun there => differ (Value.spot_inj here there)) other

/-- The accessors are written in the holder, and they lead there to whatever it is given. -/
def Holds (s t : Store) (x y : Value) (key : Segment) (rest : List Segment) (z : Value) (last : Segment) :
    Prop :=
  ∀ u w, t.Fills u z last w → (∀ a, w ≠ .ref a) →
    u.landing (.value y) key rest = ⟨.value z,last,[]⟩ ∧ s.Sets u w x y (key :: rest)

/-- The holder holds the value at the end of the accessors. -/
structure Lodged (s t : Store) (x y : Value) (key : Segment) (rest : List Segment) (z : Value)
    (last : Segment) (v : Value) : Prop where
  takes : z.Takes last
  counts : last.Counts
  inside : z.Inside t
  held : t.member (.value z) last = v
  holds : s.Holds t x y key rest z last

theorem Lodged.fills {last : Segment} (lodged : s.Lodged t x y key rest z last v) :
    t.Fills t z last v where
  kept _ _ inside := ⟨inside,fun _ => rfl⟩
  entry other _ := by
    split
    · next same => rw [same,lodged.held]
    · rfl

namespace Lodged

variable {last : Segment} (lodged : s.Lodged t x y key rest z last v)
include lodged

theorem again {u : Store} (fills : t.Fills u z last w) : s.Lodged u x y key rest z last w where
  takes := lodged.takes
  counts := lodged.counts
  inside shelf a here := (fills.kept shelf a (lodged.inside shelf a here)).1
  held := by rw [fills.entry last lodged.counts,if_pos rfl]
  holds more other later := lodged.holds more other (fills.again later)

theorem grew {u : Store} (grew : t.Grew u) : s.Lodged u x y key rest z last v :=
  lodged.again (lodged.fills.grew grew lodged.inside lodged.takes.unbound)

theorem sets (plain : ∀ a, v ≠ .ref a) : s.Sets t v x y (key :: rest) :=
  (lodged.holds t v lodged.fills plain).2

theorem lands (plain : ∀ a, v ≠ .ref a) : t.landing (.value y) key rest = ⟨.value z,last,[]⟩ :=
  (lodged.holds t v lodged.fills plain).1

theorem something (plain : ∀ a, v ≠ .ref a) : y ≠ .null := by
  rintro rfl
  have lands := lodged.lands plain
  have ends : (t.landing (.value .null) key rest).container = .value .null := by
    cases rest <;> rfl
  rw [lands] at ends
  exact lodged.takes.something (Spot.value.inj ends)

end Lodged

/-- A container with one entry, which leads on to the value. -/
theorem sets_of_only (plain : ∀ a, y ≠ .ref a) (counts : key.Counts)
    (only : ∀ other, other.Counts → t.member (.value y) other = if other = key then w else .null)
    (below : s.Sets t v .null w rest) : s.Sets t v .null y (key :: rest) := by
  refine .cons (fun _ => Value.noConfusion) plain (fun other otherCounts differ => ?_) ?_
  · rw [only other otherCounts,if_neg differ]
    exact ⟨rfl,.null,.null⟩
  · rwa [only key counts,if_pos rfl]

/-- What is intact is walked through as before. -/
theorem Intact.landing (alone : s.SelfContained x) (intact : s.Intact t x) :
    t.landing (.value x) key rest = s.landing (.value x) key rest := by
  induction rest generalizing x key with
  | nil => rfl
  | cons next rest ih =>
    have same := member_congr (alone x .self).2 (intact x .self) key
    unfold Store.landing
    rw [same]
    split
    · rfl
    · next found =>
      have held := (member_held (alone x .self).2 key).resolve_left found
      exact ih (alone.member key) (intact.of_within (.member .self held))

/-- If nothing but the container where a path lands has changed, the way to it is as it was. -/
theorem landing_way {root : Value} (apart : (s.layout [root]).Apart) (alone : s.SelfContained root)
    (mutable : z.isMutable = true)
    (kept : ∀ u, s.Within root u → u ≠ z → ∀ other, t.member (.value u) other = s.member (.value u) other)
    {last : Segment} {left : List Segment} (inside : s.Within root x)
    (lands : s.landing (.value x) key rest = ⟨.value z,last,left⟩) :
    t.landing (.value x) key rest = t.landing (.value z) last left := by
  induction rest generalizing x key with
  | nil =>
    cases lands
    rfl
  | cons next rest ih =>
    unfold Store.landing at lands
    split at lands
    · cases lands
      rfl
    · next found =>
      have held := (member_held (alone x inside).2 key).resolve_left found
      have within : s.Within (s.member (.value x) key) z := by
        refine landing_within (alone.of_within (inside.member held)) lands ?_
        rintro rfl
        cases mutable
      have differ : x ≠ z := by
        rintro rfl
        exact not_within_member apart inside held mutable within
      rw [Store.landing,kept x inside differ,if_neg found]
      exact ih (inside.member held) lands

end Store

namespace Reference

variable (write : Address → Value → Act Unit) {r : Runtime} {z : Value} {key : Segment}
  {rest : List Segment}

theorem putItem_run {items : List Value} (store : List Value → Act Unit) {place : Int} (counts : 0 ≤ place)
    (plain : ∀ a, itemAt items (.index place) ≠ .ref a) (v : Value) :
    putItem write items store (.index place) v r = store (Store.written items place v) r := by
  unfold putItem Store.written
  dsimp only
  cases placed : placeOf? items.length place with
  | none =>
    dsimp only
    rw [if_neg (Int.not_lt.mpr counts)]
  | some n =>
    have plain (a : Address) : items[n]? ≠ some (.ref a) := by
      intro here
      refine plain a ?_
      rw [itemAt,placed,Option.bind_some,here]
      rfl
    dsimp only
    generalize items[n]? = held at plain
    cases held with
    | none => rfl
    | some w => cases w <;> first | rfl | exact absurd rfl (plain _)

theorem putInto_takes (takes : z.Takes key) (counts : key.Counts) (inside : z.Inside r.store)
    (plain : ∀ a, r.store.member (.value z) key ≠ .ref a) (v : Value) : ∃ after,
    putInto write (.value z) key v r = (.done (),after) ∧ r.Entered v (.value z) key after ∧
      r.GrewBut z after ∧ r.store.Fills after.store z key v := by
  obtain ⟨after,ran⟩ : ∃ after, putInto write (.value z) key v r = (.done (),after) := by
    rw [putInto,Step.bind_done (Act.store_run r)]
    obtain ⟨a,rfl⟩ | ⟨a,place,rfl,rfl⟩ := takes
    · dsimp only
      rw [putEntry,Step.bind_done (Act.store_run r)]
      have plain : ∀ b, (r.store.dictAt a).get key.key ≠ .ref b := plain
      generalize (r.store.dictAt a).get key.key = held at plain
      cases held <;> first | exact ⟨_,rfl⟩ | exact absurd rfl (plain _)
    · dsimp only
      rw [putItem_run write _ (counts place rfl) plain]
      exact ⟨_,rfl⟩
  have entered := (putInto_done (fun _ => Spot.noConfusion) plain ran).resolve_left fun spurned =>
    takes.not_spurns counts _ spurned.1
  obtain ⟨-,but⟩ := entered.but takes.unbound
  exact ⟨after,ran,entered,but,but.2,fun _ => entered.member takes.unbound inside counts⟩

theorem put_blank_only {made : Value} (blank : r.Blank key made) (counts : key.Counts) (v : Value) :
    ∃ after, put write (.value made) key v r = (.done (),after) ∧ r.GrewBut made after ∧
      ∀ other, other.Counts → after.store.member (.value made) other =
        if other = key then v else .null := by
  obtain ⟨after,ran,-,but,fills⟩ := putInto_takes write blank.takes counts blank.value_inside
    (fun a => by rw [blank.member]; exact Value.noConfusion) v
  refine ⟨after,?_,but,fun other otherCounts => ?_⟩
  · rw [put_plain write fun a same => blank.plain.2.1 a (Spot.value.inj same)]
    exact ran
  · rw [fills.entry other otherCounts,blank.member]

/-- A container that is made for what comes next and stored where there was nothing. -/
theorem put_inner (takes : z.Takes key) (counts : key.Counts) (inside : z.Inside r.store)
    (missing : r.store.member (.value z) key = .null) (next : Segment) : ∃ made base mid,
    emptyFor next r = (.done made,base) ∧ r.Grew base ∧
      putInto write (.value z) key made base = (.done (),mid) ∧ base.GrewBut z mid ∧ r.Lacks made ∧
      mid.Blank next made ∧ z ≠ made ∧ z.Inside mid.store ∧ ∀ other, other.Counts →
        mid.store.member (.value z) other = if other = key then made else r.store.member (.value z) other := by
  obtain ⟨made,s',makes,grew,blank,lacks,-,-⟩ := emptyFor_run next r
  generalize ({ r with store := s' } : Runtime) = base at makes grew blank
  have insideBase : z.Inside base.store := fun shelf a here =>
    (grew.store shelf a (inside shelf a here)).1
  have same (other : Segment) : base.store.member (.value z) other = r.store.member (.value z) other :=
    Store.member_congr takes.unbound
      (fun shelf a here => (grew.store shelf a (inside shelf a here)).2) other
  obtain ⟨mid,puts,-,but,fills⟩ := putInto_takes write takes counts insideBase
    (fun a => by rw [same,missing]; exact Value.noConfusion) made
  obtain ⟨shelf,a,here⟩ := takes.placed
  have differ : z ≠ made := by
    rintro rfl
    exact absurd (inside shelf a here) (Nat.not_lt.mpr (lacks shelf a here))
  refine ⟨made,base,mid,makes,grew,puts,but,lacks,blank.but but fun same => differ ?_,differ,
    fun shelf a here => (but.2 shelf a (insideBase shelf a here)).1,fun other otherCounts => ?_⟩
  · exact Value.spot_inj here (same.symm.trans here)
  · rw [fills.entry other otherCounts,same]

/-- Writing on into a container made for the accessors. -/
theorem descend_blank_lodged {s : Store} {made : Value} (blank : r.Blank key made)
    (forward : ¬ Backward (key :: rest)) (v : Value) : ∃ after z last,
    descend write (.value made) key rest v r = (.done (),after) ∧ r.GrewBut made after ∧
      (z = made ∨ r.Lacks z) ∧ s.Lodged after.store .null made key rest z last v := by
  obtain ⟨counts,onwards⟩ := not_backward_cons.mp forward
  induction rest generalizing r key made with
  | nil =>
    obtain ⟨after,ran,but,only⟩ := put_blank_only write blank counts v
    have inside : made.Inside after.store := fun shelf a here =>
      (but.2 shelf a (blank.value_inside shelf a here)).1
    refine ⟨after,made,key,ran,but,.inl rfl,blank.takes,counts,inside,?_,fun t w fills plain => ?_⟩
    · rw [only key counts,if_pos rfl]
    · refine ⟨rfl,Store.sets_of_only blank.plain.2.1 counts (fun other otherCounts => ?_) (.nil plain)⟩
      rw [fills.entry other otherCounts,only other otherCounts]
      split <;> rfl
  | cons next rest ih =>
    have followed := Spot.follow_plain r.resolve blank.plain.2.1
    obtain ⟨inner,base,mid,makes,grew,puts,but,lacks,midBlank,differ,inside,only⟩ :=
      put_inner write blank.takes counts blank.value_inside (blank.member key) next
    obtain ⟨after,z,last,ran,innerBut,new,lodged⟩ := ih midBlank onwards (not_backward_cons.mp onwards).1
      (not_backward_cons.mp onwards).2
    have newer : r.Lacks z := by
      obtain rfl | newer := new
      · exact lacks
      · exact newer.earlier fun shelf a here => (but.2 shelf a (grew.store shelf a here).1).1
    have older : made ≠ z := by
      rintro rfl
      obtain ⟨shelf,a,here,within⟩ := blank.inside
      exact absurd within (Nat.not_lt.mpr (newer shelf a here))
    refine ⟨after,z,last,?_,.of_later grew but innerBut lacks,.inr newer,lodged.takes,lodged.counts,
      lodged.inside,lodged.held,fun t w fills plain => ?_⟩
    · rw [descend_missing write followed (blank.member key) blank.plain.2.2,Step.bind_done makes,
        put_plain write fun a same => blank.plain.2.1 a (Spot.value.inj same),Step.bind_done puts]
      exact ran
    · obtain ⟨lands,sets⟩ := lodged.holds t w fills plain
      have only (other : Segment) (otherCounts : other.Counts) :
          t.member (.value made) other = if other = key then inner else .null := by
        have insideAfter : made.Inside after.store := fun shelf a here =>
          (innerBut.2 shelf a (inside shelf a here)).1
        rw [fills.member insideAfter blank.unbound older,innerBut.member blank.unbound inside differ,
          only other otherCounts,blank.member]
      refine ⟨?_,Store.sets_of_only blank.plain.2.1 counts only sets⟩
      rw [Store.landing,only key counts,if_pos rfl,if_neg midBlank.plain.1]
      exact lands

/-- What a write enters where it lands, and below. -/
theorem land_lodged {s : Store} {last : Segment} {left : List Segment} (takes : z.Takes last)
    (inside : z.Inside r.store) (forward : ¬ Backward (last :: left))
    (missing : left ≠ [] → r.store.member (.value z) last = .null)
    (plain : ∀ a, r.store.member (.value z) last ≠ .ref a) (v : Value) : ∃ after holder key,
    land write v ⟨.value z,last,left⟩ r = (.done (),after) ∧ r.GrewBut z after ∧
      (holder = z ∨ r.Lacks holder) ∧ holder.Takes key ∧ key.Counts ∧ holder.Inside after.store ∧
      after.store.member (.value holder) key = v ∧
      ∀ t w, after.store.Fills t holder key w → (∀ a, w ≠ .ref a) →
        t.landing (.value z) last left = ⟨.value holder,key,[]⟩ ∧ ∃ y,
          (∀ other, other.Counts → t.member (.value z) other =
            if other = last then y else r.store.member (.value z) other) ∧
          s.Sets t w (r.store.member (.value z) last) y left := by
  obtain ⟨counts,onwards⟩ := not_backward_cons.mp forward
  cases left with
  | nil =>
    obtain ⟨after,ran,-,but,fills⟩ := putInto_takes write takes counts inside plain v
    have insideAfter : z.Inside after.store := fun shelf a here => (but.2 shelf a (inside shelf a here)).1
    refine ⟨after,z,last,ran,but,.inl rfl,takes,counts,insideAfter,?_,fun t w more plain => ?_⟩
    · rw [fills.entry last counts,if_pos rfl]
    · exact ⟨rfl,w,(fills.again more).entry,.nil plain⟩
  | cons next more =>
    have missing := missing (List.cons_ne_nil next more)
    obtain ⟨made,base,mid,makes,grew,puts,but,lacks,midBlank,differ,insideMid,only⟩ :=
      put_inner write takes counts inside missing next
    obtain ⟨after,holder,key,ran,later,new,lodged⟩ :=
      descend_blank_lodged write (s := s) midBlank onwards v
    have newer : r.Lacks holder := by
      obtain rfl | newer := new
      · exact lacks
      · exact newer.earlier fun shelf a here => (but.2 shelf a (grew.store shelf a here).1).1
    have older : z ≠ holder := by
      rintro rfl
      obtain ⟨shelf,a,here⟩ := takes.placed
      exact absurd (inside shelf a here) (Nat.not_lt.mpr (newer shelf a here))
    have whole := Runtime.GrewBut.of_later grew but later lacks
    refine ⟨after,holder,key,?_,whole,.inr newer,lodged.takes,lodged.counts,lodged.inside,lodged.held,
      fun t w more plain => ?_⟩
    · show (if isFixed (.value z) then _ else _ : Act Unit) r = _
      rw [takes.free,if_neg Bool.false_ne_true,Step.bind_done makes,Step.bind_done puts]
      exact ran
    · obtain ⟨lands,sets⟩ := lodged.holds t w more plain
      have entered (other : Segment) (otherCounts : other.Counts) : t.member (.value z) other =
          if other = last then made else r.store.member (.value z) other := by
        have insideAfter : z.Inside after.store := fun shelf a here =>
          (whole.2 shelf a (inside shelf a here)).1
        rw [more.member insideAfter takes.unbound older,later.member takes.unbound insideMid differ,
          only other otherCounts]
      refine ⟨?_,made,entered,by rwa [missing]⟩
      rw [Store.landing,entered last counts,if_pos rfl,if_neg midBlank.plain.1]
      exact lands

/-- A write along containers that are there leads to a holder, if the last of them takes the accessor. -/
theorem descend_lodged {s : Store} {x : Value} {last : Segment} {left : List Segment}
    (alone : s.SelfContained x) (apart : (s.layout [x]).Apart) (present : ∀ u, s.Within x u → u.Inside s)
    (wider : ∀ shelf a, a < s.sizeOf shelf → a < r.store.sizeOf shelf) (intact : s.Intact r.store x)
    (forward : ¬ Backward (key :: rest)) (lands : s.landing (.value x) key rest = ⟨.value z,last,left⟩)
    (takes : z.Takes last) (v : Value) : s.Within x z ∧ ∃ after holder final,
    descend write (.value x) key rest v r = (.done (),after) ∧ r.GrewBut z after ∧
      (holder = z ∨ r.Lacks holder) ∧ s.Lodged after.store x x key rest holder final v := by
  have within := Store.landing_within alone lands takes.something
  have inside : z.Inside r.store := fun shelf a here => wider shelf a (present z within shelf a here)
  have same : r.store.landing (.value x) key rest = ⟨.value z,last,left⟩ :=
    (intact.landing alone).trans lands
  have member (other : Segment) : r.store.member (.value z) other = s.member (.value z) other :=
    Store.member_congr takes.unbound (intact z within) other
  obtain ⟨_,-,⟨direct,-⟩,-⟩ := intact.finds alone (key :: rest)
  have missing : (r.store.landing (.value x) key rest).left ≠ [] → _ := Store.landing_missing
  have plain := direct.landing
  obtain ⟨before,-,split⟩ := r.store.landing_lies (.value x) key rest
  rw [same] at missing plain split
  have onwards : ¬ Backward (last :: left) := by
    rw [split] at forward
    exact mt (Backward.mono (List.subset_append_right before _)) forward
  obtain ⟨after,holder,final,ran,but,new,holderTakes,counts,there,held,sets⟩ :=
    land_lodged write (s := s) takes inside onwards missing plain v
  refine ⟨within,after,holder,final,?_,but,new,holderTakes,counts,there,held,fun t w fills settled => ?_⟩
  · rw [descend_eq_land direct,same]
    exact ran
  obtain ⟨ends,y,entered,below⟩ := sets t w fills settled
  have kept (u : Value) (inner : s.Within x u) (differ : u ≠ z) (shelf : Shelf) (a : Address)
      (here : u.spot? = some (shelf,a)) : t.object shelf a = s.object shelf a := by
    have inside := wider shelf a (present u inner shelf a here)
    obtain ⟨still,others⟩ := but.2 shelf a inside
    rw [(fills.kept shelf a still).2 ?_,others fun there => differ (Value.spot_inj here there),
      intact u inner shelf a here]
    intro there
    obtain rfl | lacks := new
    · exact differ (Value.spot_inj here there)
    · exact absurd inside (Nat.not_lt.mpr (lacks shelf a there))
  simp only [member] at entered below
  constructor
  · rw [Store.landing_way apart alone takes.mutable (fun u inner differ => Store.member_congr
      (alone u inner).2 (kept u inner differ)) .self lands]
    exact ends
  · exact Store.sets_of_landing apart alone takes.mutable kept entered below .self forward lands

end Reference
end PageRuntime
