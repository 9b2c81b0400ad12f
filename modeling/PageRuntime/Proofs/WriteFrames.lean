import PageRuntime.Proofs.Entries

/-! Frames of writes. Below a value that nothing leads out of, and where nothing that can change is held
twice, a write changes the container it lands in and what is made for it. The path then leads to what was
written, and a path that parts from it leads to what it led to before, with all that lies within. -/
namespace PageRuntime
open Reference (isFixed)

/-- Neither path leads on from the other. -/
def Parts (keys other : List Segment) : Prop := ¬ keys <+: other ∧ ¬ other <+: keys

namespace Store

/-- Nothing leads out of the value: it holds no reference and no view of bindings. -/
def SelfContained (s : Store) (x : Value) : Prop :=
  ∀ u, s.Within x u → (∀ a, u ≠ .ref a) ∧ ∀ a, u ≠ .context a

/-- All that lies within the value is as it was. -/
def Intact (s t : Store) (x : Value) : Prop :=
  ∀ u, s.Within x u → ∀ shelf a, u.spot? = some (shelf,a) → t.object shelf a = s.object shelf a

/-- The accessors lead to the value, and no reference is met. -/
def Finds (s : Store) (x : Value) (keys : List Segment) (u : Value) : Prop :=
  s.Direct (.value x) keys ∧ s.lies (.value x) keys = .value u

/-- The accessors now lead to what was written, and those that part from them to what they led to. -/
structure Sets (s t : Store) (v x y : Value) (keys : List Segment) : Prop where
  here : t.Finds y keys v
  elsewhere : ∀ other, ¬ Backward other → Parts keys other →
    ∃ u, s.Finds x other u ∧ t.Finds y other u ∧ s.Intact t u

variable {s t : Store} {root u v w x y z : Value} {key : Segment} {rest : List Segment}

theorem within_null (within : s.Within .null u) : u = .null := by
  obtain rfl | ⟨w,held,-⟩ := within.first
  · rfl
  · cases held

theorem SelfContained.null : s.SelfContained .null := by
  intro u within
  obtain rfl := within_null within
  exact ⟨nofun,nofun⟩

theorem Intact.null : s.Intact t .null := by
  intro u within shelf a here
  obtain rfl := within_null within
  cases here

theorem SelfContained.of_within (alone : s.SelfContained x) (within : s.Within x u) :
    s.SelfContained u := fun w inner => alone w (within.trans inner)

theorem SelfContained.member (alone : s.SelfContained x) (key : Segment) :
    s.SelfContained (s.member (.value x) key) := by
  obtain missing | held := member_held (alone x .self).2 key
  · rw [missing]
    exact .null
  · exact alone.of_within (.member .self held)

theorem Intact.of_within (intact : s.Intact t x) (within : s.Within x u) : s.Intact t u :=
  fun w inner => intact w (within.trans inner)

namespace Finds

theorem nil (plain : ∀ a, u ≠ .ref a) : s.Finds u [] u := by
  refine ⟨fun before head a same => ?_,rfl⟩
  obtain rfl := List.prefix_nil.mp head
  exact plain a (Spot.value.inj same)

theorem cons (plain : ∀ a, x ≠ .ref a) (inner : s.Finds (s.member (.value x) key) rest u) :
    s.Finds x (key :: rest) u :=
  ⟨direct_cons.mpr ⟨fun a same => plain a (Spot.value.inj same),inner.1⟩,inner.2⟩

theorem read {keys : List Segment} (finds : s.Finds x keys u)
    (resolve : Address → Except Fault Spot) :
    (Spot.value x).walk resolve s keys >>= Spot.follow resolve = .ok (.value u) := by
  have last : ∀ a, Spot.value u ≠ .value (.ref a) := by
    rw [← finds.2]
    exact finds.1 keys (List.prefix_refl keys)
  rw [finds.1.walk resolve,finds.2]
  exact Spot.follow_plain resolve fun a same => last a (congrArg Spot.value same)

end Finds

theorem SelfContained.finds (alone : s.SelfContained x) (keys : List Segment) :
    ∃ u, s.Finds x keys u ∧ (u = .null ∨ s.Within x u) := by
  induction keys generalizing x with
  | nil => exact ⟨x,.nil (alone x .self).1,.inr .self⟩
  | cons key rest ih =>
    obtain ⟨u,finds,within⟩ := ih (alone.member key)
    refine ⟨u,finds.cons (alone x .self).1,?_⟩
    obtain missing | held := member_held (alone x .self).2 key
    · rw [missing] at within
      exact .inl (within.elim id within_null)
    · exact within.imp id (.of_held held)

/-- What is intact is found again, and what is found in it is intact. -/
theorem Intact.finds (alone : s.SelfContained x) (intact : s.Intact t x) (keys : List Segment) :
    ∃ u, s.Finds x keys u ∧ t.Finds x keys u ∧ s.Intact t u := by
  induction keys generalizing x with
  | nil => exact ⟨x,.nil (alone x .self).1,.nil (alone x .self).1,intact⟩
  | cons key rest ih =>
    have same := member_congr (alone x .self).2 (intact x .self) key
    have inner : s.Intact t (s.member (.value x) key) := by
      obtain missing | held := member_held (alone x .self).2 key
      · rw [missing]
        exact .null
      · exact intact.of_within (.member .self held)
    obtain ⟨u,finds,again,still⟩ := ih (alone.member key) inner
    refine ⟨u,finds.cons (alone x .self).1,.cons (alone x .self).1 ?_,still⟩
    rwa [same]

theorem Sets.nil (plain : ∀ a, v ≠ .ref a) : s.Sets t v x v [] :=
  ⟨.nil plain,fun _ _ parts => absurd List.nil_prefix parts.1⟩

/-- One accessor more, before those along which the value is set. -/
theorem Sets.cons (plain : ∀ a, x ≠ .ref a) (plainAfter : ∀ a, y ≠ .ref a)
    (others : ∀ other, other.Counts → other ≠ key →
      t.member (.value y) other = s.member (.value x) other ∧
        s.SelfContained (s.member (.value x) other) ∧ s.Intact t (s.member (.value x) other))
    (inner : s.Sets t v (s.member (.value x) key) (t.member (.value y) key) rest) :
    s.Sets t v x y (key :: rest) := by
  refine ⟨inner.here.cons plainAfter,fun other forward parts => ?_⟩
  cases other with
  | nil => exact absurd List.nil_prefix parts.2
  | cons first other =>
    obtain ⟨counts,forward⟩ := not_backward_cons.mp forward
    by_cases same : first = key
    · subst same
      have parts : Parts rest other :=
        ⟨fun head => parts.1 (List.cons_prefix_cons.mpr ⟨rfl,head⟩),
          fun head => parts.2 (List.cons_prefix_cons.mpr ⟨rfl,head⟩)⟩
      obtain ⟨u,before,after,intact⟩ := inner.elsewhere other forward parts
      exact ⟨u,before.cons plain,after.cons plainAfter,intact⟩
    · obtain ⟨member,alone,intact⟩ := others first counts same
      obtain ⟨u,before,after,still⟩ := intact.finds alone other
      refine ⟨u,before.cons plain,.cons plainAfter ?_,still⟩
      rwa [member]

theorem landing_missing {container : Spot} (more : (s.landing container key rest).left ≠ []) :
    s.member (s.landing container key rest).container (s.landing container key rest).key = .null := by
  induction rest generalizing container key with
  | nil => exact absurd rfl more
  | cons next rest ih =>
    unfold landing at more ⊢
    split at more
    · next missing => rwa [if_pos missing]
    · next found =>
      rw [if_neg found]
      exact ih more

theorem landing_within (alone : s.SelfContained x) {last : Segment} {left : List Segment}
    (lands : s.landing (.value x) key rest = ⟨.value z,last,left⟩) (something : z ≠ .null) :
    s.Within x z := by
  obtain ⟨before,lies,-⟩ := landing_lies (s := s) (.value x) key rest
  obtain ⟨u,finds,within⟩ := alone.finds before
  rw [lands,finds.2] at lies
  obtain rfl := Spot.value.inj lies
  exact within.resolve_left something

/-- If one entry of the container where a path lands is all that changes below the root, and the
accessors left lead to the value from what was entered, then so does the path. -/
theorem sets_of_landing (apart : (s.layout [root]).Apart) (alone : s.SelfContained root)
    (mutable : z.isMutable = true)
    (kept : ∀ u, s.Within root u → u ≠ z → ∀ shelf a, u.spot? = some (shelf,a) →
      t.object shelf a = s.object shelf a)
    {last : Segment} {left : List Segment}
    (entered : ∀ other, other.Counts → t.member (.value z) other =
      if other = last then y else s.member (.value z) other)
    (below : s.Sets t v (s.member (.value z) last) y left) (inside : s.Within root x)
    (forward : ¬ Backward (key :: rest))
    (lands : s.landing (.value x) key rest = ⟨.value z,last,left⟩) :
    s.Sets t v x x (key :: rest) := by
  have plain {x : Value} (inside : s.Within root x) := (alone x inside).1
  have landed (inside : s.Within root z) (counts : last.Counts) : s.Sets t v z z (last :: left) := by
    refine .cons (plain inside) (plain inside) (fun other counts differ => ?_) ?_
    · refine ⟨by rw [entered other counts,if_neg differ],(alone.of_within inside).member other,?_⟩
      obtain missing | held := member_held (alone z inside).2 other
      · rw [missing]
        exact .null
      · intro u within
        refine kept u (inside.trans (within.of_held held)) ?_
        rintro rfl
        exact not_within_member apart inside held mutable within
    · rwa [entered last counts,if_pos rfl]
  induction rest generalizing x key with
  | nil =>
    cases lands
    exact landed inside (not_backward_cons.mp forward).1
  | cons next rest ih =>
    obtain ⟨counts,onwards⟩ := not_backward_cons.mp forward
    unfold landing at lands
    split at lands
    · cases lands
      exact landed inside counts
    · next found =>
      have held := (member_held (alone x inside).2 key).resolve_left found
      have inner := inside.member held
      have within : s.Within (s.member (.value x) key) z := by
        refine landing_within (alone.of_within inner) lands ?_
        rintro rfl
        cases mutable
      -- the container on the way holds the one that changes, so it is another one
      have differ : x ≠ z := by
        rintro rfl
        exact not_within_member apart inside held mutable within
      have same : ∀ other, t.member (.value x) other = s.member (.value x) other :=
        member_congr (alone x inside).2 (kept x inside differ)
      refine .cons (plain inside) (plain inside) (fun other otherCounts apartKey => ?_) ?_
      · refine ⟨same other,(alone.of_within inside).member other,?_⟩
        by_cases missing : s.member (.value x) other = .null
        · rw [missing]
          exact .null
        · obtain ⟨m,n,places,here,there⟩ := member_places (alone x inside).2 (Ne.symm apartKey) counts
            otherCounts found missing
          -- what lies beside the way does not hold the one that changes
          intro u withinOther
          have inOther := inside.member (List.mem_of_getElem? there)
          refine kept u (inOther.trans withinOther) ?_
          rintro rfl
          exact not_within_beside apart inside places here there mutable within withinOther
      · rw [same key]
        exact ih inner onwards lands

end Store
end PageRuntime
