import Mathlib.Data.List.Perm.Subperm
import Mathlib.Logic.Relation
import PageRuntime.Value

/-! Layouts: which values hold which, from some values on top. A layout keeps its values apart if
nothing in it that can change is held twice. A value may then be moved from one holder to another,
taken out of its container or put into a new one, and all stays apart. -/
namespace PageRuntime
open Relation (ReflTransGen TransGen)

/-- Values that can change in place. -/
def Value.isMutable : Value → Bool
  | .list _ | .dict _ | .blob _ => true
  | _ => false

/-- The values on top, and those that each value holds. -/
structure Layout where
  top : List Value
  under : Value → List Value

namespace Layout

/-- What a holder holds; no value stands for the top. -/
def held (l : Layout) : Option Value → List Value
  | none => l.top
  | some v => l.under v

/-- The values on top and all that lies under them. -/
inductive Shows (l : Layout) : Value → Prop
  | top {v : Value} (member : v ∈ l.top) : Shows l v
  | under {v w : Value} (shown : Shows l v) (member : w ∈ l.under v) : Shows l w

def Open (l : Layout) : Option Value → Prop
  | none => True
  | some v => l.Shows v

/-- The value can change, or something that lies under it can. -/
inductive Bears (l : Layout) : Value → Prop
  | itself {v : Value} (mutable : v.isMutable = true) : Bears l v
  | under {v w : Value} (member : w ∈ l.under v) (bears : Bears l w) : Bears l v

/-- What can change is held by one holder alone, and once. -/
structure Apart (l : Layout) : Prop where
  once : ∀ h v, l.Open h → l.Bears v → (l.held h).count v ≤ 1
  alone : ∀ h k v, h ≠ k → l.Open h → l.Open k → l.Bears v →
    (l.held h).count v + (l.held k).count v ≤ 1

variable {l m : Layout}

theorem shows_of_held {h : Option Value} (holds : l.Open h) {v : Value} (member : v ∈ l.held h) :
    l.Shows v := by
  cases h with
  | none => exact .top member
  | some _ => exact .under holds member

/-- Only values that are shown are held by an open holder. -/
theorem apart_of (once : ∀ h v, l.Open h → l.Shows v → l.Bears v → (l.held h).count v ≤ 1)
    (alone : ∀ h k v, h ≠ k → l.Open h → l.Open k → l.Shows v → l.Bears v →
      (l.held h).count v + (l.held k).count v ≤ 1) : l.Apart := by
  have absent {h : Option Value} {v : Value} (holds : l.Open h) (hidden : ¬ l.Shows v) :
      (l.held h).count v = 0 :=
    List.count_eq_zero.mpr fun member => hidden (shows_of_held holds member)
  constructor
  · intro h v holds bears
    by_cases shown : l.Shows v
    · exact once h v holds shown bears
    · rw [absent holds shown]
      exact Nat.zero_le 1
  · intro h k v differ holds holdsOther bears
    by_cases shown : l.Shows v
    · exact alone h k v differ holds holdsOther shown bears
    · rw [absent holds shown,absent holdsOther shown]
      exact Nat.zero_le 1

/-- Where two layouts differ at most in what the holders `p` hold, being borne is the same if these
can change. -/
theorem bears_of {p : Value → Prop} (mutable : ∀ v, p v → v.isMutable = true)
    (less : ∀ v, ¬ p v → l.Shows v → m.under v ⊆ l.under v) {v : Value} (shown : l.Shows v)
    (bears : m.Bears v) : l.Bears v := by
  induction bears with
  | itself mutable => exact .itself mutable
  | @under v w member bears ih =>
    by_cases here : p v
    · exact .itself (mutable v here)
    · have member := less v here shown member
      exact .under member (ih (.under shown member))

/-! A layout that holds less. -/
section Less

variable (less : ∀ h, l.Open h → (m.held h).Subperm (l.held h))
include less

theorem shows_of_less {v : Value} (shown : m.Shows v) : l.Shows v := by
  induction shown with
  | top member => exact .top ((less none trivial).subset member)
  | @under v w _ member ih => exact .under ih ((less (some v) ih).subset member)

theorem open_of_less : ∀ h, m.Open h → l.Open h
  | none, _ => trivial
  | some _, shown => shows_of_less less shown

theorem Apart.of_less (apart : l.Apart) : m.Apart := by
  have bears {v : Value} (shown : m.Shows v) (bears : m.Bears v) : l.Bears v :=
    bears_of (p := fun _ => False) (fun _ => False.elim)
      (fun w _ shown => (less (some w) shown).subset) (shows_of_less less shown) bears
  refine apart_of ?_ ?_
  · intro h v holds shown here
    have holds := open_of_less less h holds
    exact Nat.le_trans ((less h holds).count_le v) (apart.once h v holds (bears shown here))
  · intro h k v differ holds other shown here
    have holds := open_of_less less h holds
    have other := open_of_less less k other
    have most := apart.alone h k v differ holds other (bears shown here)
    have first := (less h holds).count_le v
    have second := (less k other).count_le v
    omega

end Less

/-- The value can change, or something under it can, and the other value holds it. -/
structure HeldBy (l : Layout) (v u : Value) : Prop where
  shown : l.Shows u
  bears : l.Bears v
  member : v ∈ l.under u

theorem Apart.holder_unique (apart : l.Apart) {v u w : Value} (held : l.HeldBy v u)
    (other : l.HeldBy v w) : u = w := by
  by_contra differ
  have most := apart.alone (some u) (some w) v (fun same => differ (Option.some.inj same))
    held.shown other.shown held.bears
  have one : 0 < (l.under u).count v := List.count_pos_iff.mpr held.member
  have two : 0 < (l.under w).count v := List.count_pos_iff.mpr other.member
  simp only [Layout.held] at most
  omega

theorem Apart.no_loop (apart : l.Apart) {v : Value} (shown : l.Shows v) :
    ¬ TransGen l.HeldBy v v := by
  induction shown with
  | @top v member =>
    intro loop
    obtain ⟨u,held,-⟩ := TransGen.head'_iff.mp loop
    have most := apart.alone none (some u) v nofun trivial held.shown held.bears
    have one : 0 < l.top.count v := List.count_pos_iff.mpr member
    have two : 0 < (l.under u).count v := List.count_pos_iff.mpr held.member
    simp only [Layout.held] at most
    omega
  | @under u v shown member ih =>
    intro loop
    obtain ⟨w,held,rest⟩ := TransGen.head'_iff.mp loop
    have own : l.HeldBy v u := ⟨shown,held.bears,member⟩
    obtain rfl := apart.holder_unique own held
    exact ih (.tail' rest own)

/-- What is held side by side bears nothing in common. -/
theorem Apart.fork (apart : l.Apart) {u v w x : Value} (held : l.HeldBy v u) (beside : l.HeldBy w u)
    (differ : v ≠ w) (left : ReflTransGen l.HeldBy x v) (right : ReflTransGen l.HeldBy x w) :
    False := by
  have across {v w : Value} (held : l.HeldBy v u) (beside : l.HeldBy w u) (differ : v ≠ w)
      (up : ReflTransGen l.HeldBy v w) : False := by
    obtain same | ⟨p,first,rest⟩ := up.cases_head
    · exact differ same
    · obtain rfl := apart.holder_unique held first
      exact apart.no_loop held.shown (.tail' rest beside)
  have unique : Relator.RightUnique l.HeldBy := fun _ _ _ held other => apart.holder_unique held other
  obtain up | down := ReflTransGen.total_of_right_unique unique left right
  · exact across held beside differ up
  · exact across beside held differ.symm down

/-- Nothing that is shown and bears holds itself. -/
theorem Apart.not_within (apart : l.Apart) {v : Value} (shown : l.Shows v) (bears : l.Bears v) :
    v ∉ l.under v := fun within => apart.no_loop shown (.single ⟨shown,bears,within⟩)

/-! Values that go from one holder to another. -/
section Move

variable {a b : Option Value} {moved : List Value} (differ : a ≠ b) (holds : l.Open a)
  (mutable : ∀ v, some v = a ∨ some v = b → v.isMutable = true)
  (leaves : (moved ++ m.held a).Subperm (l.held a))
  (comes : (m.held b).Subperm (moved ++ l.held b))
  (others : ∀ h, h ≠ a → h ≠ b → l.Open h → (m.held h).Subperm (l.held h))
include holds leaves comes others

theorem shows_of_move {v : Value} (shown : m.Shows v) : l.Shows v := by
  have within (h : Option Value) (holdsToo : l.Open h) {v : Value} (member : v ∈ m.held h) :
      l.Shows v := by
    by_cases fromHere : h = a
    · subst fromHere
      exact shows_of_held holds (leaves.subset (List.mem_append_right moved member))
    · by_cases toHere : h = b
      · subst toHere
        obtain member | member := List.mem_append.mp (comes.subset member)
        · exact shows_of_held holds (leaves.subset (List.mem_append_left _ member))
        · exact shows_of_held holdsToo member
      · exact shows_of_held holdsToo ((others h fromHere toHere holdsToo).subset member)
  induction shown with
  | top member => exact within none trivial member
  | @under v u _ member ih => exact within (some v) ih member

include differ mutable

theorem Apart.move (apart : l.Apart) : m.Apart := by
  have shows {v : Value} (shown : m.Shows v) : l.Shows v :=
    shows_of_move holds leaves comes others shown
  have opens : ∀ h, m.Open h → l.Open h
    | none, _ => trivial
    | some _, shown => shows shown
  have bears {v : Value} (shown : m.Shows v) (here : m.Bears v) : l.Bears v :=
    bears_of (p := fun v => some v = a ∨ some v = b) mutable
      (fun v apart shown => (others (some v) (fun same => apart (.inl same))
        (fun same => apart (.inr same)) shown).subset) (shows shown) here
  have gone (v : Value) := leaves.count_le v
  have come (v : Value) := comes.count_le v
  simp only [List.count_append] at gone come
  refine apart_of ?_ ?_
  · intro h v holdsToo shown here
    have here := bears shown here
    have holdsToo := opens h holdsToo
    have once := apart.once h v holdsToo here
    have gone := gone v
    have come := come v
    by_cases fromHere : h = a
    · subst fromHere
      omega
    · by_cases toHere : h = b
      · subst toHere
        have most := apart.alone a h v differ holds holdsToo here
        omega
      · exact Nat.le_trans ((others h fromHere toHere holdsToo).count_le v) once
  · -- what is held by both `h` and `k` was so before, or came to one of them from `a`
    have sorted (h k : Option Value) (v : Value) (apartFrom : h ≠ k) (notFirst : k ≠ a)
        (holdsToo : l.Open h) (other : l.Open k) (here : l.Bears v) :
        (m.held h).count v + (m.held k).count v ≤ 1 := by
      have most := apart.alone h k v apartFrom holdsToo other here
      have fromOther := apart.alone k a v notFirst other holds here
      have once := apart.once a v holds here
      have gone := gone v
      have come := come v
      have same (x : Option Value) (fromHere : x ≠ a) (toHere : x ≠ b) (open' : l.Open x) :=
        (others x fromHere toHere open').count_le v
      by_cases fromHere : h = a
      · subst fromHere
        by_cases toHere : k = b
        · subst toHere
          omega
        · have second := same k notFirst toHere other
          omega
      · have fromThis := apart.alone h a v fromHere holdsToo holds here
        by_cases toHere : h = b
        · subst toHere
          have second := same k notFirst (Ne.symm apartFrom) other
          omega
        · have first := same h fromHere toHere holdsToo
          by_cases toThere : k = b
          · subst toThere
            omega
          · have second := same k notFirst toThere other
            omega
    intro h k v apartFrom holdsToo other shown here
    have here := bears shown here
    by_cases second : k = a
    · subst second
      rw [Nat.add_comm]
      exact sorted k h v (Ne.symm apartFrom) apartFrom (opens k other) (opens h holdsToo) here
    · exact sorted h k v apartFrom second (opens h holdsToo) (opens k other) here

end Move

/-! A container that is opened, and what it holds put on top in its place. -/
section Unwrap

variable {v : Value} {rest : List Value} (leaves : (v :: rest).Subperm l.top)
include leaves

theorem shows_of_unwrap {w : Value} (shown : (⟨l.under v ++ rest,l.under⟩ : Layout).Shows w) :
    l.Shows w := by
  induction shown with
  | top member =>
    obtain inside | member := List.mem_append.mp member
    · exact .under (.top (leaves.subset List.mem_cons_self)) inside
    · exact .top (leaves.subset (List.mem_cons_of_mem v member))
  | under _ member ih => exact .under ih member

theorem Apart.unwrap (apart : l.Apart) : (⟨l.under v ++ rest,l.under⟩ : Layout).Apart := by
  have shows {w : Value} (shown : (⟨l.under v ++ rest,l.under⟩ : Layout).Shows w) : l.Shows w :=
    shows_of_unwrap leaves shown
  have bears {w : Value} (here : (⟨l.under v ++ rest,l.under⟩ : Layout).Bears w) : l.Bears w := by
    induction here with
    | itself mutable => exact .itself mutable
    | under member _ ih => exact .under member ih
  have container : l.Shows v := .top (leaves.subset List.mem_cons_self)
  have gone (w : Value) := leaves.count_le w
  simp only [List.count_cons] at gone
  -- once opened, the container is held by nothing
  have dropped (here : l.Bears v) : ¬ (⟨l.under v ++ rest,l.under⟩ : Layout).Shows v := by
    have gone := gone v
    have once := apart.once none v trivial here
    simp only [held,beq_self_eq_true,if_true] at gone once
    intro shown
    cases shown with
    | top member =>
      obtain inside | member := List.mem_append.mp member
      · exact apart.not_within container here inside
      · have again : 0 < rest.count v := List.count_pos_iff.mpr member
        omega
    | @under u _ shown member =>
      have again : 0 < (l.under u).count v := List.count_pos_iff.mpr member
      have most := apart.alone none (some u) v nofun trivial (shows shown) here
      simp only [held] at most
      omega
  have onTop (w : Value) (here : l.Bears w) : (l.under v ++ rest).count w ≤ 1 := by
    have most := apart.alone none (some v) w nofun trivial container here
    have gone := gone w
    simp only [held] at most
    rw [List.count_append]
    omega
  have below (w u : Value) (here : l.Bears w)
      (shown : (⟨l.under v ++ rest,l.under⟩ : Layout).Shows u) :
      (l.under v ++ rest).count w + (l.under u).count w ≤ 1 := by
    have most := apart.alone none (some v) w nofun trivial container here
    have other := apart.alone none (some u) w nofun trivial (shows shown) here
    have gone := gone w
    simp only [held] at most other
    rw [List.count_append]
    by_cases same : v = u
    · subst same
      by_cases inside : w ∈ l.under v
      · exact absurd shown (dropped (.under inside here))
      · have none := List.count_eq_zero.mpr inside
        omega
    · have both := apart.alone (some v) (some u) w (fun eq => same (Option.some.inj eq)) container
        (shows shown) here
      simp only [held] at both
      omega
  refine apart_of ?_ ?_
  · intro h w holds shown here
    cases h with
    | none => exact onTop w (bears here)
    | some u => exact apart.once (some u) w (shows holds) (bears here)
  · intro h k w differ holds other shown here
    cases h with
    | none =>
      cases k with
      | none => exact absurd rfl differ
      | some u => exact below w u (bears here) other
    | some u =>
      cases k with
      | none =>
        rw [Nat.add_comm]
        exact below w u (bears here) holds
      | some x => exact apart.alone (some u) (some x) w differ (shows holds) (shows other) (bears here)

end Unwrap

/-! Values on top that are put into a new container. -/
section Wrap

variable {made : Value} {rest : List Value} (fresh : ¬ l.Shows made)
  (same : ∀ v, l.Shows v → m.under v = l.under v)
  (leaves : (m.under made ++ rest).Subperm l.top) (top : m.top.Subperm (made :: rest))
include same leaves top

theorem shows_of_wrap {v : Value} (shown : m.Shows v) : v = made ∨ l.Shows v := by
  have inside {w : Value} (member : w ∈ m.under made) : l.Shows w :=
    .top (leaves.subset (List.mem_append_left rest member))
  induction shown with
  | top member =>
    obtain rfl | member := List.mem_cons.mp (top.subset member)
    · exact .inl rfl
    · exact .inr (.top (leaves.subset (List.mem_append_right _ member)))
  | @under v w _ member ih =>
    obtain rfl | ih := ih
    · exact .inr (inside member)
    · rw [same v ih] at member
      exact .inr (.under ih member)

include fresh

theorem Apart.wrap (apart : l.Apart) : m.Apart := by
  have shows {v : Value} (shown : m.Shows v) : v = made ∨ l.Shows v :=
    shows_of_wrap same leaves top shown
  have bears {v : Value} (shown : l.Shows v) (here : m.Bears v) : l.Bears v :=
    bears_of (p := fun _ => False) (fun _ => False.elim)
      (fun v _ shown => same v shown ▸ List.Subset.refl _) shown here
  have gone (v : Value) := leaves.count_le v
  have come (v : Value) := top.count_le v
  simp only [List.count_cons,List.count_append] at gone come
  -- the new container is held on top alone
  have madeOnce : m.top.count made ≤ 1 ∧ ∀ v, m.Shows v → (m.under v).count made = 0 := by
    have absent : l.top.count made = 0 :=
      List.count_eq_zero.mpr fun member => fresh (.top member)
    have gone := gone made
    have come := come made
    simp only [beq_self_eq_true,if_true] at come
    refine ⟨by omega,fun v shown => ?_⟩
    obtain rfl | shown := shows shown
    · omega
    · rw [same v shown]
      exact List.count_eq_zero.mpr fun member => fresh (.under shown member)
  have other (v : Value) (differ : made ≠ v) : m.top.count v + (m.under made).count v ≤
      l.top.count v := by
    have gone := gone v
    have come := come v
    rw [if_neg (by simpa using differ)] at come
    omega
  have below (v u : Value) (shown : l.Shows v) (here : l.Bears v) (holds : m.Shows u) :
      m.top.count v + (m.under u).count v ≤ 1 := by
    have less := other v (by rintro rfl; exact fresh shown)
    obtain rfl | holds := shows holds
    · exact Nat.le_trans less (apart.once none v trivial here)
    · have most := apart.alone none (some u) v nofun trivial holds here
      simp only [held] at most
      rw [same u holds]
      omega
  refine apart_of ?_ ?_
  · intro h v holds shown here
    obtain rfl | shown := shows shown
    · cases h with
      | none => exact madeOnce.1
      | some u => exact Nat.le_trans (Nat.le_of_eq (madeOnce.2 u holds)) (Nat.zero_le 1)
    · have here := bears shown here
      cases h with
      | none =>
        have less := other v (by rintro rfl; exact fresh shown)
        have once := apart.once none v trivial here
        simp only [held] at once ⊢
        omega
      | some u =>
        have less := below v u shown here holds
        simp only [held]
        omega
  · intro h k v differ holds otherHolds shown here
    obtain rfl | shown := shows shown
    · have := madeOnce.1
      cases h with
      | none =>
        cases k with
        | none => exact absurd rfl differ
        | some u =>
          have none := madeOnce.2 u otherHolds
          simp only [held]
          omega
      | some u =>
        have none := madeOnce.2 u holds
        cases k with
        | none =>
          simp only [held]
          omega
        | some x =>
          have noneToo := madeOnce.2 x otherHolds
          simp only [held]
          omega
    · have here := bears shown here
      cases h with
      | none =>
        cases k with
        | none => exact absurd rfl differ
        | some u => exact below v u shown here otherHolds
      | some u =>
        cases k with
        | none =>
          rw [Nat.add_comm]
          exact below v u shown here holds
        | some x =>
          have less := other v (by rintro rfl; exact fresh shown)
          simp only [held]
          obtain rfl | holds := shows holds
          · obtain rfl | otherHolds := shows otherHolds
            · exact absurd rfl differ
            · have most := apart.alone none (some x) v nofun trivial otherHolds here
              simp only [held] at most
              rw [same x otherHolds]
              omega
          · obtain rfl | otherHolds := shows otherHolds
            · have most := apart.alone none (some u) v nofun trivial holds here
              simp only [held] at most
              rw [same u holds]
              omega
            · rw [same u holds,same x otherHolds]
              exact apart.alone (some u) (some x) v differ holds otherHolds here

end Wrap

end Layout
end PageRuntime
