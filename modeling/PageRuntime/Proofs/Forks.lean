import PageRuntime.Proofs.Containment

/-! Forks. Where nothing that can change is held twice below a value, nothing that can change lies within
one of its members, and what lies at two places of a container has nothing in common that can change. -/
namespace PageRuntime
open Relation (ReflTransGen)

namespace Store

variable {s : Store} {root u v x : Value}

theorem parts_of_members (held : v ∈ s.members u) (container : v.isContainer = true) :
    v ∈ s.parts u := List.mem_filter.mpr ⟨held,container⟩

theorem shows_of_within (within : s.Within root u) (container : u.isContainer = true) :
    (s.layout [root]).Shows u := by
  induction within with
  | self => exact .top (List.mem_filter.mpr ⟨List.mem_singleton_self _,container⟩)
  | member _ held ih =>
    have part := parts_of_members held container
    exact .under (ih (holds_of_parts part)) part

theorem bears_of_within (within : s.Within u x) (bears : (s.layout [root]).Bears x) :
    (s.layout [root]).Bears u := by
  induction within with
  | self => exact bears
  | member _ held ih => exact ih (.under (parts_of_members held (layout_bears bears)) bears)

/-- What lies within a value is held, step by step, by that value. -/
theorem held_of_within (inside : s.Within root u) (within : s.Within u x)
    (bears : (s.layout [root]).Bears x) : ReflTransGen (s.layout [root]).HeldBy x u := by
  induction within with
  | self => exact .refl
  | @member outer inner within held ih =>
    have part := parts_of_members held (layout_bears bears)
    have bearsOuter : (s.layout [root]).Bears outer := .under part bears
    have shown := shows_of_within (inside.trans within) (layout_bears bearsOuter)
    exact .head ⟨shown,bears,part⟩ (ih bearsOuter)

theorem layout_apart_of_leaf (leaf : s.members v = []) : (s.layout [v]).Apart := by
  have only {w : Value} (shown : (s.layout [v]).Shows w) : w = v := by
    induction shown with
    | top member => exact List.mem_singleton.mp (List.mem_filter.mp member).1
    | under _ member ih =>
      subst ih
      have held := (List.mem_filter.mp member).1
      rw [leaf] at held
      cases held
  have most (h : Option Value) (w : Value) (holds : (s.layout [v]).Open h) :
      ((s.layout [v]).held h).count w ≤ if h = none then 1 else 0 := by
    cases h with
    | none => exact Nat.le_trans List.count_le_length (List.length_filter_le _ _)
    | some u =>
      obtain rfl := only holds
      simp [Layout.held,layout,parts,leaf]
  refine ⟨fun h w holds _ => Nat.le_trans (most h w holds) (by split <;> omega),?_⟩
  intro h k w differ holds other _
  refine Nat.le_trans (Nat.add_le_add (most h w holds) (most k w other)) ?_
  split
  · next first => rw [if_neg fun second => differ (first.trans second.symm)]
  · split <;> omega

variable (apart : (s.layout [root]).Apart) (inside : s.Within root u)
include apart inside

theorem not_within_member (held : v ∈ s.members u) (mutable : u.isMutable = true) :
    ¬ s.Within v u := by
  intro within
  have bears : (s.layout [root]).Bears u := .itself mutable
  have bearsMember := bears_of_within within bears
  have part := parts_of_members held (layout_bears bearsMember)
  have shown := shows_of_within inside (layout_bears bears)
  have up := held_of_within (.member inside held) within bears
  exact apart.no_loop shown (.tail' up ⟨shown,bearsMember,part⟩)

/-- Members at two places have nothing in common that can change. -/
theorem not_within_beside {m n : Nat} (differ : m ≠ n) {w : Value} (here : (s.members u)[m]? = some v)
    (there : (s.members u)[n]? = some w) (mutable : x.isMutable = true) (left : s.Within v x) :
    ¬ s.Within w x := by
  intro right
  have bears : (s.layout [root]).Bears x := .itself mutable
  have heldBy {v : Value} (held : v ∈ s.members u) (within : s.Within v x) :
      (s.layout [root]).HeldBy v u := by
    have bearsMember := bears_of_within within bears
    have part := parts_of_members held (layout_bears bearsMember)
    exact ⟨shows_of_within inside (holds_of_parts part),bearsMember,part⟩
  have one := heldBy (List.mem_of_getElem? here) left
  have other := heldBy (List.mem_of_getElem? there) right
  by_cases same : v = w
  · subst same
    have most := apart.once (some u) v one.shown one.bears
    have twice : (s.members u).count v ≤ 1 := by
      refine Nat.le_trans (Nat.le_of_eq ?_) most
      exact (List.count_filter (layout_bears one.bears)).symm
    exact differ (List.count_le_one_iff.mp twice m n here there)
  · exact apart.fork one other same (held_of_within (.member inside (List.mem_of_getElem? here)) left bears)
      (held_of_within (.member inside (List.mem_of_getElem? there)) right bears)

end Store
end PageRuntime
