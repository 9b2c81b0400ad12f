import Mathlib.Data.Finset.Card

/-! Properties reached in stages. Where each stage is decided by the one before it and only finitely
many things can still join, no more stages are needed than there are such things. -/
namespace PageRuntime

/-- `stage n` is what is reached after `n` stages; after the first, only what is `possible` joins. -/
structure Staged {α : Type} (stage : Nat → α → Prop) (possible : Finset α) : Prop where
  grows : ∀ n x, stage n x → stage (n + 1) x
  closes : ∀ n, (∀ x, stage (n + 1) x → stage n x) → ∀ x, stage (n + 2) x → stage (n + 1) x
  inside : ∀ n x, stage (n + 2) x → ¬ stage (n + 1) x → x ∈ possible

namespace Staged
open Classical

variable {α : Type} {stage : Nat → α → Prop} {possible : Finset α} (staged : Staged stage possible)
include staged

theorem mono {n m : Nat} (later : n ≤ m) {x : α} (reached : stage n x) : stage m x := by
  induction later with
  | refl => exact reached
  | step _ ih => exact staged.grows _ _ ih

theorem stable_or_many (n : Nat) : (∀ x, stage (n + 2) x → stage (n + 1) x) ∨
    n < (possible.filter (stage (n + 2))).card := by
  have grows (n : Nat) : (∀ x, stage (n + 2) x → stage (n + 1) x) ∨
      (possible.filter (stage (n + 1))).card < (possible.filter (stage (n + 2))).card := by
    by_cases stable : ∀ x, stage (n + 2) x → stage (n + 1) x
    · exact .inl stable
    · right
      simp only [not_forall] at stable
      obtain ⟨x,reached,before⟩ := stable
      refine Finset.card_lt_card ((Finset.ssubset_iff_of_subset ?_).mpr ⟨x,?_,?_⟩)
      · intro y member
        simp only [Finset.mem_filter] at member ⊢
        exact ⟨member.1,staged.grows _ _ member.2⟩
      · exact Finset.mem_filter.mpr ⟨staged.inside n x reached before,reached⟩
      · exact fun member => before (Finset.mem_filter.mp member).2
  induction n with
  | zero =>
    obtain stable | growth := grows 0
    · exact .inl stable
    · exact .inr (Nat.zero_lt_of_lt growth)
  | succ n ih =>
    obtain stable | many := ih
    · exact .inl (staged.closes _ stable)
    · obtain stable | growth := grows (n + 1)
      · exact .inl stable
      · exact .inr (Nat.lt_of_le_of_lt many growth)

theorem stable (n : Nat) (x : α) (reached : stage n x) : stage (possible.card + 1) x := by
  have last : ∀ x, stage (possible.card + 2) x → stage (possible.card + 1) x := by
    obtain stable | many := staged.stable_or_many possible.card
    · exact stable
    · exact absurd many (Nat.not_lt.mpr (Finset.card_filter_le _ _))
  have later (more : Nat) : ∀ x, stage (possible.card + 1 + more + 1) x →
      stage (possible.card + 1 + more) x := by
    induction more with
    | zero => exact last
    | succ more ih => exact staged.closes _ ih
  have back (more : Nat) : stage (possible.card + 1 + more) x → stage (possible.card + 1) x := by
    induction more with
    | zero => exact id
    | succ more ih => exact fun reached => ih (later more x reached)
  obtain few | many := Nat.le_total n (possible.card + 1)
  · exact staged.mono few reached
  · obtain ⟨more,rfl⟩ := Nat.exists_eq_add_of_le many
    exact back more reached

/-- Where only what is possible joins after the start, there are no more stages than that. -/
theorem stable_from (first : ∀ x, stage 1 x → ¬ stage 0 x → x ∈ possible) (n : Nat) (x : α)
    (reached : stage n x) : stage possible.card x := by
  by_cases joins : ∃ y, stage 1 y ∧ ¬ stage 0 y
  · obtain ⟨y,early,late⟩ := joins
    have member := first y early late
    have fewer : Staged stage (possible.erase y) :=
      ⟨staged.grows,staged.closes,fun n x reached before => Finset.mem_erase.mpr
        ⟨fun same => before (same ▸ staged.mono (Nat.succ_le_succ (Nat.zero_le n)) early),
          staged.inside n x reached before⟩⟩
    have enough := fewer.stable n x reached
    rwa [Finset.card_erase_of_mem member,
      Nat.sub_add_cancel (Finset.card_pos.mpr ⟨y,member⟩)] at enough
  · have still : ∀ n x, stage (n + 1) x → stage n x := by
      intro n
      induction n with
      | zero => exact fun x early => Classical.not_not.mp fun late => joins ⟨x,early,late⟩
      | succ n ih => exact staged.closes n ih
    have start : ∀ n x, stage n x → stage 0 x := by
      intro n
      induction n with
      | zero => exact fun _ => id
      | succ n ih => exact fun x reached => ih x (still n x reached)
    exact staged.mono (Nat.zero_le _) (start n x reached)

end Staged
end PageRuntime
