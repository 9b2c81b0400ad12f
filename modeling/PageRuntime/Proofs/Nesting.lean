import Mathlib.Data.List.Perm.Subperm
import Mathlib.Logic.Relation

/-! How deep things nest that are made of parts. Where nothing is part of itself, however far down, a
way from whole to part meets everything at most once, so it is no longer than there are things that
have parts. -/
namespace PageRuntime

section

variable {α : Type} (parts : α → List α)

/-- One is a part of the other, one step down. -/
def HasPart (whole part : α) : Prop := part ∈ parts whole

/-- Nothing that is reached from whole to part is reached from itself again. -/
def Unlooped (v : α) : Prop :=
  ∀ w, Relation.ReflTransGen (HasPart parts) v w → ¬ Relation.TransGen (HasPart parts) w w

/-- Every way from whole to part has fewer steps than given, the first thing counted. -/
def NestsWithin : Nat → α → Prop
  | 0, _ => False
  | fuel + 1, v => ∀ w ∈ parts v, NestsWithin fuel w

variable {parts}

theorem Unlooped.part {v w : α} (unlooped : Unlooped parts v) (part : w ∈ parts v) :
    Unlooped parts w :=
  fun u reached => unlooped u (.head part reached)

theorem Unlooped.of_parts {v : α} (below : ∀ w ∈ parts v, Unlooped parts w) : Unlooped parts v := by
  intro w reached around
  obtain rfl | ⟨x,part,onward⟩ := Relation.ReflTransGen.cases_head reached
  · obtain ⟨x,part,onward⟩ := Relation.TransGen.head'_iff.mp around
    exact below x part _ onward around
  · exact below x part w onward around

theorem NestsWithin.mono {fuel more : Nat} (enough : fuel ≤ more) {v : α}
    (nests : NestsWithin parts fuel v) : NestsWithin parts more v := by
  induction more generalizing fuel v with
  | zero =>
    obtain rfl := Nat.le_zero.mp enough
    exact nests
  | succ more ih =>
    cases fuel with
    | zero => cases nests
    | succ fuel => exact fun w part => ih (Nat.le_of_succ_le_succ enough) (nests w part)

/-- The way to a thing so far: different holders, each of which it is a part of, however far down. -/
structure Descended (parts : α → List α) (holders trail : List α) (v : α) : Prop where
  once : trail.Nodup
  held : ∀ u ∈ trail, u ∈ holders
  above : ∀ u ∈ trail, Relation.TransGen (HasPart parts) u v

namespace Descended

variable {holders trail : List α} {v w : α} (descended : Descended parts holders trail v)
include descended

theorem length_le : trail.length ≤ holders.length := (descended.once.subperm descended.held).length_le

theorem extend (new : v ∉ trail) (holder : v ∈ holders) (part : w ∈ parts v) :
    Descended parts holders (v :: trail) w where
  once := List.nodup_cons.mpr ⟨new,descended.once⟩
  held u member := by
    obtain rfl | member := List.mem_cons.mp member
    · exact holder
    · exact descended.held u member
  above u member := by
    obtain rfl | member := List.mem_cons.mp member
    · exact .single part
    · exact (descended.above u member).tail part

theorem part (unlooped : Unlooped parts v) (holder : v ∈ holders) (part : w ∈ parts v) :
    Descended parts holders (v :: trail) w :=
  descended.extend (fun member => unlooped v .refl (descended.above v member)) holder part

/-- What the way has left of the holders bounds how deep it goes on. With a level to spare, things
without parts need not be holders. -/
theorem nestsWithin (spare : Nat) {fuel : Nat} (unlooped : Unlooped parts v)
    (holds : ∀ w, Relation.ReflTransGen (HasPart parts) v w →
      w ∈ holders ∨ parts w = [] ∧ 0 < spare)
    (enough : holders.length + spare ≤ trail.length + fuel) : NestsWithin parts fuel v := by
  induction fuel generalizing trail v with
  | zero =>
    have few := descended.length_le
    obtain holder | ⟨-,positive⟩ := holds v .refl
    · have new : v ∉ trail := fun member => unlooped v .refl (descended.above v member)
      have more : (v :: trail).length ≤ holders.length :=
        ((List.nodup_cons.mpr ⟨new,descended.once⟩).subperm
          (List.cons_subset.mpr ⟨holder,descended.held⟩)).length_le
      rw [List.length_cons] at more
      omega
    · omega
  | succ fuel ih =>
    intro w part
    have holder : v ∈ holders := by
      obtain holder | ⟨none,-⟩ := holds v .refl
      · exact holder
      · rw [none] at part
        cases part
    exact ih (descended.part unlooped holder part) (unlooped.part part)
      (fun u reached => holds u (.head part reached)) (by rw [List.length_cons]; omega)

end Descended

variable (holders : List α) {v : α} (unlooped : Unlooped parts v)
include unlooped

theorem Unlooped.nestsWithin
    (holds : ∀ w, Relation.ReflTransGen (HasPart parts) v w → w ∈ holders) :
    NestsWithin parts holders.length v :=
  Descended.nestsWithin ⟨.nil,nofun,nofun⟩ 0 unlooped (fun w reached => .inl (holds w reached))
    (by simp)

theorem Unlooped.nestsWithin_succ
    (holds : ∀ w, Relation.ReflTransGen (HasPart parts) v w → w ∈ holders ∨ parts w = []) :
    NestsWithin parts (holders.length + 1) v :=
  Descended.nestsWithin ⟨.nil,nofun,nofun⟩ 1 unlooped
    (fun w reached => (holds w reached).imp_right fun none => ⟨none,Nat.zero_lt_one⟩) (by simp)

end
end PageRuntime
