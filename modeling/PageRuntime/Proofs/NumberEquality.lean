import Mathlib.Tactic.Ring
import PageRuntime.Value.Equal

/-! Equality of numbers. Whole numbers and floating point numbers are compared by the exact value they
have, so a whole number equals at most one magnitude and one sign. Hence equality of numbers is
symmetric and transitive across both spellings; only NaN keeps it from being reflexive. -/
namespace PageRuntime
namespace Number.Binary64

/-- The magnitude of the number with the given bits, counted in the smallest magnitude there is. -/
def units (magnitude : Nat) : Nat :=
  if magnitude < 2 ^ 52 then magnitude
  else (magnitude % 2 ^ 52 + 2 ^ 52) * 2 ^ (magnitude / 2 ^ 52 - 1)

/-- Greater bits mean a greater magnitude. -/
theorem units_lt {m n : Nat} (less : m < n) : units m < units n := by
  unfold units
  have small (k : Nat) : 0 < 2 ^ k := Nat.two_pow_pos k
  split
  · split
    · exact less
    · next near far =>
      calc m < 2 ^ 52 := near
        _ ≤ n % 2 ^ 52 + 2 ^ 52 := Nat.le_add_left _ _
        _ ≤ (n % 2 ^ 52 + 2 ^ 52) * 2 ^ (n / 2 ^ 52 - 1) := Nat.le_mul_of_pos_right _ (small _)
  · next far =>
    rw [if_neg (by omega)]
    have order : m / 2 ^ 52 ≤ n / 2 ^ 52 := Nat.div_le_div_right (Nat.le_of_lt less)
    obtain same | apart := order.eq_or_lt
    · rw [same]
      exact Nat.mul_lt_mul_of_pos_right (by omega) (small _)
    · have bound : m % 2 ^ 52 + 2 ^ 52 < 2 ^ 53 := by omega
      calc (m % 2 ^ 52 + 2 ^ 52) * 2 ^ (m / 2 ^ 52 - 1)
          < 2 ^ 53 * 2 ^ (m / 2 ^ 52 - 1) := Nat.mul_lt_mul_of_pos_right bound (small _)
        _ = 2 ^ 52 * 2 ^ (m / 2 ^ 52) := by rw [← pow_add,← pow_add]; congr 1; omega
        _ ≤ 2 ^ 52 * 2 ^ (n / 2 ^ 52 - 1) :=
          Nat.mul_le_mul_left _ (Nat.pow_le_pow_right (by omega) (by omega))
        _ ≤ (n % 2 ^ 52 + 2 ^ 52) * 2 ^ (n / 2 ^ 52 - 1) := Nat.mul_le_mul_right _ (by omega)

theorem units_inj {m n : Nat} (same : units m = units n) : m = n := by
  by_contra differ
  obtain less | more := Nat.lt_or_gt_of_ne differ
  · exact absurd same (Nat.ne_of_lt (units_lt less))
  · exact absurd same (Nat.ne_of_gt (units_lt more))

theorem units_eq (x : Binary64) :
    units x.magnitude = x.significand * 2 ^ (x.scale + 1074).toNat := by
  unfold units significand scale
  simp only [Nat.pow_eq]
  by_cases near : x.magnitude < 2 ^ 52
  · simp only [if_pos near]
    exact (Nat.mul_one _).symm
  · simp only [if_neg near]
    congr 2
    omega

theorem scale_ge (x : Binary64) : -1074 ≤ x.scale := by
  unfold scale
  simp only [Nat.pow_eq]
  split <;> omega

/-- What a number that is whole says of its bits. -/
structure IsWhole (x : Binary64) (i : Int) : Prop where
  finite : x.isFinite = true
  units : units x.magnitude = i.natAbs * 2 ^ 1074
  sign : i ≠ 0 → (x.isNegative = true ↔ i < 0)

theorem isWhole_of_exactInt {x : Binary64} {i : Int} (exact : x.exactInt? = some i) :
    x.IsWhole i := by
  unfold exactInt? at exact
  split at exact
  · next exactly =>
    obtain ⟨finite,divides⟩ := Bool.and_eq_true_iff.mp exactly
    rw [truncate?,if_pos finite] at exact
    have value : (if x.isNegative then -((x.ratio.1 / x.ratio.2 : Nat) : Int)
        else (x.ratio.1 / x.ratio.2 : Nat)) = i := Option.some.inj exact
    generalize whole : x.ratio.1 / x.ratio.2 = size at value
    have size : i.natAbs = size := by split at value <;> omega
    have product : x.significand * 2 ^ x.scale.toNat = i.natAbs * 2 ^ (-x.scale).toNat := by
      have product := Nat.div_add_mod x.ratio.1 x.ratio.2
      rw [beq_iff_eq.mp divides,whole,← size] at product
      simp only [ratio,Nat.pow_eq] at product
      rw [← product]
      ring
    refine ⟨finite,?_,?_⟩
    · refine Nat.eq_of_mul_eq_mul_right (Nat.two_pow_pos (-x.scale).toNat) ?_
      have bound := x.scale_ge
      have exponents : (x.scale + 1074).toNat + (-x.scale).toNat = x.scale.toNat + 1074 := by omega
      rw [units_eq,Nat.mul_assoc,← pow_add,exponents,pow_add,← Nat.mul_assoc,product,
        Nat.mul_right_comm]
    · intro nonzero
      split at value
      · next negative => exact ⟨fun _ => by omega,fun _ => negative⟩
      · next positive => exact ⟨fun negative => absurd negative positive,fun _ => by omega⟩
  · cases exact

theorem bits_eq {x y : Binary64} (magnitude : x.magnitude = y.magnitude)
    (sign : x.isNegative = y.isNegative) : x.bits = y.bits := by
  unfold Binary64.magnitude at magnitude
  unfold isNegative at sign
  simp only [Nat.pow_eq] at magnitude sign
  have left := x.bits.toNat_lt
  have right := y.bits.toNat_lt
  apply UInt64.toNat.inj
  have side := decide_eq_decide.mp sign
  omega

theorem not_isNaN_of_isFinite {x : Binary64} (finite : x.isFinite = true) : x.isNaN = false := by
  unfold isFinite at finite
  unfold isNaN
  simp only [decide_eq_true_eq,decide_eq_false_iff_not] at *
  omega

/-- Numbers that are the same whole number are equal. -/
theorem equal_of_exactInt {x y : Binary64} {i : Int} (left : x.exactInt? = some i)
    (right : y.exactInt? = some i) : x.equal y = true := by
  have one := isWhole_of_exactInt left
  have other := isWhole_of_exactInt right
  have magnitude : x.magnitude = y.magnitude := units_inj (one.units.trans other.units.symm)
  rw [equal,not_isNaN_of_isFinite one.finite,not_isNaN_of_isFinite other.finite]
  by_cases zero : i = 0
  · have none : units x.magnitude = units 0 := by
      rw [one.units,zero,Int.natAbs_zero,Nat.zero_mul]
      rfl
    have isZero : x.magnitude = 0 := units_inj none
    simp [Binary64.isZero,← magnitude,isZero]
  · have sign : x.isNegative = y.isNegative :=
      Bool.eq_iff_iff.mpr ((one.sign zero).trans (other.sign zero).symm)
    simp [bits_eq magnitude sign]

theorem exactInt_of_isZero {x : Binary64} (zero : x.isZero = true) : x.exactInt? = some 0 := by
  have magnitude : x.magnitude = 0 := by simpa [isZero] using zero
  have ratio : x.ratio.1 = 0 := by simp [ratio,significand,magnitude]
  have finite : x.isFinite = true := by simp [isFinite,magnitude]
  rw [exactInt?,truncate?,finite,ratio]
  simp

theorem exactInt_eq_of_equal {x y : Binary64} (same : x.equal y = true) :
    x.exactInt? = y.exactInt? := by
  unfold equal at same
  obtain ⟨-,same⟩ := Bool.and_eq_true_iff.mp same
  obtain bits | zeros := Bool.or_eq_true_iff.mp same
  · obtain ⟨bits⟩ := x
    obtain rfl : _ = y.bits := beq_iff_eq.mp bits
    rfl
  · obtain ⟨left,right⟩ := Bool.and_eq_true_iff.mp zeros
    rw [exactInt_of_isZero left,exactInt_of_isZero right]

theorem equal_symm {x y : Binary64} (same : x.equal y = true) : y.equal x = true := by
  unfold equal at same ⊢
  simp only [Bool.and_eq_true,Bool.or_eq_true,beq_iff_eq] at same ⊢
  obtain ⟨⟨left,right⟩,bits | ⟨zero,other⟩⟩ := same
  · exact ⟨⟨right,left⟩,.inl bits.symm⟩
  · exact ⟨⟨right,left⟩,.inr ⟨other,zero⟩⟩

theorem equal_trans {x y z : Binary64} (first : x.equal y = true) (second : y.equal z = true) :
    x.equal z = true := by
  unfold equal at first second ⊢
  simp only [Bool.and_eq_true,Bool.or_eq_true,beq_iff_eq] at first second ⊢
  obtain ⟨⟨left,-⟩,bits | ⟨zero,other⟩⟩ := first
  · obtain ⟨⟨-,right⟩,bits' | ⟨zero',other'⟩⟩ := second
    · exact ⟨⟨left,right⟩,.inl (bits.trans bits')⟩
    · refine ⟨⟨left,right⟩,.inr ⟨?_,other'⟩⟩
      rwa [isZero,magnitude,bits]
  · obtain ⟨⟨-,right⟩,bits' | ⟨-,other'⟩⟩ := second
    · refine ⟨⟨left,right⟩,.inr ⟨zero,?_⟩⟩
      rwa [isZero,magnitude,← bits']
    · exact ⟨⟨left,right⟩,.inr ⟨zero,other'⟩⟩

end Number.Binary64

namespace Value
open Number.Binary64

theorem numbersEqual_symm {x y : Int ⊕ Number.Binary64} (same : numbersEqual x y = true) :
    numbersEqual y x = true := by
  cases x <;> cases y
  · simpa [numbersEqual] using (beq_iff_eq.mp same).symm
  · exact same
  · exact same
  · exact equal_symm same

theorem numbersEqual_trans {x y z : Int ⊕ Number.Binary64} (first : numbersEqual x y = true)
    (second : numbersEqual y z = true) : numbersEqual x z = true := by
  cases x with
  | inl i =>
    cases y with
    | inl j =>
      obtain rfl : i = j := beq_iff_eq.mp first
      exact second
    | inr y =>
      have whole : y.exactInt? = some i := beq_iff_eq.mp first
      cases z with
      | inl k => simpa [numbersEqual,equalInt,whole] using second
      | inr z => exact beq_iff_eq.mpr ((exactInt_eq_of_equal second).symm.trans whole)
  | inr x =>
    cases y with
    | inl j =>
      have whole : x.exactInt? = some j := beq_iff_eq.mp first
      cases z with
      | inl k =>
        obtain rfl : j = k := beq_iff_eq.mp second
        exact first
      | inr z => exact equal_of_exactInt whole (beq_iff_eq.mp second)
    | inr y =>
      cases z with
      | inl k =>
        exact beq_iff_eq.mpr ((exactInt_eq_of_equal first).trans (beq_iff_eq.mp second))
      | inr z => exact equal_trans first second

end Value
end PageRuntime
