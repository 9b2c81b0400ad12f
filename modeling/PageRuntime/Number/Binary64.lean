/-! Binary floating point numbers of 64 bits, held as their bits and read as exact ratios. Rounding,
comparison and scaling are integer arithmetic, so no rule here depends on machine floats. -/
namespace PageRuntime.Number

structure Binary64 where
  bits : UInt64
deriving DecidableEq, Inhabited

namespace Binary64

def nan : Binary64 := ⟨0x7FF8000000000000⟩

def infinity (negative : Bool) : Binary64 :=
  ⟨if negative then 0xFFF0000000000000 else 0x7FF0000000000000⟩

def signed (negative : Bool) (magnitude : Nat) : Binary64 :=
  ⟨UInt64.ofNat (magnitude + if negative then Nat.pow 2 63 else 0)⟩

def isNegative (x : Binary64) : Bool := Nat.pow 2 63 ≤ x.bits.toNat

def magnitude (x : Binary64) : Nat := x.bits.toNat % Nat.pow 2 63

def isNaN (x : Binary64) : Bool := 0x7FF0000000000000 < x.magnitude

def isInfinite (x : Binary64) : Bool := x.magnitude == 0x7FF0000000000000

def isZero (x : Binary64) : Bool := x.magnitude == 0

def isFinite (x : Binary64) : Bool := x.magnitude < 0x7FF0000000000000

/-- The integers `m` and `q` with magnitude `m * 2 ^ q`; meaningful for finite numbers. -/
def significand (x : Binary64) : Nat :=
  if x.magnitude < Nat.pow 2 52 then x.magnitude else x.magnitude % Nat.pow 2 52 + Nat.pow 2 52

def scale (x : Binary64) : Int :=
  if x.magnitude < Nat.pow 2 52 then -1074 else (x.magnitude / Nat.pow 2 52 : Nat) - 1075

/-- The magnitude as a ratio of naturals. -/
def ratio (x : Binary64) : Nat × Nat :=
  (x.significand * Nat.pow 2 x.scale.toNat, Nat.pow 2 (-x.scale).toNat)

/-- The number nearest to `numerator / denominator`; a tie goes to the even significand, and what
lies beyond the largest number is infinite. -/
def ofRatio (negative : Bool) (numerator denominator : Nat) : Binary64 :=
  if numerator == 0 then signed negative 0 else
  let quotient (exponent : Int) : Nat × Nat :=
    let n := numerator * Nat.pow 2 (-exponent).toNat
    let d := denominator * Nat.pow 2 exponent.toNat
    (n / d, d)
  let estimate := max (-1074) ((numerator.log2 : Int) - denominator.log2 - 53)
  let exponent := if (quotient estimate).1 < Nat.pow 2 53 then estimate else estimate + 1
  let n := numerator * Nat.pow 2 (-exponent).toNat
  let (floor, d) := quotient exponent
  let rest := 2 * (n - floor * d)
  let rounded := if rest < d ∨ (rest = d ∧ floor % 2 = 0) then floor else floor + 1
  let (significand, exponent) :=
    if rounded = Nat.pow 2 53 then (Nat.pow 2 52, exponent + 1) else (rounded, exponent)
  if 971 < exponent then infinity negative
  else if significand < Nat.pow 2 52 then signed negative significand
  else signed negative ((exponent + 1075).toNat * Nat.pow 2 52 + (significand - Nat.pow 2 52))

def digitCount (n : Nat) : Nat := (Nat.toDigits 10 n).length

/-- The number nearest to `digits * 10 ^ exponent`. -/
def ofDecimal (negative : Bool) (digits : Nat) (exponent : Int) : Binary64 :=
  if digits == 0 then signed negative 0
  else if 310 < digitCount digits + exponent then infinity negative
  else if digitCount digits + exponent < -330 then signed negative 0
  else ofRatio negative (digits * Nat.pow 10 exponent.toNat) (Nat.pow 10 (-exponent).toNat)

/-- Integers beyond the largest number have no counterpart. -/
def ofInt? (i : Int) : Option Binary64 :=
  let x := ofRatio (i < 0) i.natAbs 1
  if x.isFinite then some x else none

/-- The part before the point, for finite numbers. -/
def truncate? (x : Binary64) : Option Int :=
  if x.isFinite then
    let whole : Nat := x.ratio.1 / x.ratio.2
    some (if x.isNegative then -whole else whole)
  else none

/-- The integer that a number is, if it is one. -/
def exactInt? (x : Binary64) : Option Int :=
  if x.isFinite && x.ratio.1 % x.ratio.2 == 0 then x.truncate? else none

/-- Equality of numbers: no NaN equals anything, and both zeros are equal. -/
def equal (x y : Binary64) : Bool :=
  !x.isNaN && !y.isNaN && (x.bits == y.bits || (x.isZero && y.isZero))

def equalInt (x : Binary64) (i : Int) : Bool := x.exactInt? == some i

/-- The number times `2 ^ power`. -/
def doubled (x : Binary64) (power : Nat) : Binary64 :=
  if x.isFinite then ofRatio x.isNegative (x.ratio.1 * Nat.pow 2 power) x.ratio.2 else x

end Binary64

end PageRuntime.Number
