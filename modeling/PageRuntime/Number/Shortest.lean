import PageRuntime.Number.Binary64

/-! The shortest decimal text that reads back as the same number. Digits come from exact integer
arithmetic on the interval of reals that round to the number; the written form is positional from
`0.0001` up to sixteen digits before the point and has an exponent of two digits or more
elsewhere. -/
namespace PageRuntime.Number

/-- The reals between `low` and `high`, over a common denominator, around `centre`; the ends belong
to it if `closed`. -/
structure RoundingInterval where
  low : Nat
  centre : Nat
  high : Nat
  denominator : Nat
  closed : Bool

def RoundingInterval.of (x : Binary64) : RoundingInterval :=
  let m := x.significand
  let q := x.scale - 2
  let up := Nat.pow 2 q.toNat
  let below := if m = Nat.pow 2 52 ∧ -1074 < x.scale then 1 else 2
  ⟨(4 * m - below) * up, 4 * m * up, (4 * m + 2) * up, Nat.pow 2 (-q).toNat, m % 2 = 0⟩

def RoundingInterval.holds (interval : RoundingInterval) (numerator denominator : Nat) : Bool :=
  let left := interval.low * denominator
  let middle := numerator * interval.denominator
  let right := interval.high * denominator
  if interval.closed then left ≤ middle && middle ≤ right else left < middle && middle < right

/-- How many decimal digits stand before the point; zero or less for numbers below a tenth. -/
def RoundingInterval.pointPosition (interval : RoundingInterval) : Int :=
  if interval.denominator ≤ interval.centre then
    Binary64.digitCount (interval.centre / interval.denominator)
  else
    let guess := (interval.denominator.log2 - interval.centre.log2) * 30103 / 100000
    let shift := ([guess - 1, guess, guess + 1].find? fun j =>
      interval.denominator ≤ interval.centre * Nat.pow 10 j).getD (guess + 2)
    1 - shift

/-- The decimal `count * 10 ^ exponent` with `places` digits nearest to the centre, if one of the
two neighbours on that grid lies in the interval. -/
def RoundingInterval.onGrid? (interval : RoundingInterval) (places : Nat) : Option (Nat × Int) :=
  let exponent := interval.pointPosition - places
  let up := Nat.pow 10 exponent.toNat
  let down := Nat.pow 10 (-exponent).toNat
  let n := interval.centre * down
  let d := interval.denominator * up
  let floor := n / d
  let fits (count : Nat) := interval.holds (count * up) down
  let rest := 2 * (n - floor * d)
  let nearer := if rest < d ∨ (rest = d ∧ floor % 2 = 0) then floor else floor + 1
  let farther := if nearer = floor then floor + 1 else floor
  if fits nearer then some (nearer, exponent)
  else if fits farther then some (farther, exponent)
  else none

def trimZeros (digits : Nat) (exponent : Int) : Nat → Nat × Int
  | 0 => (digits, exponent)
  | fuel + 1 =>
    if digits ≠ 0 ∧ digits % 10 = 0 then trimZeros (digits / 10) (exponent + 1) fuel
    else (digits, exponent)

/-- Digits and decimal exponent of the shortest text; seventeen digits always suffice. -/
def shortestDecimal (x : Binary64) : Nat × Int :=
  let interval := RoundingInterval.of x
  match (List.range 17).findSome? fun i => interval.onGrid? (i + 1) with
  | some (digits, exponent) => trimZeros digits exponent 20
  | none => (0, 0)

def zeros (n : Nat) : List Char := List.replicate n '0'

def exponentText (e : Int) : List Char :=
  let digits := Nat.toDigits 10 e.natAbs
  (if e < 0 then '-' else '+') :: (zeros (2 - digits.length) ++ digits)

def decimalText (digits : List Char) (point : Int) : List Char :=
  if -3 ≤ point ∧ point ≤ 16 then
    if point ≤ 0 then '0' :: '.' :: (zeros (-point).toNat ++ digits)
    else if digits.length ≤ point.toNat then
      digits ++ zeros (point.toNat - digits.length) ++ ['.', '0']
    else digits.take point.toNat ++ '.' :: digits.drop point.toNat
  else
    let fraction := digits.drop 1
    digits.take 1 ++ (if fraction.isEmpty then [] else '.' :: fraction)
      ++ 'e' :: exponentText (point - 1)

def Binary64.text (x : Binary64) : String :=
  if x.isNaN then "nan"
  else
    let sign := if x.isNegative then "-" else ""
    if x.isInfinite then sign ++ "inf"
    else if x.isZero then sign ++ "0.0"
    else
      let (digits, exponent) := shortestDecimal x
      let characters := Nat.toDigits 10 digits
      sign ++ String.ofList (decimalText characters (characters.length + exponent))

end PageRuntime.Number
