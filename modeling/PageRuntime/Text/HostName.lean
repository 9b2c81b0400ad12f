import PageRuntime.Json.Quoted
import PageRuntime.Number.Reading
import PageRuntime.Unicode.Case
import PageRuntime.Unicode.Labels

/-! Host names: four numbers, a bracketed address of the sixth version, plain ASCII, or labels of an
international name, each with its own limits. -/
namespace PageRuntime.Text.HostName
open Unicode

/-- One of four numbers, without a leading zero. -/
def isOctet (part : List Char) : Bool :=
  !part.isEmpty && part.all isAsciiDigit && part.length ≤ 3 &&
    !(part.length != 1 && part.head? == some '0') &&
    Number.digitsValue (part.map fun c => c.toNat - 48) ≤ 255

def isFourNumbers (text : List Char) : Bool :=
  let parts := text.splitOn '.'
  parts.length == 4 && parts.all isOctet

/-- Whether text has digits, then any character, three times, and digits to the end. -/
def looksNumeric : Nat → List Char → Bool
  | 0, text => !text.isEmpty && text.all isAsciiDigit
  | parts + 1, text =>
    let digits := (text.takeWhile isAsciiDigit).length
    (List.range digits).any fun i => looksNumeric parts (text.drop (i + 2)) && i + 1 < text.length

def isHextet (part : List Char) : Bool :=
  part.all (fun c => (Json.hexValue? c).isSome) && !part.isEmpty && part.length ≤ 4

/-- The parts of an address between colons, with the empty one that stands for a run of zeros. -/
def isColonParts (parts : List (List Char)) : Bool :=
  let inner := (parts.drop 1).dropLast
  if 9 < parts.length || parts.length < 3 then false
  else if inner.any List.isEmpty then
    if 1 < (inner.filter List.isEmpty).length then false
    else
      let high := parts.take ((inner.takeWhile (!·.isEmpty)).length + 1)
      let low := parts.drop (high.length + 1)
      let high := if high.head? == some [] then high.drop 1 else high
      let low := if low.getLast? == some [] then low.dropLast else low
      (parts.head? != some [] || high.isEmpty) && (parts.getLast? != some [] || low.isEmpty) &&
        high.length + low.length < 8 && (high ++ low).all isHextet
  else parts.length == 8 && parts.all isHextet

/-- An address of the sixth version, with an optional zone after a percent sign. -/
def isAddress (text : List Char) : Bool :=
  let address := text.takeWhile (· != '%')
  let zone := text.drop address.length
  let zoneFits := zone.isEmpty || (1 < zone.length && !(zone.drop 1).contains '%')
  let parts := address.splitOn ':'
  let last := parts.getLast?.getD []
  let parts :=
    if last.contains '.' then
      if isFourNumbers last then parts.dropLast ++ [['0'], ['0']] else [[]]
    else parts
  zoneFits && !text.contains '/' && isColonParts parts && (address.splitOn ':').length ≥ 3

def adapt (delta points : Nat) (first : Bool) : Nat :=
  let delta := if first then delta / 700 else delta / 2
  let rec shrink : Nat → Nat → Nat → Nat
    | 0, delta, k => k + 36 * delta / (delta + 38)
    | fuel + 1, delta, k =>
      if 455 < delta then shrink fuel (delta / 35) (k + 36) else k + 36 * delta / (delta + 38)
  shrink 20 (delta + delta / points) 0

/-- How many characters a number takes as generalised digits. -/
def digitCount (bias : Nat) : Nat → Nat → Nat → Nat
  | 0, _, _ => 1
  | fuel + 1, number, k =>
    let threshold := if k ≤ bias then 1 else if bias + 26 ≤ k then 26 else k - bias
    if number < threshold then 1
    else 1 + digitCount bias fuel ((number - threshold) / (36 - threshold)) (k + 36)

/-- The bookkeeping of the label encoding after each code point. -/
structure LabelCode where
  delta : Nat
  bias : Nat
  handled : Nat
  length : Nat

/-- The length of a label in its ASCII encoding, without the marker in front. -/
def encodedLength (label : List Char) : Nat :=
  let basic := (label.filter (·.toNat < 0x80)).length
  let codes := ((label.filter (0x80 ≤ ·.toNat)).map (·.toNat)).mergeSort.eraseDups
  let start : LabelCode := ⟨0, 72, basic, basic + if basic = 0 then 0 else 1⟩
  let (_, final) := codes.foldl (fun (low, state) code =>
    let state := { state with delta := state.delta + (code - low) * (state.handled + 1) }
    let state := label.foldl (fun state c =>
      if c.toNat < code then { state with delta := state.delta + 1 }
      else if c.toNat == code then
        { delta := 0
          bias := adapt state.delta (state.handled + 1) (state.handled == basic)
          handled := state.handled + 1
          length := state.length + digitCount state.bias 40 state.delta 36 }
      else state) state
    (code + 1, { state with delta := state.delta + 1 })) (0x80, start)
  final.length

/-- Signs that may stand in a label between certain neighbours only. -/
def fitsContext (before : Option Char) (c : Char) (after : Option Char) (label : List Char) :
    Bool :=
  match c.toNat with
  | 0xB7 => before == some 'l' && after == some 'l'
  | 0x375 => after.any fun x => 0x370 ≤ x.toNat && x.toNat < 0x400
  | 0x5F3 | 0x5F4 => before.any fun x => 0x590 ≤ x.toNat && x.toNat < 0x600
  | 0x30FB => label.any fun x =>
    (0x3041 ≤ x.toNat && x.toNat ≤ 0x30FA) || (0x4E00 ≤ x.toNat && x.toNat ≤ 0x9FFF)
  | n =>
    if 0x660 ≤ n ∧ n ≤ 0x669 then !label.any fun x => 0x6F0 ≤ x.toNat && x.toNat ≤ 0x6F9
    else if 0x6F0 ≤ n ∧ n ≤ 0x6F9 then !label.any fun x => 0x660 ≤ x.toNat && x.toNat ≤ 0x669
    else false

def fitsAll (label : List Char) (before : Option Char) : List Char → Bool
  | [] => true
  | c :: rest =>
    (isLabelChar c || fitsContext before c rest.head? label) && fitsAll label (some c) rest

def labelLength (label : List Char) : Nat :=
  if label.all (·.toNat < 0x80) then label.length else encodedLength label + 4

def isLabel (label : List Char) : Bool :=
  let hyphens := (label.drop 2).take 2 == ['-', '-'] || label.head? == some '-' ||
    label.getLast? == some '-'
  !label.isEmpty && !hyphens && !label.head?.any isMark && labelLength label ≤ 63 &&
    fitsAll label none label

def isLabelDot (c : Char) : Bool :=
  c == '.' || c.toNat == 0x3002 || c.toNat == 0xFF0E || c.toNat == 0xFF61

/-- Labels between dots, of which the last may be empty. -/
def isInternational (name : List Char) : Bool :=
  let labels := name.splitOnP isLabelDot
  let trailing := labels.getLast? == some []
  let labels := if trailing then labels.dropLast else labels
  let spaced := labels.foldl (fun total label => total + labelLength label + 1) 0
  let total := spaced - (if trailing then 0 else 1)
  !labels.isEmpty && labels.all isLabel && total ≤ (if trailing then 254 else 253)

def isValid (host : List Char) : Bool :=
  if host.isEmpty then true
  else if looksNumeric 3 host then isFourNumbers host
  else if host.head? == some '[' && host.getLast? == some ']' then
    isAddress ((host.drop 1).dropLast)
  else if host.all (·.toNat < 0x80) then true
  else isInternational (lower (String.ofList host)).toList

end PageRuntime.Text.HostName
