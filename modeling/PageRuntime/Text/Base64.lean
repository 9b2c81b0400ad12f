/-! Base64. Writing pads to whole groups of four. Reading is lenient: characters outside the
alphabet are skipped, a completed pad ends the data, and only an unfinished group is an error. -/
namespace PageRuntime.Text.Base64

def letter (n : Nat) : Char :=
  if n < 26 then Char.ofNat (65 + n)
  else if n < 52 then Char.ofNat (71 + n)
  else if n < 62 then Char.ofNat (n - 4)
  else if n == 62 then '+' else '/'

def index? (c : Char) : Option Nat :=
  let n := c.toNat
  if 65 ≤ n ∧ n ≤ 90 then some (n - 65)
  else if 97 ≤ n ∧ n ≤ 122 then some (n - 71)
  else if 48 ≤ n ∧ n ≤ 57 then some (n + 4)
  else if c == '+' then some 62
  else if c == '/' then some 63
  else none

def encode : List UInt8 → List Char
  | [] => []
  | [a] =>
    let n := a.toNat
    [letter (n / 4), letter (n % 4 * 16), '=', '=']
  | [a, b] =>
    let n := a.toNat * 256 + b.toNat
    [letter (n / 1024), letter (n / 16 % 64), letter (n % 16 * 4), '=']
  | a :: b :: c :: rest =>
    let n := a.toNat * 65536 + b.toNat * 256 + c.toNat
    letter (n / 262144) :: letter (n / 4096 % 64) :: letter (n / 64 % 64) :: letter (n % 64) ::
      encode rest

/-- Reads with `filled` letters of the open group seen, `pending` the bits not yet written, and
`pads` pad signs since the last letter. -/
def decodeFrom (filled pending pads : Nat) : List Char → Option (List UInt8)
  | [] => if filled == 0 then some [] else none
  | c :: rest =>
    if c == '=' then
      if 2 ≤ filled && 4 ≤ filled + pads + 1 then some []
      else decodeFrom filled pending (if 2 ≤ filled then pads + 1 else pads) rest
    else
      match index? c with
      | none => decodeFrom filled pending pads rest
      | some value =>
        match filled with
        | 0 => decodeFrom 1 value 0 rest
        | 1 => (decodeFrom 2 (value % 16) 0 rest).map (UInt8.ofNat (pending * 4 + value / 16) :: ·)
        | 2 => (decodeFrom 3 (value % 4) 0 rest).map (UInt8.ofNat (pending * 16 + value / 4) :: ·)
        | _ => (decodeFrom 0 0 0 rest).map (UInt8.ofNat (pending * 64 + value) :: ·)

/-- A character beyond ASCII is an error wherever it stands. -/
def decode? (text : String) : Option (List UInt8) :=
  if text.toList.any (fun c => 0x80 ≤ c.toNat) then none else decodeFrom 0 0 0 text.toList

end PageRuntime.Text.Base64
