import PageRuntime.Text.Quoted

/-! JSON string literals: the text between the quotes, written and read. Writing escapes the quote,
the backslash and controls, and in the plain alphabet everything beyond ASCII as UTF-16 units. -/
namespace PageRuntime.Json

/-- Whether characters beyond ASCII are written as they are. -/
inductive Alphabet
  | plain
  | full
deriving DecidableEq

def unitText (unit : Nat) : List Char := '\\' :: 'u' :: Text.hexText 4 unit

def charUnits (code : Nat) : List Nat :=
  if code < 0x10000 then [code]
  else [0xD800 + (code - 0x10000) / 0x400, 0xDC00 + (code - 0x10000) % 0x400]

def escapeChar (alphabet : Alphabet) (c : Char) : List Char :=
  if c == '"' || c == '\\' then ['\\', c]
  else if c == '\n' then ['\\', 'n']
  else if c == '\r' then ['\\', 'r']
  else if c == '\t' then ['\\', 't']
  else if c.toNat == 8 then ['\\', 'b']
  else if c.toNat == 12 then ['\\', 'f']
  else if c.toNat < 0x20 then unitText c.toNat
  else if alphabet == .plain && 0x7F ≤ c.toNat then (charUnits c.toNat).flatMap unitText
  else [c]

def quoteChars (alphabet : Alphabet) (text : List Char) : List Char :=
  '"' :: (text.flatMap (escapeChar alphabet) ++ ['"'])

def quote (alphabet : Alphabet) (text : String) : String :=
  String.ofList (quoteChars alphabet text.toList)

def hexValue? (c : Char) : Option Nat :=
  if '0' ≤ c && c ≤ '9' then some (c.toNat - 48)
  else if 'a' ≤ c && c ≤ 'f' then some (c.toNat - 87)
  else if 'A' ≤ c && c ≤ 'F' then some (c.toNat - 55)
  else none

def hexUnit? (a b c d : Char) : Option Nat := do
  let a ← hexValue? a
  let b ← hexValue? b
  let c ← hexValue? c
  let d ← hexValue? d
  some (a * 4096 + b * 256 + c * 16 + d)

def isHighUnit (unit : Nat) : Bool := 0xD800 ≤ unit && unit < 0xDC00

def isLowUnit (unit : Nat) : Bool := 0xDC00 ≤ unit && unit < 0xE000

/-- Characters have no half of a pair: one that stands alone becomes the replacement character. -/
def unitChar (unit : Nat) : Char :=
  if isHighUnit unit || isLowUnit unit then Char.ofNat 0xFFFD else Char.ofNat unit

def simpleEscape? (c : Char) : Option Char :=
  if c == '"' || c == '\\' || c == '/' then some c
  else if c == 'n' then some '\n'
  else if c == 'r' then some '\r'
  else if c == 't' then some '\t'
  else if c == 'b' then some (Char.ofNat 8)
  else if c == 'f' then some (Char.ofNat 12)
  else none

/-- Reads up to the closing quote and gives what follows it. `high` is the first half of a pair
whose second half may come next. -/
def readQuoted (high : Option Nat) : List Char → Option (List Char × List Char)
  | [] => none
  | '"' :: rest => some ((high.map unitChar).toList, rest)
  | '\\' :: 'u' :: a :: b :: c :: d :: rest => do
    let unit ← hexUnit? a b c d
    match high with
    | some first =>
      if isLowUnit unit then
        let (text, rest) ← readQuoted none rest
        some (Char.ofNat (0x10000 + (first - 0xD800) * 0x400 + (unit - 0xDC00)) :: text, rest)
      else
        let (text, rest) ← if isHighUnit unit then readQuoted (some unit) rest
          else (readQuoted none rest).map fun (text, rest) => (unitChar unit :: text, rest)
        some (unitChar first :: text, rest)
    | none =>
      if isHighUnit unit then readQuoted (some unit) rest
      else
        let (text, rest) ← readQuoted none rest
        some (unitChar unit :: text, rest)
  | '\\' :: c :: rest => do
    let plain ← simpleEscape? c
    let (text, rest) ← readQuoted none rest
    some ((high.map unitChar).toList ++ plain :: text, rest)
  | c :: rest => do
    if c.toNat < 0x20 || c == '\\' then none
    else
      let (text, rest) ← readQuoted none rest
      some ((high.map unitChar).toList ++ c :: text, rest)

end PageRuntime.Json
