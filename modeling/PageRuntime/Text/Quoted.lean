import PageRuntime.Unicode.Classes

/-! Quoted text for messages: single quotes unless the text holds a single quote and no double one,
escapes for the quote, the backslash and every character without a visible form. -/
namespace PageRuntime.Text
open PageRuntime.Unicode

def hexDigit (n : Nat) : Char :=
  if n < 10 then Char.ofNat (48 + n) else Char.ofNat (87 + n)

/-- The last `width` hexadecimal digits of a number, in small letters. -/
def hexText : Nat → Nat → List Char
  | 0, _ => []
  | width + 1, n => hexText width (n / 16) ++ [hexDigit (n % 16)]

def escapeCode (code : Nat) : List Char :=
  if code < 0x100 then '\\' :: 'x' :: hexText 2 code
  else if code < 0x10000 then '\\' :: 'u' :: hexText 4 code
  else '\\' :: 'U' :: hexText 8 code

def quoteChar (quote c : Char) : List Char :=
  if c == quote || c == '\\' then ['\\', c]
  else if c == '\n' then ['\\', 'n']
  else if c == '\r' then ['\\', 'r']
  else if c == '\t' then ['\\', 't']
  else if isVisible c then [c]
  else escapeCode c.toNat

def chooseQuote (text : List Char) : Char :=
  if text.contains '\'' && !text.contains '"' then '"' else '\''

def quoteChars (text : List Char) : List Char :=
  let quote := chooseQuote text
  quote :: (text.flatMap (quoteChar quote) ++ [quote])

def quote (text : String) : String := String.ofList (quoteChars text.toList)

/-- Bytes are quoted like text of the characters below 256, with everything beyond ASCII escaped. -/
def quoteByte (quote : Char) (byte : UInt8) : List Char :=
  if byte < 0x7F then
    let c := Char.ofNat byte.toNat
    if c == quote || c == '\\' || c == '\n' || c == '\r' || c == '\t' || 0x20 ≤ byte
      then quoteChar quote c else escapeCode byte.toNat
  else escapeCode byte.toNat

def quoteBytes (bytes : List UInt8) : String :=
  let quote := chooseQuote (bytes.map fun byte => Char.ofNat byte.toNat)
  String.ofList ('b' :: quote :: (bytes.flatMap (quoteByte quote) ++ [quote]))

end PageRuntime.Text
