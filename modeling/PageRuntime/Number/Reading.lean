import PageRuntime.Number.Binary64
import PageRuntime.Unicode.Case

/-! Numbers read from text by the lenient rules of settings: blanks around the number, single
underscores between digits, decimal digits of any script, and the words for infinity and NaN. -/
namespace PageRuntime.Number
open PageRuntime.Unicode

def digitsValue (digits : List Nat) : Nat := digits.foldl (fun value d => 10 * value + d) 0

/-- A run of digits, with what follows it. After a digit one underscore may precede the next. -/
def takeDigits (afterDigit : Bool) : List Char → List Nat × List Char
  | [] => ([], [])
  | c :: rest =>
    match digitValue? c with
    | some d =>
      let (ds, remaining) := takeDigits true rest
      (d :: ds, remaining)
    | none =>
      if afterDigit && c == '_' && rest.head?.any isDigit then takeDigits false rest
      else ([], c :: rest)

def takeSign : List Char → Bool × List Char
  | '-' :: rest => (true, rest)
  | '+' :: rest => (false, rest)
  | rest => (false, rest)

def readInt? (text : String) : Option Int :=
  let (negative, rest) := takeSign (trimBlank text.toList)
  match takeDigits false rest with
  | (d :: ds, []) => some (if negative then -(digitsValue (d :: ds)) else digitsValue (d :: ds))
  | _ => none

def readExponent? : List Char → Option Int
  | [] => some 0
  | e :: rest =>
    if e == 'e' || e == 'E' then
      let (negative, digits) := takeSign rest
      match takeDigits false digits with
      | (d :: ds, []) => some (if negative then -(digitsValue (d :: ds)) else digitsValue (d :: ds))
      | _ => none
    else none

def readFloat? (text : String) : Option Binary64 :=
  let (negative, rest) := takeSign (trimBlank text.toList)
  match (lower (String.ofList rest)) with
  | "inf" => some (Binary64.infinity negative)
  | "infinity" => some (Binary64.infinity negative)
  | "nan" => some Binary64.nan
  | _ =>
    let (whole, rest) := takeDigits false rest
    let (fraction, rest) := match rest with
      | '.' :: rest => takeDigits false rest
      | rest => ([], rest)
    if whole.isEmpty && fraction.isEmpty then none
    else (readExponent? rest).map fun exponent =>
      Binary64.ofDecimal negative (digitsValue (whole ++ fraction)) (exponent - fraction.length)

end PageRuntime.Number
