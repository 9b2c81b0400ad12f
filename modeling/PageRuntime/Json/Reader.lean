import PageRuntime.Json.Quoted
import PageRuntime.Number.Binary64

/-! JSON documents read from text. Besides the standard the reader takes the words for infinity and
NaN; integers have any size, and numbers with a fraction or exponent are binary floating point. -/
namespace PageRuntime.Json
open Number (Binary64)

/-- Members keep their order in the text, repeated names included. -/
inductive Document
  | null
  | bool (truth : Bool)
  | int (number : Int)
  | float (number : Binary64)
  | str (text : String)
  | array (items : List Document)
  | object (members : List (String × Document))
deriving Inhabited

def isSpace (c : Char) : Bool := c == ' ' || c == '\t' || c == '\n' || c == '\r'

def skipSpace (text : List Char) : List Char := text.dropWhile isSpace

def isDigit (c : Char) : Bool := '0' ≤ c && c ≤ '9'

def digitsValue (digits : List Char) : Nat :=
  digits.foldl (fun value c => 10 * value + (c.toNat - 48)) 0

def spanDigits (text : List Char) : List Char × List Char :=
  (text.takeWhile isDigit, text.dropWhile isDigit)

/-- The digits after a point; a point without digits is not part of the number. -/
def readFraction : List Char → List Char × List Char
  | '.' :: rest =>
    match spanDigits rest with
    | ([], _) => ([], '.' :: rest)
    | found => found
  | rest => ([], rest)

def readExponent? : List Char → Option (Int × List Char)
  | e :: rest =>
    if e == 'e' || e == 'E' then
      let (negative, rest) := match rest with
        | '-' :: rest => (true, rest)
        | '+' :: rest => (false, rest)
        | rest => (false, rest)
      match spanDigits rest with
      | ([], _) => none
      | (digits, rest) =>
        some (if negative then -(digitsValue digits) else digitsValue digits, rest)
    else none
  | [] => none

def readMagnitude (negative : Bool) (text : List Char) : Option (Document × List Char) :=
  let whole := match text with
    | '0' :: rest => (['0'], rest)
    | text => spanDigits text
  match whole with
  | ([], _) => none
  | (digits, rest) =>
    let (fraction, rest) := readFraction rest
    let value := digitsValue (digits ++ fraction)
    match readExponent? rest with
    | some (exponent, rest) =>
      some (.float (Binary64.ofDecimal negative value (exponent - fraction.length)), rest)
    | none =>
      if fraction.isEmpty then some (.int (if negative then -value else value), rest)
      else some (.float (Binary64.ofDecimal negative value (-fraction.length)), rest)

def dropWord? (word text : List Char) : Option (List Char) :=
  if word.isPrefixOf text then some (text.drop word.length) else none

def words : List (List Char × Document) := [
  ("null".toList, .null),
  ("true".toList, .bool true),
  ("false".toList, .bool false),
  ("NaN".toList, .float .nan),
  ("Infinity".toList, .float (.infinity false)),
  ("-Infinity".toList, .float (.infinity true))]

def readScalar (text : List Char) : Option (Document × List Char) :=
  match words.findSome? fun (word, value) => (dropWord? word text).map (value, ·) with
  | some found => some found
  | none =>
    match text with
    | '-' :: rest => readMagnitude true rest
    | text => readMagnitude false text

mutual

/-- The fuel bounds nesting and length together; the length of the text is enough. -/
def readDocument : Nat → List Char → Option (Document × List Char)
  | 0, _ => none
  | fuel + 1, text =>
    match text with
    | '"' :: rest =>
      (readQuoted none rest).map fun (text, rest) => (.str (String.ofList text), rest)
    | '[' :: rest =>
      match skipSpace rest with
      | ']' :: rest => some (.array [], rest)
      | rest => (readItems fuel rest).map fun (items, rest) => (.array items, rest)
    | '{' :: rest =>
      match skipSpace rest with
      | '}' :: rest => some (.object [], rest)
      | rest => (readMembers fuel rest).map fun (members, rest) => (.object members, rest)
    | text => readScalar text

def readItems : Nat → List Char → Option (List Document × List Char)
  | 0, _ => none
  | fuel + 1, text => do
    let (item, rest) ← readDocument fuel text
    match skipSpace rest with
    | ',' :: rest =>
      let (items, rest) ← readItems fuel (skipSpace rest)
      some (item :: items, rest)
    | ']' :: rest => some ([item], rest)
    | _ => none

def readMembers : Nat → List Char → Option (List (String × Document) × List Char)
  | 0, _ => none
  | fuel + 1, text =>
    match text with
    | '"' :: rest => do
      let (name, rest) ← readQuoted none rest
      match skipSpace rest with
      | ':' :: rest =>
        let (value, rest) ← readDocument fuel (skipSpace rest)
        match skipSpace rest with
        | ',' :: rest =>
          let (members, rest) ← readMembers fuel (skipSpace rest)
          some ((String.ofList name, value) :: members, rest)
        | '}' :: rest => some ([(String.ofList name, value)], rest)
        | _ => none
      | _ => none
    | _ => none

end

/-- A byte order mark is no blank, so a text that opens with one is refused. -/
def read? (text : String) : Option Document :=
  let characters := text.toList
  match readDocument (2 * characters.length + 2) (skipSpace characters) with
  | some (document, rest) => if (skipSpace rest).isEmpty then some document else none
  | none => none

end PageRuntime.Json
