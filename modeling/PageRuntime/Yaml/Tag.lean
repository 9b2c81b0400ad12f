import PageRuntime.Fault
import PageRuntime.Number.Reading
import PageRuntime.Value
import PageRuntime.Yaml.Token

/-! What a scalar is: the tag that its plain text resolves to, and the value that a text has under a
tag. Octal integers open with a zero, digits may be parted by underscores, colons part groups of
sixty, and an exponent needs its sign. -/
namespace PageRuntime.Yaml
open Number (Binary64)

inductive Tag
  | null
  | bool
  | int
  | float
  | timestamp
  | merge
  | default
  | text
  | sequence
  | mapping
  | pairs
  | other
deriving DecidableEq

def Tag.standard : String := "tag:yaml.org,2002:"

def Tag.names : List (String × Tag) := [
  ("null", .null), ("bool", .bool), ("int", .int), ("float", .float), ("timestamp", .timestamp),
  ("merge", .merge), ("value", .default), ("str", .text), ("seq", .sequence), ("map", .mapping),
  ("pairs", .pairs), ("omap", .pairs)]

def Tag.ofName (name : String) : Tag :=
  ((Tag.names.map fun (short, tag) => (Tag.standard ++ short, tag)).lookup name).getD .other

/-- A word in small letters, with a leading capital, or in capitals. -/
def isWordOf (words : List String) (text : List Char) : Bool :=
  words.any fun word =>
    let small := word.toList
    text == small || text == small.map Char.toUpper ||
      text == (small.take 1).map Char.toUpper ++ small.drop 1

def trueWords : List String := ["yes", "true", "on"]

def falseWords : List String := ["no", "false", "off"]

def dropSign : List Char → List Char
  | '-' :: rest => rest
  | '+' :: rest => rest
  | rest => rest

def isDigitOrGap (c : Char) : Bool := Lexer.isDecimal c || c == '_'

def isOctalOrGap (c : Char) : Bool := ('0' ≤ c && c ≤ '7') || c == '_'

def isHexOrGap (c : Char) : Bool := (Json.hexValue? c).isSome || c == '_'

def isBinaryOrGap (c : Char) : Bool := c == '0' || c == '1' || c == '_'

/-- One or more groups of a colon and a number below sixty, with what follows them. -/
def dropSixties : Nat → List Char → Option (List Char)
  | 0, _ => none
  | fuel + 1, text =>
    let again (rest : List Char) : Option (List Char) :=
      match rest with
      | ':' :: _ => (dropSixties fuel rest).or (some rest)
      | rest => some rest
    match text with
    | ':' :: a :: b :: rest =>
      if '0' ≤ a && a ≤ '5' && Lexer.isDecimal b then again rest
      else if Lexer.isDecimal a then again (b :: rest)
      else none
    | [':', a] => if Lexer.isDecimal a then some [] else none
    | _ => none

def isIntText (text : List Char) : Bool :=
  match dropSign text with
  | '0' :: 'b' :: c :: rest => isBinaryOrGap c && rest.all isBinaryOrGap
  | '0' :: 'x' :: c :: rest => isHexOrGap c && rest.all isHexOrGap
  | '0' :: rest => rest.all isOctalOrGap
  | c :: rest =>
    let after := rest.dropWhile isDigitOrGap
    Lexer.isDecimal c &&
      (after.isEmpty || dropSixties (text.length + 1) after == some [])
  | [] => false

def isExponent : List Char → Bool
  | [] => true
  | e :: sign :: d :: rest =>
    (e == 'e' || e == 'E') && (sign == '-' || sign == '+') && Lexer.isDecimal d &&
      rest.all Lexer.isDecimal
  | _ => false

def isFloatText (text : List Char) : Bool :=
  let unsigned := dropSign text
  match unsigned with
  | '.' :: rest =>
    isWordOf ["inf"] rest || (unsigned == text &&
      (rest == "nan".toList || rest == "NaN".toList || rest == "NAN".toList ||
        (rest.head?.any Lexer.isDecimal && isExponent (rest.dropWhile isDigitOrGap))))
  | c :: rest =>
    Lexer.isDecimal c &&
      match rest.dropWhile isDigitOrGap with
      | '.' :: fraction => isExponent (fraction.dropWhile isDigitOrGap)
      | ':' :: more =>
        match dropSixties (text.length + 1) (':' :: more) with
        | some ('.' :: fraction) => fraction.all isDigitOrGap
        | _ => false
      | _ => false
  | [] => false

/-- Takes between `least` and `most` digits. -/
def takeDigits? (least most : Nat) (text : List Char) : Option (List Char) :=
  let count := (text.takeWhile Lexer.isDecimal).length
  if count < least then none else some (text.drop (min count most))

def dropMark? (mark : Char) : List Char → Option (List Char)
  | c :: rest => if c == mark then some rest else none
  | [] => none

def isZoneText (text : List Char) : Bool :=
  match text.dropWhile isSpaceOrTab with
  | [] => text.isEmpty
  | ['Z'] => true
  | sign :: rest =>
    (sign == '-' || sign == '+') &&
      match takeDigits? 1 2 rest with
      | some [] => true
      | some (':' :: rest) => takeDigits? 2 2 rest == some []
      | _ => false

def isTimestampText (text : List Char) : Bool :=
  let day : Option Bool := do
    let rest ← takeDigits? 4 4 text
    let rest ← dropMark? '-' rest
    let rest ← takeDigits? 2 2 rest
    let rest ← dropMark? '-' rest
    let rest ← takeDigits? 2 2 rest
    some rest.isEmpty
  let moment : Option Bool := do
    let rest ← takeDigits? 4 4 text
    let rest ← dropMark? '-' rest
    let rest ← takeDigits? 1 2 rest
    let rest ← dropMark? '-' rest
    let rest ← takeDigits? 1 2 rest
    let rest ← match rest with
      | c :: more =>
        if c == 'T' || c == 't' then some more
        else if isSpaceOrTab c then some (more.dropWhile isSpaceOrTab)
        else none
      | [] => none
    let rest ← takeDigits? 1 2 rest
    let rest ← dropMark? ':' rest
    let rest ← takeDigits? 2 2 rest
    let rest ← dropMark? ':' rest
    let rest ← takeDigits? 2 2 rest
    let rest := match rest with
      | '.' :: fraction => fraction.dropWhile Lexer.isDecimal
      | rest => rest
    some (isZoneText rest)
  day == some true || moment == some true

/-- The tag of a plain scalar that carries none. -/
def resolve (text : List Char) : Tag :=
  if text.isEmpty || text == ['~'] || isWordOf ["null"] text then .null
  else if isWordOf trueWords text || isWordOf falseWords text then .bool
  else if isFloatText text then .float
  else if isIntText text then .int
  else if text == ['<', '<'] then .merge
  else if isTimestampText text then .timestamp
  else if text == ['='] then .default
  else .text

def isNegativeText (text : List Char) : Bool := text.head? == some '-'

def inBase? (base : Nat) (digits : List Char) : Option Int :=
  if digits.isEmpty then none
  else do
    let values ← digits.mapM Json.hexValue?
    if values.all (· < base) then some (values.foldl (fun n d => base * n + d) 0 : Nat) else none

def sixties (groups : List Int) : Int := groups.foldl (fun n group => 60 * n + group) 0

def splitColons (text : List Char) : List (List Char) := text.splitOn ':'

def intMagnitude? (text : List Char) : Option Int :=
  match text with
  | ['0'] => some 0
  | '0' :: 'b' :: digits => inBase? 2 digits
  | '0' :: 'x' :: digits => inBase? 16 digits
  | '0' :: digits => inBase? 8 ('0' :: digits)
  | text =>
    if text.contains ':' then
      ((splitColons text).mapM fun part => Number.readInt? (String.ofList part)).map sixties
    else Number.readInt? (String.ofList text)

def intValue (text : List Char) : Except Fault Value :=
  let text := text.filter (· != '_')
  if text.isEmpty then .error (.misuse .position "string index out of range")
  else
    match intMagnitude? (dropSign text) with
    | some n => .ok (.int (if isNegativeText text then -n else n))
    | none =>
      .error (.misuse .value ("invalid literal for int() with base 10: " ++
        Text.quote (String.ofList (dropSign text))))

/-- The sum of two finite numbers that are not negative. -/
def addMagnitudes (x y : Binary64) : Binary64 :=
  let (a, b) := x.ratio
  let (c, d) := y.ratio
  Binary64.ofRatio false (a * d + c * b) (b * d)

def timesWhole (x : Binary64) (n : Nat) : Binary64 :=
  Binary64.ofRatio false (x.ratio.1 * n) x.ratio.2

/-- Groups of sixty, the last first, summed in floating point. -/
def floatSixties (base : Nat) (total : Binary64) : List Binary64 → Binary64
  | [] => total
  | group :: rest => floatSixties (base * 60) (addMagnitudes total (timesWhole group base)) rest

def withSign (negative : Bool) (x : Binary64) : Binary64 :=
  if negative && !x.isNaN then Binary64.signed (!x.isNegative) x.magnitude else x

def floatMagnitude? (text : List Char) : Option Binary64 :=
  if text == ".inf".toList then some (.infinity false)
  else if text == ".nan".toList then some .nan
  else if text.contains ':' then
    ((splitColons text).mapM fun part => Number.readFloat? (String.ofList part)).map
      fun groups => floatSixties 1 (Binary64.signed false 0) groups.reverse
  else Number.readFloat? (String.ofList text)

def floatValue (text : List Char) : Except Fault Value :=
  let text := (Unicode.lower (String.ofList (text.filter (· != '_')))).toList
  if text.isEmpty then .error (.misuse .position "string index out of range")
  else
    match floatMagnitude? (dropSign text) with
    | some x => .ok (.float (withSign (isNegativeText text) x))
    | none =>
      .error (.misuse .value ("could not convert string to float: " ++
        Text.quote (String.ofList (dropSign text))))

def boolValue (text : List Char) : Except Fault Value :=
  let small := Unicode.lower (String.ofList text)
  if trueWords.contains small then .ok (.bool true)
  else if falseWords.contains small then .ok (.bool false)
  else .error (.misuse .key small)

/-- The value of a scalar under its tag. -/
def scalarValue (tag : Tag) (text : String) : Except Fault Value :=
  match tag with
  | .null => .ok .null
  | .bool => boolValue text.toList
  | .int => intValue text.toList
  | .float => floatValue text.toList
  | .timestamp | .text => .ok (.str text)
  | _ => .error (.format .yaml)

end PageRuntime.Yaml
