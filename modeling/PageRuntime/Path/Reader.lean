import PageRuntime.Path
import PageRuntime.Fault
import PageRuntime.Number.Reading

/-! Paths read from text. Every accessor is read from the front of what remains; the first that
fits no accessor decides the fault, with its position in the trimmed text. -/
namespace PageRuntime
open Unicode

def isNameStart (c : Char) : Bool := isAsciiLetter c || c == '_'

def isNameChar (c : Char) : Bool := isNameStart c || isAsciiDigit c

/-- A longest name at the front, empty if the first character cannot open one. -/
def spanName (follows : Char → Bool) : List Char → List Char × List Char
  | [] => ([], [])
  | c :: rest =>
    if isNameStart c then (c :: rest.takeWhile follows, rest.dropWhile follows) else ([], c :: rest)

def spanField : List Char → List Char × List Char
  | [] => ([], [])
  | c :: rest =>
    if isFieldStart c then (c :: rest.takeWhile isFieldChar, rest.dropWhile isFieldChar)
    else ([], c :: rest)

/-- What follows blanks and a closing bracket. -/
def closeBracket (text : List Char) : Option (List Char) :=
  match trimBlankStart text with
  | ']' :: rest => some rest
  | _ => none

/-- The inside of a bracket that holds an integer; digits may be of any script. -/
def readIndex (text : List Char) : Option (Int × List Char) :=
  let text := trimBlankStart text
  let (negative, text) := match text with
    | '-' :: rest => (true, rest)
    | text => (false, text)
  let digits := (text.takeWhile isDigit).filterMap digitValue?
  if digits.isEmpty then none
  else
    let value : Int := Number.digitsValue digits
    (closeBracket (text.dropWhile isDigit)).map (if negative then -value else value, ·)

/-- The raw text up to the next `quote` that no backslash escapes, and what follows the quote. A
backslash before a line break escapes nothing. -/
def spanQuoted (quote : Char) : List Char → Option (List Char × List Char)
  | [] => none
  | '\\' :: c :: rest =>
    if c == '\n' then none
    else (spanQuoted quote rest).map fun (body, rest) => ('\\' :: c :: body, rest)
  | c :: rest =>
    if c == quote then some ([], rest)
    else if c == '\\' then none
    else (spanQuoted quote rest).map fun (body, rest) => (c :: body, rest)

/-- The inside of a bracket that holds a quoted key, still escaped. -/
def readQuotedKey (quote : Char) (text : List Char) : Option (List Char × List Char) :=
  match trimBlankStart text with
  | c :: rest =>
    if c == quote then do
      let (body, rest) ← spanQuoted quote rest
      let rest ← closeBracket rest
      some (body, rest)
    else none
  | [] => none

/-- Every occurrence of a backslash and `c`, from the left, replaced by `c` alone. -/
def dropEscapes (c : Char) : List Char → List Char
  | [] => []
  | [a] => [a]
  | a :: b :: rest =>
    if a == '\\' && b == c then c :: dropEscapes c rest else a :: dropEscapes c (b :: rest)

/-- Single quoted keys know two escapes: first every escaped quote is replaced, then every escaped
backslash. -/
def unescapeSingle (body : List Char) : List Char := dropEscapes '\\' (dropEscapes '\'' body)

/-- Double quoted keys have the escapes of JSON strings. -/
def unescapeDouble? (body : List Char) : Option (List Char) :=
  match Json.readQuoted none (body ++ ['"']) with
  | some (text, []) => some text
  | _ => none

/-- Whether reading an accessor found none, one, or one with broken escapes. -/
inductive Accessor
  | absent
  | broken
  | found (segment : Segment) (rest : List Char)

def readBracket (text : List Char) : Accessor :=
  match readIndex text with
  | some (place, rest) => .found (.index place) rest
  | none =>
    match readQuotedKey '"' text with
    | some (body, rest) =>
      match unescapeDouble? body with
      | some name => .found (.field (String.ofList name)) rest
      | none => .broken
    | none =>
      match readQuotedKey '\'' text with
      | some (body, rest) => .found (.field (String.ofList (unescapeSingle body))) rest
      | none => .absent

/-- Reads accessors up to the end. The length of the text is fuel enough, since each takes one
character or more. -/
def readSegments (shown : String) (length : Nat) : Nat → List Char → Except Fault (List Segment)
  | _, [] => .ok []
  | 0, rest => .error (.path (.unexpected shown (length - rest.length)))
  | fuel + 1, c :: rest =>
    let position := length - (rest.length + 1)
    if c == '.' then
      match spanField rest with
      | ([], _) => .error (.path (.fieldExpected shown (position + 1)))
      | (name, rest) => do
        let segments ← readSegments shown length fuel rest
        .ok (.field (String.ofList name) :: segments)
    else if c == '[' then
      match readBracket rest with
      | .found segment rest => do
        let segments ← readSegments shown length fuel rest
        .ok (segment :: segments)
      | .broken => .error (.format .json)
      | .absent => .error (.path (.unexpected shown position))
    else .error (.path (.unexpected shown position))

/-- `@name` is short for the binding of that name in the visible context. -/
def Path.read (text : String) : Except Fault Path :=
  let shown := Text.quote text
  let source := trimBlank text.toList
  let segments := readSegments shown source.length source.length
  match source with
  | [] => .error (.path .empty)
  | '@' :: rest =>
    match spanName isFieldChar rest with
    | ([], _) => .error (.path (.contextName shown))
    | (name, rest) => do
      let segments ← segments rest
      .ok ⟨⟨.context, 0⟩, .field (String.ofList name) :: segments⟩
  | '$' :: rest => do
    let carets := rest.takeWhile (· == '^')
    let (name, rest) := spanName isNameChar (rest.dropWhile (· == '^'))
    let segments ← segments rest
    .ok ⟨Root.ofName (String.ofList name) carets.length, segments⟩
  | _ => .error (.path (.start shown))

end PageRuntime
