import PageRuntime.Json.Quoted
import PageRuntime.Text.Pattern

/-! Search patterns read from text: alternatives, repetitions with counts, sets of characters,
groups, assertions, and options that ignore case or let line breaks matter. -/
namespace PageRuntime.Text
open Unicode

structure PatternOptions where
  fold : Bool
  lines : Bool
  breaks : Bool
  ascii : Bool

/-- What reading a pattern keeps track of: its groups, how many and which are still open, and their
names. -/
structure PatternState where
  groups : Nat
  openGroups : List Nat
  names : List (String × Nat)

abbrev ReadPattern := StateT PatternState Option

namespace PatternReader

def fail {α : Type} : ReadPattern α := failure

def hexCode? (width : Nat) (text : List Char) : Option (Char × List Char) := do
  let digits := text.take width
  if digits.length != width then none
  else
    let values ← digits.mapM Json.hexValue?
    let code := values.foldl (fun n d => 16 * n + d) 0
    if 0x110000 ≤ code then none else some (Json.unitChar code, text.drop width)

def isOctal (c : Char) : Bool := '0' ≤ c && c ≤ '7'

def octalValue (digits : List Char) : Nat := digits.foldl (fun n c => 8 * n + (c.toNat - 48)) 0

def controlEscapes : List (Char × Nat) :=
  [('a', 7), ('f', 12), ('n', 10), ('r', 13), ('t', 9), ('v', 11), ('\\', 92)]

/-- Digits, words and blanks of ASCII alone. -/
def asciiItems : CharClass → List ClassItem
  | .digit => [.range '0' '9']
  | .word => [.range 'a' 'z', .range 'A' 'Z', .range '0' '9', .range '_' '_']
  | .blank => [.range '\t' '\r', .range ' ' ' ']

def className? (c : Char) : Option (CharClass × Bool) :=
  [('d', .digit, false), ('D', .digit, true), ('w', .word, false), ('W', .word, true),
    ('s', .blank, false), ('S', .blank, true)].lookup c

/-- Escapes that stand for one character wherever they are, after the backslash. -/
def charEscape? : List Char → Option (Char × List Char)
  | 'x' :: rest => hexCode? 2 rest
  | 'u' :: rest => hexCode? 4 rest
  | 'U' :: rest => hexCode? 8 rest
  | '0' :: rest =>
    let digits := (rest.take 2).takeWhile isOctal
    some (Char.ofNat (octalValue digits), rest.drop digits.length)
  | c :: rest =>
    match controlEscapes.lookup c with
    | some code => some (Char.ofNat code, rest)
    | none => if isAsciiLetter c || isAsciiDigit c then none else some (c, rest)
  | [] => none

/-- One member of a set: a class, or a character that may open a range. -/
inductive SetMember
  | cls (cls : CharClass) (negated : Bool)
  | char (c : Char)

def setMember? : List Char → Option (SetMember × List Char)
  | '\\' :: c :: rest =>
    match className? c with
    | some (cls, negated) => some (.cls cls negated, rest)
    | none =>
      if c == 'b' then some (.char (Char.ofNat 8), rest)
      else if isOctal c && c != '0' then
        let digits := ((c :: rest).take 3).takeWhile isOctal
        if octalValue digits < 256 then
          some (.char (Char.ofNat (octalValue digits)), (c :: rest).drop digits.length)
        else none
      else (charEscape? (c :: rest)).map fun (x, rest) => (.char x, rest)
  | '\\' :: [] => none
  | c :: rest => some (.char c, rest)
  | [] => none

def classItems (options : PatternOptions) (cls : CharClass) (negated : Bool) : List ClassItem :=
  if options.ascii && !negated then asciiItems cls else [.named cls negated]

/-- The items of one member of a set, or of the range it opens. -/
def setEntry? (options : PatternOptions) (text : List Char) :
    Option (List ClassItem × List Char) := do
  let (member, rest) ← setMember? text
  match member, rest with
  | .cls cls negated, '-' :: ']' :: _ => some (classItems options cls negated, rest)
  | .cls _ _, '-' :: _ => none
  | .cls cls negated, _ => some (classItems options cls negated, rest)
  | .char low, '-' :: ']' :: _ => some ([.range low low], rest)
  | .char low, '-' :: more =>
    match setMember? more with
    | some (.char high, rest) => if low ≤ high then some ([.range low high], rest) else none
    | _ => none
  | .char low, _ => some ([.range low low], rest)

/-- Members of a set up to the closing bracket, which may stand first as a member. -/
def setItems? (options : PatternOptions) (first : Bool) :
    Nat → List Char → Option (List ClassItem × List Char)
  | 0, _ => none
  | fuel + 1, text =>
    if !first && text.head? == some ']' then some ([], text.drop 1)
    else do
      let (items, rest) ← setEntry? options text
      let (more, rest) ← setItems? options false fuel rest
      some (items ++ more, rest)

def takeNumber (text : List Char) : Option Nat × List Char :=
  let digits := text.takeWhile isAsciiDigit
  (if digits.isEmpty then none else some (digits.foldl (fun n c => 10 * n + (c.toNat - 48)) 0),
    text.drop digits.length)

/-- A repetition count; a brace that opens none stands for itself. -/
inductive Count
  | absent
  | wrong
  | found (least : Nat) (most : Option Nat) (rest : List Char)

def readCount : List Char → Count
  | '*' :: rest => .found 0 none rest
  | '+' :: rest => .found 1 none rest
  | '?' :: rest => .found 0 (some 1) rest
  | '\x7b' :: rest =>
    match takeNumber rest with
    | (some n, '\x7d' :: rest) => .found n (some n) rest
    | (low, ',' :: rest) =>
      match takeNumber rest with
      | (high, '\x7d' :: rest) =>
        if high.any (· < low.getD 0) then .wrong else .found (low.getD 0) high rest
      | _ => .absent
    | _ => .absent
  | _ => .absent

/-- Whether a pattern stands for a position, so that repeating it makes no sense. -/
def isPosition : Pattern → Bool
  | .textStart | .lineStart | .textEnd | .lastLineEnd | .lineEnd | .wordEdge _ => true
  | _ => false

def groupName? (close : Char) (text : List Char) : Option (String × List Char) :=
  let name := text.takeWhile (· != close)
  match name, text.drop name.length with
  | c :: more, _ :: rest =>
    if (isWord c && !isDigit c) && more.all isWord then some (String.ofList name, rest) else none
  | _, _ => none

/-- The letters of an option group and what they switch on; `none` for letters without meaning. -/
def switchOn (options : PatternOptions) (letter : Char) : Option PatternOptions :=
  match letter with
  | 'i' => some { options with fold := true }
  | 'm' => some { options with lines := true }
  | 's' => some { options with breaks := true }
  | 'a' => some { options with ascii := true }
  | 'u' => some options
  | _ => none

def switchOff (options : PatternOptions) (letter : Char) : Option PatternOptions :=
  match letter with
  | 'i' => some { options with fold := false }
  | 'm' => some { options with lines := false }
  | 's' => some { options with breaks := false }
  | _ => none

def isSwitch (c : Char) : Bool := isAsciiLetter c

def switches? (options : PatternOptions) (text : List Char) :
    Option (PatternOptions × List Char) := do
  let on := text.takeWhile isSwitch
  let options ← on.foldlM switchOn options
  match text.drop on.length with
  | '-' :: rest =>
    let off := rest.takeWhile isSwitch
    if off.isEmpty then none
    else
      let options ← off.foldlM switchOff options
      some (options, rest.drop off.length)
  | rest => if on.isEmpty then none else some (options, rest)

def expectClose (text : List Char) : ReadPattern (List Char) :=
  match text with
  | ')' :: rest => return rest
  | _ => fail

mutual

def alternatives (options : PatternOptions) : Nat → List Char → ReadPattern (Pattern × List Char)
  | 0, _ => fail
  | fuel + 1, text => do
    let (first, rest) ← sequence options fuel text
    match rest with
    | '|' :: rest =>
      let (second, rest) ← alternatives options fuel rest
      return (.alt first second, rest)
    | rest => return (first, rest)

def sequence (options : PatternOptions) : Nat → List Char → ReadPattern (Pattern × List Char)
  | 0, _ => fail
  | fuel + 1, text => do
    match text with
    | [] => return (.empty, [])
    | '|' :: _ => return (.empty, text)
    | ')' :: _ => return (.empty, text)
    | '(' :: '?' :: '#' :: rest =>
      match rest.dropWhile (· != ')') with
      | ')' :: rest => sequence options fuel rest
      | _ => fail
    | text =>
      let (item, rest) ← atom options fuel text
      let (item, rest) ← match readCount rest with
        | .absent => pure (item, rest)
        | .wrong => fail
        | .found least most rest =>
          if isPosition item then fail
          else
            let (item, rest) := match rest with
              | '?' :: rest => (Pattern.times item least most false, rest)
              | '+' :: rest => (Pattern.atomic (.times item least most true), rest)
              | rest => (Pattern.times item least most true, rest)
            match readCount rest with
            | .absent => pure (item, rest)
            | _ => fail
      let (more, rest) ← sequence options fuel rest
      return (.seq item more, rest)

def atom (options : PatternOptions) : Nat → List Char → ReadPattern (Pattern × List Char)
  | 0, _ => fail
  | fuel + 1, text => do
    match text with
    | '^' :: rest => return (if options.lines then .lineStart else .textStart, rest)
    | '$' :: rest => return (if options.lines then .lineEnd else .lastLineEnd, rest)
    | '.' :: rest => return (.any options.breaks, rest)
    | '*' :: _ => fail
    | '+' :: _ => fail
    | '?' :: _ => fail
    | '[' :: '^' :: rest =>
      let (items, rest) ← setItems? options true fuel rest
      return (.set options.fold true items, rest)
    | '[' :: rest =>
      let (items, rest) ← setItems? options true fuel rest
      return (.set options.fold false items, rest)
    | '(' :: '?' :: rest => special options fuel rest
    | '(' :: rest => capture options fuel none rest
    | '\\' :: rest => escape options rest
    | c :: rest =>
      match readCount text with
      | .absent => return (.char options.fold c, rest)
      | _ => fail
    | [] => fail

/-- A group that captures, perhaps under a name. -/
def capture (options : PatternOptions) (fuel : Nat) (name : Option String) (text : List Char) :
    ReadPattern (Pattern × List Char) :=
  match fuel with
  | 0 => fail
  | fuel + 1 => do
    let state ← get
    let number := state.groups + 1
    if name.any fun name => state.names.any (·.1 == name) then fail
    else
      set { state with
        groups := number
        openGroups := number :: state.openGroups
        names := (name.map (·, number)).toList ++ state.names }
      let (body, rest) ← alternatives options fuel text
      let rest ← expectClose rest
      modify fun state => { state with openGroups := state.openGroups.filter (· != number) }
      return (.group number body, rest)

/-- Groups that open with a question mark. -/
def special (options : PatternOptions) (fuel : Nat) (text : List Char) :
    ReadPattern (Pattern × List Char) :=
  match fuel with
  | 0 => fail
  | fuel + 1 => do
    let inside (options : PatternOptions) (wrap : Pattern → ReadPattern Pattern)
        (text : List Char) :
        ReadPattern (Pattern × List Char) := do
      let (body, rest) ← alternatives options fuel text
      let rest ← expectClose rest
      return (← wrap body, rest)
    let behind (negated : Bool) (body : Pattern) : ReadPattern Pattern :=
      match body.width? with
      | some width => return .behind negated width body
      | none => fail
    match text with
    | ':' :: rest => inside options pure rest
    | '>' :: rest => inside options (fun body => return .atomic body) rest
    | '=' :: rest => inside options (fun body => return .ahead false body) rest
    | '!' :: rest => inside options (fun body => return .ahead true body) rest
    | '<' :: '=' :: rest => inside options (behind false) rest
    | '<' :: '!' :: rest => inside options (behind true) rest
    | 'P' :: '<' :: rest =>
      match groupName? '>' rest with
      | some (name, rest) => capture options fuel (some name) rest
      | none => fail
    | 'P' :: '=' :: rest =>
      match groupName? ')' rest with
      | some (name, rest) =>
        let state ← get
        match state.names.lookup name with
        | some number =>
          if state.openGroups.contains number then fail
          else return (.backref options.fold number, rest)
        | none => fail
      | none => fail
    | text =>
      match switches? options text with
      | some (options, ':' :: rest) => inside options pure rest
      | _ => fail

/-- What an escape outside sets stands for. -/
def escape (options : PatternOptions) (text : List Char) : ReadPattern (Pattern × List Char) := do
  match text with
  | 'A' :: rest => return (.textStart, rest)
  | 'Z' :: rest => return (.textEnd, rest)
  | 'b' :: rest => return (.wordEdge false, rest)
  | 'B' :: rest => return (.wordEdge true, rest)
  | c :: rest =>
    match className? c with
    | some (cls, negated) =>
      if options.ascii then return (.set false negated (asciiItems cls), rest)
      else return (.set false false [.named cls negated], rest)
    | none =>
      if '1' ≤ c && c ≤ '9' then
        let digits := (c :: rest).takeWhile isAsciiDigit
        let octal := ((c :: rest).take 3).takeWhile isOctal
        if octal.length == 3 then
          if octalValue octal < 256 then
            return (.char options.fold (Char.ofNat (octalValue octal)), (c :: rest).drop 3)
          else fail
        else
          let number := (takeNumber (digits.take 2)).1.getD 0
          let state ← get
          if number ≤ state.groups && !state.openGroups.contains number then
            return (.backref options.fold number, (c :: rest).drop (digits.take 2).length)
          else fail
      else
        match charEscape? text with
        | some (c, rest) => return (.char options.fold c, rest)
        | none => fail
  | [] => fail

end

/-- Options that stand alone at the start and hold for the whole pattern. -/
def globalOptions (options : PatternOptions) : Nat → List Char → PatternOptions × List Char
  | 0, text => (options, text)
  | fuel + 1, text =>
    match text with
    | '(' :: '?' :: rest =>
      let letters := rest.takeWhile isSwitch
      match letters.foldlM switchOn options, rest.drop letters.length with
      | some switched, ')' :: rest =>
        if letters.isEmpty then (options, text) else globalOptions switched fuel rest
      | _, _ => (options, text)
    | text => (options, text)

end PatternReader

def Pattern.read? (text : String) : Option Pattern := do
  let chars := text.toList
  let fuel := 4 * chars.length + 8
  let (options, rest) := PatternReader.globalOptions ⟨false, false, false, false⟩ fuel chars
  let ((pattern, rest), _) ← (PatternReader.alternatives options fuel rest).run ⟨0, [], []⟩
  if rest.isEmpty then some pattern else none

end PageRuntime.Text
