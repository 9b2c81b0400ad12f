import PageRuntime.Json.Quoted
import PageRuntime.Yaml.Cursor

/-! The texts of scalars, anchors and tags as they stand in a document: plain text, both quoted
styles with their line folding and escapes, and literal and folded blocks. -/
namespace PageRuntime.Yaml

abbrev Found := List Char × Cursor

/-- Further line breaks inside a quoted scalar; a document marker must not open a line there. -/
def quotedBreaks : Nat → Cursor → Option Found
  | 0, _ => none
  | fuel + 1, c =>
    if c.atSeparator then none
    else
      let c := c.skip (fun x => x == ' ' || x == '\t')
      match c.lineBreak? with
      | some (x, c) => (quotedBreaks fuel c).map fun (xs, c) => (x :: xs, c)
      | none => some ([], c)

/-- Blanks inside a quoted scalar: kept within a line, folded around line breaks. -/
def quotedBlanks (fuel : Nat) (c : Cursor) : Option Found :=
  let (blanks, c) := c.span (fun x => x == ' ' || x == '\t')
  match c.lineBreak? with
  | some (x, c) =>
    (quotedBreaks fuel c).map fun (xs, c) =>
      (if x != '\n' then x :: xs else if xs.isEmpty then [' '] else xs, c)
  | none => if isEnd c.head then none else some (blanks, c)

def escapes : List (Char × Nat) := [
  ('0', 0), ('a', 7), ('b', 8), ('t', 9), ('\t', 9), ('n', 10), ('v', 11), ('f', 12), ('r', 13),
  ('e', 27), (' ', 32), ('"', 34), ('\\', 92), ('/', 47), ('N', 0x85), ('_', 0xA0), ('L', 0x2028),
  ('P', 0x2029)]

def escapeLength? (c : Char) : Option Nat :=
  if c == 'x' then some 2 else if c == 'u' then some 4 else if c == 'U' then some 8 else none

/-- A character code written in hexadecimal digits. A code that is no character on its own reads as
the replacement character; one beyond Unicode is refused. -/
def escapedCode? (digits : List Char) : Option Char := do
  let values ← digits.mapM Json.hexValue?
  let code := values.foldl (fun code d => 16 * code + d) 0
  if 0x110000 ≤ code then none
  else if 0xD800 ≤ code && code < 0xE000 then some (Char.ofNat 0xFFFD)
  else some (Char.ofNat code)

def isQuotedStop (c : Char) : Bool := c == '\'' || c == '"' || c == '\\' || isBlankOrEnd c

/-- The text of a quoted scalar after its opening quote, up to and over the closing one. -/
def quotedText (double : Bool) : Nat → Cursor → Option Found
  | 0, _ => none
  | fuel + 1, c =>
    let (run, c) := c.span (!isQuotedStop ·)
    let continueWith (xs : List Char) (c : Cursor) : Option Found :=
      (quotedText double fuel c).map fun (more, c) => (run ++ xs ++ more, c)
    let x := c.head
    if !double && x == '\'' && c.peek 1 == '\'' then continueWith ['\''] (c.advance 2)
    else if x == (if double then '"' else '\'') then some (run, c.step)
    else if x == '\'' || x == '"' || (!double && x == '\\') then continueWith [x] c.step
    else if x == '\\' then
      let c := c.step
      let x := c.head
      match escapes.lookup x with
      | some code => continueWith [Char.ofNat code] c.step
      | none =>
        match escapeLength? x with
        | some length =>
          let digits := c.step.rest.take length
          if digits.length == length then do
            let x ← escapedCode? digits
            continueWith [x] (c.step.advance length)
          else none
        | none =>
          match c.lineBreak? with
          | some (_, c) => do
            let (xs, c) ← quotedBreaks fuel c
            continueWith xs c
          | none => none
    else do
      let (xs, c) ← quotedBlanks fuel c
      continueWith xs c

/-- Line breaks after the first inside a plain scalar; `none` where a document marker stands. -/
def plainBreaks : Nat → Cursor → Option (List Char) × Cursor
  | 0, c => (some [], c)
  | fuel + 1, c =>
    let c := c.skipSpaces
    match c.lineBreak? with
    | some (x, c) =>
      if c.atSeparator then (none, c)
      else
        let (xs, c) := plainBreaks fuel c
        (xs.map (x :: ·), c)
    | none => (some [], c)

/-- The gap after a word of a plain scalar: its folded text, the place after it, and whether it
broke the line. An empty text ends the scalar. -/
def plainGap (fuel : Nat) (c : Cursor) : List Char × Cursor × Bool :=
  let (blanks, c) := c.span (· == ' ')
  match c.lineBreak? with
  | some (x, c) =>
    if c.atSeparator then ([], c, true)
    else
      match plainBreaks fuel c with
      | (none, c) => ([], c, true)
      | (some xs, c) =>
        (if x != '\n' then x :: xs else if xs.isEmpty then [' '] else xs, c, true)
  | none => (blanks, c, false)

def isFlowMark (c : Char) : Bool := c == ',' || c == '[' || c == ']' || c == '\x7b' || c == '\x7d'

/-- How many characters of a plain scalar's word follow. -/
def wordLength (inFlow : Bool) : List Char → Nat
  | [] => 0
  | x :: rest =>
    let next := rest.head?.getD (Char.ofNat 0)
    if isBlankOrEnd x then 0
    else if x == ':' && (isBlankOrEnd next || (inFlow && isFlowMark next)) then 0
    else if inFlow && (isFlowMark x || x == '?') then 0
    else wordLength inFlow rest + 1

/-- The text of a plain scalar, the place after it, and whether its last gap broke a line. `gap` is
the folded text that stands before the next word. -/
def plainText (inFlow : Bool) (indent : Int) (gap : List Char) (broke : Bool) :
    Nat → Cursor → List Char × Cursor × Bool
  | 0, c => ([], c, broke)
  | fuel + 1, c =>
    let length := if c.head == '#' then 0 else wordLength inFlow c.rest
    if length == 0 then ([], c, broke)
    else
      let word := c.rest.take length
      let (spaces, c, broke) := plainGap fuel (c.advance length)
      if spaces.isEmpty || c.head == '#' || (!inFlow && (c.column : Int) < indent) then
        (gap ++ word, c, broke)
      else
        let (more, c, broke) := plainText inFlow indent spaces broke fuel c
        (gap ++ word ++ more, c, broke)

/-- What a block scalar does with its final line breaks. -/
inductive Chomping
  | strip
  | clip
  | keep
deriving DecidableEq

def chomping? (c : Char) : Option Chomping :=
  if c == '+' then some .keep else if c == '-' then some .strip else none

def increment? (c : Char) : Option Nat :=
  if '0' ≤ c && c ≤ '9' then some (c.toNat - 48) else none

/-- The header of a block scalar, after its indicator: what is chomped and how far it is
indented. -/
def blockHeader? (c : Cursor) : Option (Chomping × Option Nat × Cursor) := do
  let (chomping, increment, c) ← match chomping? c.head with
    | some chomping =>
      match increment? c.step.head with
      | some n => some (chomping, some n, c.advance 2)
      | none => some (chomping, none, c.step)
    | none =>
      match increment? c.head with
      | some n =>
        match chomping? c.step.head with
        | some chomping => some (chomping, some n, c.advance 2)
        | none => some (.clip, some n, c.step)
      | none => some (.clip, none, c)
  if increment == some 0 || !isGapOrEnd c.head then none
  else
    let c ← c.finishLine?
    some (chomping, increment, c)

/-- Leading empty lines of a block scalar with the deepest indentation met on the way. -/
def blockIndentation (deepest : Nat) : Nat → Cursor → List Char × Nat × Cursor
  | 0, c => ([], deepest, c)
  | fuel + 1, c =>
    match c.lineBreak? with
    | some (x, c) =>
      let (xs, deepest, c) := blockIndentation deepest fuel c
      (x :: xs, deepest, c)
    | none =>
      if c.head == ' ' then blockIndentation (max deepest (c.column + 1)) fuel c.step
      else ([], deepest, c)

/-- Spaces up to an indentation. -/
def skipIndent (indent : Nat) (c : Cursor) : Cursor :=
  c.advance (min (indent - c.column) (c.rest.takeWhile (· == ' ')).length)

def blockBreaks (indent : Nat) : Nat → Cursor → Found
  | 0, c => ([], c)
  | fuel + 1, c =>
    let c := skipIndent indent c
    match c.lineBreak? with
    | some (x, c) =>
      let (xs, c) := blockBreaks indent fuel c
      (x :: xs, c)
    | none => ([], c)

def isSpaceOrTab (c : Char) : Bool := c == ' ' || c == '\t'

/-- The lines of a block scalar. `breaks` are the empty lines before the next one. The result ends
with the last line, its line break, and the empty lines after it. -/
def blockLines (folded : Bool) (indent : Nat) (breaks : List Char) :
    Nat → Cursor → List Char × List Char × List Char × Cursor
  | 0, c => ([], [], breaks, c)
  | fuel + 1, c =>
    if c.column == indent && !isEnd c.head then
      let leading := !isSpaceOrTab c.head
      let (line, c) := c.span (!isBreakOrEnd ·)
      let (lineBreak, c) := match c.lineBreak? with
        | some (x, c) => ([x], c)
        | none => ([], c)
      let (after, c) := blockBreaks indent fuel c
      if c.column == indent && !isEnd c.head then
        let joint :=
          if folded && lineBreak == ['\n'] && leading && !isSpaceOrTab c.head then
            if after.isEmpty then [' '] else []
          else lineBreak
        let (more, last, rest, c) := blockLines folded indent after fuel c
        (breaks ++ line ++ joint ++ more, last, rest, c)
      else (breaks ++ line, lineBreak, after, c)
    else ([], [], breaks, c)

def blockText (folded : Bool) (parentIndent : Int) (fuel : Nat) (c : Cursor) : Option Found := do
  let (chomping, increment, c) ← blockHeader? c
  let least := (max (parentIndent + 1) 1).toNat
  let (breaks, indent, c) := match increment with
    | none =>
      let (breaks, deepest, c) := blockIndentation 0 fuel c
      (breaks, max least deepest, c)
    | some n =>
      let indent := least + n - 1
      let (breaks, c) := blockBreaks indent fuel c
      (breaks, indent, c)
  let (text, last, breaks, c) := blockLines folded indent breaks fuel c
  let text := if chomping == .strip then text else text ++ last
  some (if chomping == .keep then text ++ breaks else text, c)

def isNameChar (c : Char) : Bool :=
  ('0' ≤ c && c ≤ '9') || ('A' ≤ c && c ≤ 'Z') || ('a' ≤ c && c ≤ 'z') || c == '-' || c == '_'

/-- The name of an anchor or alias, after its indicator. -/
def anchorName? (c : Cursor) : Option (String × Cursor) :=
  let (name, c) := c.span isNameChar
  let x := c.head
  if name.isEmpty || !(isBlankOrEnd x || "?:,]\x7d%@`".toList.contains x) then none
  else some (String.ofList name, c)

def uriMarks : List Char := "-;/?:@&=+$,_.!~*'()[]%".toList

def isUriChar (c : Char) : Bool := isNameChar c || uriMarks.contains c

/-- Octets of a percent escape, joined as UTF-8 text. -/
def uriEscapes? : Nat → Cursor → Option (List UInt8 × Cursor)
  | 0, _ => none
  | fuel + 1, c =>
    if c.head == '%' then do
      let high ← Json.hexValue? (c.peek 1)
      let low ← Json.hexValue? (c.peek 2)
      let (bytes, c) ← uriEscapes? fuel (c.advance 3)
      some (UInt8.ofNat (high * 16 + low) :: bytes, c)
    else some ([], c)

def uriText? : Nat → Cursor → Option Found
  | 0, _ => none
  | fuel + 1, c =>
    let (run, c) := c.span (fun x => isUriChar x && x != '%')
    if c.head == '%' then do
      let (bytes, c) ← uriEscapes? fuel c
      let text ← String.fromUTF8? ⟨bytes.toArray⟩
      let (more, c) ← uriText? fuel c
      some (run ++ text.toList ++ more, c)
    else some (run, c)

def uri? (fuel : Nat) (c : Cursor) : Option (String × Cursor) := do
  let (text, c) ← uriText? fuel c
  if text.isEmpty then none else some (String.ofList text, c)

/-- A tag handle: an exclamation mark, or a name between two of them. -/
def tagHandle? (c : Cursor) : Option (String × Cursor) :=
  if c.head != '!' then none
  else if c.peek 1 == ' ' then some ("!", c.step)
  else
    let (name, after) := c.step.span isNameChar
    if after.head == '!' then some (String.ofList ('!' :: name ++ ['!']), after.step) else none

/-- A tag as written: its handle, if it has one, and what follows the handle. -/
def tag? (fuel : Nat) (c : Cursor) : Option (Option String × String × Cursor) := do
  let x := c.peek 1
  let (handle, suffix, c) ←
    if x == '<' then do
      let (suffix, c) ← uri? fuel (c.advance 2)
      if c.head == '>' then some (none, suffix, c.step) else none
    else if isBlankOrEnd x then some (none, "!", c.step)
    else do
      let word := c.step.rest.takeWhile (!isGapOrEnd ·)
      let (handle, c) ← if word.contains '!' then tagHandle? c else some ("!", c.step)
      let (suffix, c) ← uri? fuel c
      some (some handle, suffix, c)
  if isGapOrEnd c.head then some (handle, suffix, c) else none

end PageRuntime.Yaml
