import PageRuntime.Yaml.Scalar

/-! Tokens of a structured text. Indentation becomes explicit block starts and ends, and a key that
is only recognised by the colon after it gets its key mark inserted where it began. -/
namespace PageRuntime.Yaml

inductive Token
  | version (major : Nat)
  | tagHandle (handle expansion : String)
  | directive
  | documentStart
  | documentEnd
  | sequenceStart
  | mappingStart
  | blockEnd
  | openSequence
  | closeSequence
  | openMapping
  | closeMapping
  | separator
  | entry
  | key
  | value
  | alias (name : String)
  | anchor (name : String)
  | tag (handle : Option String) (suffix : String)
  | scalar (text : String) (plain : Bool)
deriving DecidableEq

/-- A place where a key may have begun, on one level of flow collections. A required key must turn
out to be one. -/
structure KeyStart where
  level : Nat
  tokenNumber : Nat
  required : Bool
  index : Nat
  line : Nat
  column : Nat

structure Lexer where
  cursor : Cursor
  flowLevel : Nat
  indent : Int
  indents : List Int
  keyAllowed : Bool
  keyStarts : List KeyStart
  tokens : Array Token

namespace Lexer

def start (text : List Char) : Lexer := ⟨Cursor.ofText text, 0, -1, [], true, [], #[]⟩

def inFlow (x : Lexer) : Bool := 0 < x.flowLevel

def emit (x : Lexer) (token : Token) : Lexer := { x with tokens := x.tokens.push token }

/-- Emits a token whose text is the next characters. -/
def emitOver (x : Lexer) (length : Nat) (token : Token) : Lexer :=
  { x with cursor := x.cursor.advance length, tokens := x.tokens.push token }

/-- Drops key starts that lie too far back; a required one that was no key is a fault. -/
def dropStale? (x : Lexer) : Option Lexer :=
  let stale (k : KeyStart) : Bool := k.line != x.cursor.line || 1024 < x.cursor.index - k.index
  if x.keyStarts.any (fun k => stale k && k.required) then none
  else some { x with keyStarts := x.keyStarts.filter (!stale ·) }

def dropKeyStart? (x : Lexer) : Option Lexer :=
  if x.keyStarts.any (fun k => k.level == x.flowLevel && k.required) then none
  else some { x with keyStarts := x.keyStarts.filter (·.level != x.flowLevel) }

def saveKeyStart? (x : Lexer) : Option Lexer :=
  if !x.keyAllowed then some x
  else do
    let x ← x.dropKeyStart?
    let c := x.cursor
    let required := !x.inFlow && x.indent == c.column
    some { x with
      keyStarts :=
        ⟨x.flowLevel, x.tokens.size, required, c.index, c.line, c.column⟩ :: x.keyStarts }

/-- Closes the blocks that are indented further than a column. -/
def unwind (column : Int) : Nat → Lexer → Lexer
  | 0, x => x
  | fuel + 1, x =>
    if x.inFlow || x.indent ≤ column then x
    else
      unwind column fuel
        { x with indent := x.indents.head?.getD (-1), indents := x.indents.drop 1,
                 tokens := x.tokens.push .blockEnd }

def unwindTo (x : Lexer) (column : Int) : Lexer := unwind column (x.indents.length + 1) x

/-- Opens a block at a column if it is indented further than the current one. -/
def openBlock (x : Lexer) (column : Nat) (token : Token) : Lexer :=
  if x.indent < column then
    { x with indents := x.indent :: x.indents, indent := column, tokens := x.tokens.push token }
  else x

def skipToToken (fuel : Nat) (x : Lexer) : Lexer :=
  match fuel with
  | 0 => x
  | fuel + 1 =>
    let c := x.cursor
    let c := if c.index == 0 && c.head.toNat == 0xFEFF then c.step else c
    let c := c.skipSpaces
    let c := if c.head == '#' then c.skip (!isBreakOrEnd ·) else c
    match c.lineBreak? with
    | some (_, c) =>
      skipToToken fuel { x with cursor := c, keyAllowed := x.keyAllowed || !x.inFlow }
    | none => { x with cursor := c }

def digitsValue? (digits : List Char) : Option Nat :=
  if digits.isEmpty then none
  else some (digits.foldl (fun n c => 10 * n + (c.toNat - 48)) 0)

def isDecimal (c : Char) : Bool := '0' ≤ c && c ≤ '9'

/-- A directive after its percent sign: a version, a tag handle, or one that is ignored. -/
def directive? (fuel : Nat) (c : Cursor) : Option (Token × Cursor) := do
  let (name, c) := c.span isNameChar
  if name.isEmpty || !isGapOrEnd c.head then none
  else if name == "YAML".toList then
    let (major, c) := c.skipSpaces.span isDecimal
    let major ← digitsValue? major
    if c.head != '.' then none
    else
      let (minor, c) := c.step.span isDecimal
      if minor.isEmpty || !isGapOrEnd c.head then none
      else
        let c ← c.finishLine?
        some (.version major, c)
  else if name == "TAG".toList then
    let (handle, c) ← tagHandle? c.skipSpaces
    if c.head != ' ' then none
    else
      let (expansion, c) ← uri? fuel c.skipSpaces
      if !isGapOrEnd c.head then none
      else
        let c ← c.finishLine?
        some (.tagHandle handle expansion, c)
  else
    let c ← (c.skip (!isBreakOrEnd ·)).finishLine?
    some (.directive, c)

def closeDocument? (x : Lexer) : Option Lexer := do
  let x ← (x.unwindTo (-1)).dropKeyStart?
  some { x with keyAllowed := false }

def openFlow? (x : Lexer) (token : Token) : Option Lexer := do
  let x ← x.saveKeyStart?
  some { x.emitOver 1 token with flowLevel := x.flowLevel + 1, keyAllowed := true }

/-- A closing mark outside all flow collections is a fault. -/
def closeFlow? (x : Lexer) (token : Token) : Option Lexer := do
  let x ← x.dropKeyStart?
  if x.flowLevel == 0 then none
  else some { x.emitOver 1 token with flowLevel := x.flowLevel - 1, keyAllowed := false }

def separator? (x : Lexer) : Option Lexer := do
  let x ← x.dropKeyStart?
  some { x.emitOver 1 .separator with keyAllowed := true }

def entry? (x : Lexer) : Option Lexer := do
  let x ← if x.inFlow then some x
    else if !x.keyAllowed then none
    else some (x.openBlock x.cursor.column .sequenceStart)
  let x ← x.dropKeyStart?
  some { x.emitOver 1 .entry with keyAllowed := true }

def key? (x : Lexer) : Option Lexer := do
  let x ← if x.inFlow then some x
    else if !x.keyAllowed then none
    else some (x.openBlock x.cursor.column .mappingStart)
  let x ← x.dropKeyStart?
  some { x.emitOver 1 .key with keyAllowed := !x.inFlow }

/-- The colon of a value. If a key began on this level, its mark goes in front of it, and the block
it opens in front of that. -/
def value? (x : Lexer) : Option Lexer :=
  match x.keyStarts.find? (·.level == x.flowLevel) with
  | some k =>
    let opens := !x.inFlow && x.indent < (k.column : Int)
    let marks := if opens then [Token.mappingStart, .key] else [.key]
    let tokens := x.tokens.toList.take k.tokenNumber ++ marks ++ x.tokens.toList.drop k.tokenNumber
    let x := { x with
      keyStarts := x.keyStarts.filter (·.level != x.flowLevel)
      tokens := tokens.toArray
      indents := if opens then x.indent :: x.indents else x.indents
      indent := if opens then k.column else x.indent }
    some { x.emitOver 1 .value with keyAllowed := false }
  | none => do
    let x ← if x.inFlow then some x
      else if !x.keyAllowed then none
      else some (x.openBlock x.cursor.column .mappingStart)
    let x ← x.dropKeyStart?
    some { x.emitOver 1 .value with keyAllowed := !x.inFlow }

/-- A token that may open a key, read by a function from the cursor. -/
def node? (x : Lexer) (read : Cursor → Option (Token × Cursor)) : Option Lexer := do
  let x ← x.saveKeyStart?
  let (token, cursor) ← read x.cursor
  some { x.emit token with cursor, keyAllowed := false }

def block? (x : Lexer) (folded : Bool) (fuel : Nat) : Option Lexer := do
  let x ← x.dropKeyStart?
  let (text, cursor) ← blockText folded x.indent fuel x.cursor.step
  some { x.emit (.scalar (String.ofList text) false) with cursor, keyAllowed := true }

def plain? (x : Lexer) (fuel : Nat) : Option Lexer := do
  let x ← x.saveKeyStart?
  let (text, cursor, broke) := plainText x.inFlow (x.indent + 1) [] false fuel x.cursor
  some { x.emit (.scalar (String.ofList text) true) with cursor, keyAllowed := broke }

/-- Characters that cannot open a plain scalar on their own. -/
def indicators : List Char := "-?:,[]\x7b\x7d#&*!|>'\"%@`".toList

def opensPlain (x : Lexer) : Bool :=
  let c := x.cursor.head
  (!isBlankOrEnd c && !indicators.contains c) ||
    (!isBlankOrEnd (x.cursor.peek 1) && (c == '-' || (!x.inFlow && (c == '?' || c == ':'))))

/-- Reads the next token, or ends with `true` at the end of the text. -/
def next? (fuel : Nat) (x : Lexer) : Option (Bool × Lexer) := do
  let x ← (skipToToken fuel x).dropStale?
  let x := x.unwindTo x.cursor.column
  let c := x.cursor.head
  let blankFollows := isBlankOrEnd (x.cursor.peek 1)
  let more (x : Option Lexer) : Option (Bool × Lexer) := x.map (false, ·)
  if isEnd c then
    let x ← x.closeDocument?
    some (true, x)
  else if c == '%' && x.cursor.column == 0 then
    let x ← x.closeDocument?
    let (token, cursor) ← directive? fuel x.cursor.step
    some (false, { x.emit token with cursor })
  else if x.cursor.column == 0 && x.cursor.atMarker '-' then
    more (x.closeDocument?.map (·.emitOver 3 .documentStart))
  else if x.cursor.column == 0 && x.cursor.atMarker '.' then
    more (x.closeDocument?.map (·.emitOver 3 .documentEnd))
  else if c == '[' then more (x.openFlow? .openSequence)
  else if c == '\x7b' then more (x.openFlow? .openMapping)
  else if c == ']' then more (x.closeFlow? .closeSequence)
  else if c == '\x7d' then more (x.closeFlow? .closeMapping)
  else if c == ',' then more x.separator?
  else if c == '-' && blankFollows then more x.entry?
  else if c == '?' && (x.inFlow || blankFollows) then more x.key?
  else if c == ':' && (x.inFlow || blankFollows) then more x.value?
  else if c == '*' then
    more (x.node? fun c => (anchorName? c.step).map fun (name, c) => (.alias name, c))
  else if c == '&' then
    more (x.node? fun c => (anchorName? c.step).map fun (name, c) => (.anchor name, c))
  else if c == '!' then
    more (x.node? fun c =>
      (Yaml.tag? fuel c).map fun (handle, suffix, c) => (.tag handle suffix, c))
  else if c == '|' && !x.inFlow then more (x.block? false fuel)
  else if c == '>' && !x.inFlow then more (x.block? true fuel)
  else if c == '\'' || c == '"' then
    more (x.node? fun cursor => (quotedText (c == '"') fuel cursor.step).map fun (text, cursor) =>
      (.scalar (String.ofList text) false, cursor))
  else if x.opensPlain then more (x.plain? fuel)
  else none

def run (inner : Nat) : Nat → Lexer → Option (List Token)
  | 0, _ => none
  | fuel + 1, x => do
    let (finished, x) ← x.next? inner
    if finished then some x.tokens.toList else run inner fuel x

end Lexer

/-- All tokens of a text; `none` if it is malformed or holds a character that no text may hold. -/
def tokens? (text : String) : Option (List Token) :=
  let characters := text.toList
  if characters.all isAllowed then
    Lexer.run (characters.length + 2) (characters.length + 2) (Lexer.start characters)
  else none

end PageRuntime.Yaml
