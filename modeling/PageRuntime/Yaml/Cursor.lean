/-! A place in a text of structured data: what remains, and the line and column it starts at. Five
characters break lines; past the end of the text stands a null character, which no text holds. -/
namespace PageRuntime.Yaml

structure Cursor where
  rest : List Char
  index : Nat
  line : Nat
  column : Nat

def isBreak (c : Char) : Bool :=
  c == '\n' || c == '\r' || c.toNat == 0x85 || c.toNat == 0x2028 || c.toNat == 0x2029

def isEnd (c : Char) : Bool := c.toNat == 0

def isBreakOrEnd (c : Char) : Bool := isEnd c || isBreak c

def isGapOrEnd (c : Char) : Bool := c == ' ' || isBreakOrEnd c

def isBlankOrEnd (c : Char) : Bool := c == '\t' || isGapOrEnd c

/-- Characters that a text may hold at all. -/
def isAllowed (c : Char) : Bool :=
  let n := c.toNat
  n == 9 || n == 10 || n == 13 || (0x20 ≤ n && n ≤ 0x7E) || n == 0x85 ||
    (0xA0 ≤ n && n ≤ 0xFFFD) || 0x10000 ≤ n

namespace Cursor

def ofText (text : List Char) : Cursor := ⟨text, 0, 0, 0⟩

def peek (c : Cursor) (ahead : Nat) : Char := c.rest.getD ahead (Char.ofNat 0)

def head (c : Cursor) : Char := c.peek 0

def step (c : Cursor) : Cursor :=
  match c.rest with
  | [] => c
  | x :: rest =>
    if isBreak x && !(x == '\r' && rest.head? == some '\n') then
      ⟨rest, c.index + 1, c.line + 1, 0⟩
    else if x.toNat == 0xFEFF then ⟨rest, c.index + 1, c.line, c.column⟩
    else ⟨rest, c.index + 1, c.line, c.column + 1⟩

def advance (c : Cursor) : Nat → Cursor
  | 0 => c
  | n + 1 => c.step.advance n

/-- The longest run of characters with a property, and the place after it. -/
def span (c : Cursor) (p : Char → Bool) : List Char × Cursor :=
  let run := c.rest.takeWhile p
  (run, c.advance run.length)

def skip (c : Cursor) (p : Char → Bool) : Cursor := (c.span p).2

def skipSpaces (c : Cursor) : Cursor := c.skip (· == ' ')

/-- A line break and the character it stands for; most breaks read as a line feed. -/
def lineBreak? (c : Cursor) : Option (Char × Cursor) :=
  let x := c.head
  if x == '\r' && c.peek 1 == '\n' then some ('\n', c.advance 2)
  else if x == '\r' || x == '\n' || x.toNat == 0x85 then some ('\n', c.step)
  else if isBreak x then some (x, c.step)
  else none

/-- Whether a document marker of three equal characters stands here. -/
def atMarker (c : Cursor) (mark : Char) : Bool :=
  c.rest.take 3 == [mark, mark, mark] && isBlankOrEnd (c.peek 3)

def atSeparator (c : Cursor) : Bool := c.atMarker '-' || c.atMarker '.'

/-- Skips a comment and requires the line to end there. -/
def finishLine? (c : Cursor) : Option Cursor :=
  let c := c.skipSpaces
  let c := if c.head == '#' then c.skip (!isBreakOrEnd ·) else c
  match c.lineBreak? with
  | some (_, c) => some c
  | none => if isEnd c.head then some c else none

end Cursor

end PageRuntime.Yaml
