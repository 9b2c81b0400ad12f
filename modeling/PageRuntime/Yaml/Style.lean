import PageRuntime.Yaml.Tag

/-! How a text is written as a scalar: plain where it reads back as itself, single quoted where line
breaks or marks forbid that, and double quoted for everything beyond printable ASCII. -/
namespace PageRuntime.Yaml

inductive Style
  | plain
  | single
  | double
deriving DecidableEq

/-- What stands in the way of a style. -/
structure Obstacles where
  multiline : Bool
  plain : Bool
  single : Bool
deriving DecidableEq

def Obstacles.both (a b : Obstacles) : Obstacles :=
  ⟨a.multiline || b.multiline, a.plain || b.plain, a.single || b.single⟩

def Obstacles.none : Obstacles := ⟨false, false, false⟩

/-- Breaks that a written text may hold; a carriage return is a special character instead. -/
def isTextBreak (c : Char) : Bool := isBreak c && c != '\r'

def isPrintableAscii (c : Char) : Bool := ' ' ≤ c && c ≤ '~'

/-- What one character, with its neighbours, stands in the way of. -/
def obstaclesAt (before : Option Char) (c : Char) (after : Option Char) : Obstacles :=
  let gapBefore := before.all isBlankOrEnd
  let gapAfter := after.all isBlankOrEnd
  let mark :=
    if before.isNone then
      "#,[]\x7b\x7d&*!|>'\"%@`".toList.contains c ||
        ((c == '?' || c == ':' || c == '-') && gapAfter)
    else (c == ':' && gapAfter) || (c == '#' && gapBefore)
  let special := !(c == '\n' || isPrintableAscii c)
  let isEdge := before.isNone || after.isNone
  let edgeGap := isEdge && (c == ' ' || isTextBreak c)
  let breakThenSpace := c == ' ' && before.any isTextBreak
  let spaceThenBreak := isTextBreak c && before == some ' '
  let single := special || breakThenSpace || spaceThenBreak
  ⟨isTextBreak c, mark || edgeGap || single || isTextBreak c, single⟩

def obstaclesFrom (before : Option Char) : List Char → Obstacles
  | [] => .none
  | c :: rest => (obstaclesAt before c rest.head?).both (obstaclesFrom (some c) rest)

def obstacles (text : List Char) : Obstacles :=
  let found := obstaclesFrom none text
  let marker := text.take 3 == ['-', '-', '-'] || text.take 3 == ['.', '.', '.']
  { found with plain := found.plain || marker }

/-- The style of a scalar whose plain form would read back under the same tag or not. A key stays on
one line. -/
def chooseStyle (isKey : Bool) (readsBack : Bool) (text : List Char) : Style :=
  let found := obstacles text
  if readsBack && !found.plain && !(isKey && (text.isEmpty || found.multiline)) then .plain
  else if !found.single && !(isKey && found.multiline) then .single
  else .double

def escapeLetters : List (Nat × Char) := [
  (0, '0'), (7, 'a'), (8, 'b'), (9, 't'), (10, 'n'), (11, 'v'), (12, 'f'), (13, 'r'), (27, 'e'),
  (34, '"'), (92, '\\'), (0x85, 'N'), (0xA0, '_'), (0x2028, 'L'), (0x2029, 'P')]

def upperHex (width n : Nat) : List Char := (Text.hexText width n).map Char.toUpper

/-- The escape of a character in double quotes, if it needs one. -/
def escape? (c : Char) : Option (List Char) :=
  match escapeLetters.lookup c.toNat with
  | some letter => some ['\\', letter]
  | none =>
    if isPrintableAscii c then none
    else if c.toNat < 0x100 then some ('\\' :: 'x' :: upperHex 2 c.toNat)
    else if c.toNat < 0x10000 then some ('\\' :: 'u' :: upperHex 4 c.toNat)
    else some ('\\' :: 'U' :: upperHex 8 c.toNat)

end PageRuntime.Yaml
