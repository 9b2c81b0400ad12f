import PageRuntime.Yaml.Style

/-! The written page: lines of text with a column, and the marks and scalars put on it. Lines are
folded at single spaces once they are wider than eighty columns. -/
namespace PageRuntime.Yaml

/-- `blank` says that the last character separates, `fresh` that only indentation stands before. -/
structure Page where
  text : String
  column : Nat
  blank : Bool
  fresh : Bool
  openEnded : Bool

namespace Page

def width : Nat := 80

def empty : Page := ⟨"", 0, true, true, false⟩

def put (page : Page) (chars : List Char) : Page :=
  { page with text := page.text ++ String.ofList chars, column := page.column + chars.length }

def lineBreak (page : Page) (c : Char) : Page :=
  { page with text := page.text.push c, column := 0, blank := true, fresh := true }

/-- Moves to an indentation, on a new line unless the page already stands on a fresh one. -/
def toIndent (page : Page) (indent : Nat) : Page :=
  let page := if !page.fresh || indent < page.column || (page.column == indent && !page.blank) then
      page.lineBreak '\n'
    else page
  if page.column < indent then
    { page.put (List.replicate (indent - page.column) ' ') with blank := true }
  else page

/-- Puts a mark, parted from what stands before it if `apart`. -/
def mark (page : Page) (chars : List Char) (apart : Bool) (blankAfter : Bool) (keepsFresh : Bool) :
    Page :=
  let page := page.put (if page.blank || !apart then chars else ' ' :: chars)
  { page with blank := blankAfter, fresh := page.fresh && keepsFresh, openEnded := false }

def within (page : Page) : Page := { page with blank := false, fresh := false }

/-- The pieces of a text: runs of spaces, runs of breaks, and what stands between them. -/
def pieces (text : List Char) : List (List Char) :=
  text.splitBy fun a b =>
    (a == ' ' && b == ' ') || (isTextBreak a && isTextBreak b) ||
      (a != ' ' && b != ' ' && !isTextBreak a && !isTextBreak b)

/-- The words of a plain scalar; a single space beyond the width becomes a line break. -/
def plainPieces (indent : Nat) (fold : Bool) : Page → List (List Char) → Page
  | page, [] => page
  | page, piece :: rest =>
    let page := if piece == [' '] && fold && width < page.column then (page.toIndent indent).within
      else page.put piece
    plainPieces indent fold page rest

def plain (page : Page) (indent : Nat) (fold isRoot : Bool) (text : List Char) : Page :=
  let page := { page with openEnded := page.openEnded || isRoot }
  if text.isEmpty then page
  else
    let page := if page.blank then page else page.put [' ']
    plainPieces indent fold page.within (pieces text)

/-- The pieces of a single quoted scalar. A run of breaks gets one more, since reading folds it. -/
def singlePieces (indent : Nat) (fold : Bool) (first : Bool) : Page → List (List Char) → Page
  | page, [] => page
  | page, piece :: rest =>
    let page :=
      if piece.head?.any isTextBreak then
        let page := if piece.head? == some '\n' then page.lineBreak '\n' else page
        (piece.foldl lineBreak page).toIndent indent
      else if piece == [' '] && fold && !first && !rest.isEmpty && width < page.column then
        page.toIndent indent
      else page.put (piece.flatMap fun c => if c == '\'' then ['\'', '\''] else [c])
    singlePieces indent fold false page rest

def single (page : Page) (indent : Nat) (fold : Bool) (text : List Char) : Page :=
  (singlePieces indent fold true (page.mark ['\''] true false false) (pieces text)).mark
    ['\''] false false false

/-- The characters of a double quoted scalar. `run` holds those not yet written, in reverse, and
`position` counts the characters before this one. A line is broken before a space, or after an
escape, once it is too wide. -/
def doubleChars (indent : Nat) (fold : Bool) (length : Nat) :
    Nat → List Char → Page → List Char → Page
  | _, run, page, [] => page.put run.reverse
  | position, run, page, c :: rest =>
    let escaped := escape? c
    let page := match escaped with
      | some chars => (page.put run.reverse).put chars
      | none => page
    let run := if escaped.isSome then [] else run
    let breaks := 0 < position && position + 1 < length && fold &&
      (c == ' ' || run.isEmpty) &&
      (if escaped.isSome then width + 1 else width) < page.column + run.length
    if breaks then
      let page := ((page.put (run.reverse ++ ['\\'])).toIndent indent).within
      let next := if escaped.isSome then rest.head? else some c
      let page := if next == some ' ' then page.put ['\\'] else page
      doubleChars indent fold length (position + 1) (if escaped.isSome then [] else [c]) page rest
    else
      let run := if escaped.isSome then [] else c :: run
      doubleChars indent fold length (position + 1) run page rest

def double (page : Page) (indent : Nat) (fold : Bool) (text : List Char) : Page :=
  (doubleChars indent fold text.length 0 [] (page.mark ['"'] true false false) text).mark
    ['"'] false false false

end Page

end PageRuntime.Yaml
