import PageRuntime.Number.Shortest
import PageRuntime.Store
import PageRuntime.Yaml.Page

/-! Values written as block style text. Containers that are met more than once get an anchor where
they are first written and an alias everywhere else, so cycles can be written too. -/
namespace PageRuntime.Yaml

/-- The plain text and tag of a scalar. -/
def scalarText? : Value → Option (Tag × String)
  | .null => some (.null, "null")
  | .bool true => some (.bool, "true")
  | .bool false => some (.bool, "false")
  | .int i => some (.int, String.ofList (intChars i))
  | .float x =>
    if x.isNaN then some (.float, ".nan")
    else if x.isInfinite then some (.float, if x.isNegative then "-.inf" else ".inf")
    else
      let text := x.text.toList
      let mantissa := text.takeWhile (· != 'e')
      some (.float, String.ofList (
        if mantissa.contains '.' || mantissa.length == text.length then text
        else mantissa ++ '.' :: '0' :: text.dropWhile (· != 'e')))
  | .str text => some (.text, text)
  | _ => none

/-- The length of the short form of a scalar's tag, which counts towards the length of a key. -/
def tagLength : Tag → Nat
  | .null | .bool => 6
  | .float => 7
  | _ => 5

/-- The values below a container, keys included. -/
def parts? (s : Store) : Value → Option (List Value)
  | .list a => some (s.listAt a)
  | .tuple a => some (s.tupleAt a)
  | .dict a => some ((s.dictAt a).flatMap fun slot => [slot.label, slot.value])
  | _ => none

/-- Containers met once and met again, in the order of meeting. -/
structure Meetings where
  once : List Value
  again : List Value

/-- Whether every value below can be written, and which containers are met again. -/
def meet (s : Store) : Nat → Value → Meetings → Option Meetings
  | 0, _, _ => none
  | fuel + 1, v, m =>
    if (scalarText? v).isSome then some m
    else
      match parts? s v with
      | none => none
      | some parts =>
        let isEmptyTuple := match v with
          | .tuple _ => parts.isEmpty
          | _ => false
        if isEmptyTuple then some m
        else if m.once.contains v then
          some (if m.again.contains v then m else { m with again := m.again ++ [v] })
        else parts.foldlM (fun m part => meet s fuel part m) { m with once := v :: m.once }

def anchorText (shared : List Value) (v : Value) : List Char :=
  let digits := Nat.toDigits 10 (shared.idxOf v + 1)
  'i' :: 'd' :: (List.replicate (3 - digits.length) '0' ++ digits)

/-- The page written so far and the shared containers already on it. -/
structure Writing where
  page : Page
  written : List Value

/-- Where a node stands: as the document, in a sequence, in a mapping, or as a key on one line. -/
inductive Place
  | document
  | item
  | member
  | key
deriving DecidableEq

def Writing.change (w : Writing) (f : Page → Page) : Writing := { w with page := f w.page }

def writeScalar (indent : Nat) (place : Place) (tag : Tag) (text : String) (page : Page) : Page :=
  let chars := text.toList
  let isKey := place == .key
  match chooseStyle isKey (resolve chars == tag) chars with
  | .plain => page.plain indent (!isKey) (place == .document) chars
  | .single => page.single indent (!isKey) chars
  | .double => page.double indent (!isKey) chars

/-- Whether a key fits on one line before its colon. -/
def isSimpleKey (s : Store) (shared : List Value) (v : Value) : Bool :=
  let anchorLength := if shared.contains v then (anchorText shared v).length else 0
  match scalarText? v with
  | some (tag, text) =>
    let chars := text.toList
    tagLength tag + chars.length < 128 && !chars.isEmpty && !(obstacles chars).multiline
  | none => anchorLength < 128 && (parts? s v).all List.isEmpty

/-- Writes a node. `indent` is the indentation of what stands around it. -/
def writeNode (s : Store) (shared : List Value) :
    Nat → Option Nat → Place → Value → Writing → Writing
  | 0, _, _, _, w => w
  | fuel + 1, indent, place, v, w =>
    let deeper := indent.elim 2 (· + 2)
    match scalarText? v with
    | some (tag, text) => w.change (writeScalar deeper place tag text)
    | none =>
      if shared.contains v && w.written.contains v then
        w.change (·.mark ('*' :: anchorText shared v) true false false)
      else
        let w := if shared.contains v then
            { page := w.page.mark ('&' :: anchorText shared v) true false false
              written := v :: w.written }
          else w
        let flow (openMark closeMark : Char) : Writing :=
          w.change fun page =>
            (page.mark [openMark] true true false).mark [closeMark] false false false
        let items (values : List Value) : Writing :=
          if values.isEmpty then flow '[' ']'
          else
            let inner := match indent with
              | none => 0
              | some n => if place == .member && !w.page.fresh then n else n + 2
            values.foldl (fun w item =>
              writeNode s shared fuel (some inner) .item item
                (w.change fun page => (page.toIndent inner).mark ['-'] true false true)) w
        match v with
        | .list a => items (s.listAt a)
        | .tuple a => items (s.tupleAt a)
        | .dict a =>
          let slots := s.dictAt a
          if slots.isEmpty then flow '\x7b' '\x7d'
          else
            let inner := indent.elim 0 (· + 2)
            slots.foldl (fun w slot =>
              let w := w.change (·.toIndent inner)
              if isSimpleKey s shared slot.label then
                let w := writeNode s shared fuel (some inner) .key slot.label w
                writeNode s shared fuel (some inner) .member slot.value
                  (w.change (·.mark [':'] false false false))
              else
                let w := writeNode s shared fuel (some inner) .member slot.label
                  (w.change (·.mark ['?'] true false true))
                writeNode s shared fuel (some inner) .member slot.value
                  (w.change fun page => (page.toIndent inner).mark [':'] true false true)) w
        | _ => w

/-- The text of a value. A document that is a plain scalar alone is closed by three points. -/
def write (s : Store) (v : Value) : Except Fault String :=
  let fuel := s.size + 2
  match meet s fuel v ⟨[], []⟩ with
  | none => .error (.format .unrepresentable)
  | some m =>
    let page := (writeNode s m.again fuel none .document v ⟨.empty, []⟩).page
    let ended := page.toIndent 0
    .ok (if page.openEnded then ((ended.mark "...".toList true false false).toIndent 0).text
      else ended.text)

end PageRuntime.Yaml
