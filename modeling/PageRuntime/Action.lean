import PageRuntime.Runtime
import PageRuntime.Text.Base64
import PageRuntime.Unicode.Case
import PageRuntime.Value.Shown

/-! Actions: records that ask for one change each, brought to one form. What a record lacks, or
holds of the wrong kind, makes it malformed. -/
namespace PageRuntime
open Unicode

inductive ActionKind
  | setData
  | blob
  | extendBlob
  | invalidate
  | html
deriving DecidableEq

namespace ActionKind

def name : ActionKind → String
  | setData => "setdata"
  | blob => "blob"
  | extendBlob => "blobext"
  | invalidate => "invalidate"
  | html => "html"

def aliases : Named ActionKind := [
  ("setdata", setData), ("assign", setData), ("blob", blob), ("blobext", extendBlob),
  ("blob-extend", extendBlob), ("invalidate", invalidate), ("html", html),
  ("replace-document", html)]

def ofName? (name : String) : Option ActionKind := aliases.lookup (lower name)

/-- Kinds that can build the value of a batch. -/
def canReturn : ActionKind → Bool
  | setData | blob | extendBlob => true
  | invalidate | html => false

end ActionKind

structure Action where
  kind : ActionKind
  selector : Option String
  data : Value
  setop : Value
  mediaType : Value
  base64 : Value

namespace Action

/-- The selector of the value that a batch of actions returns. -/
def returnSelector : String := "@rtn"

def setops : List String := ["set", "setunless", "append", "prepend", "merge", "delete"]

/-- The first of two fields that a record has. -/
def either (d : Dict) (name other : String) : Value := (d.field? name).getD (d.field other)

def writtenKind (d : Dict) : Value := either d "type" "kind"

def kindOf? (s : Store) (written : Value) : Option ActionKind :=
  if written == .null then none else ActionKind.ofName? (s.display written)

/-- Only setting data looks at the setop; one that cannot be looked up is a misuse. -/
def checkSetop (s : Store) (malformed : String → Fault) (kind : ActionKind) (setop : Value) :
    Except Fault Unit :=
  if kind != .setData then .ok ()
  else
    match s.key? setop with
    | none => .error (.misuse .type ("unhashable type: '" ++ s.typeName setop ++ "'"))
    | some key =>
      if setops.any fun name => key == .text name then .ok ()
      else .error (malformed ("unknown setop " ++ s.shown setop))

def ofDict (s : Store) (record : Value) (d : Dict) : Except Fault Action := do
  let malformed (reason : String) : Fault := .malformedAction reason (s.shown record)
  let written := writtenKind d
  match kindOf? s written with
  | none => .error (malformed ("unknown action type " ++ s.shown written))
  | some kind =>
    let selector ← match either d "selector" "path" with
      | .null => .ok none
      | .str text => .ok (some text)
      | _ => .error (malformed "selector must be a string")
    let given := d.field "setop"
    let setop := if s.isTrue given then given else .str "set"
    let isSetData := kind == .setData
    if kind.canReturn && (selector.getD "").isEmpty then .error (malformed "missing selector")
    else
      checkSetop s malformed kind setop
      if isSetData && setop != .str "delete" && !d.has (.text "data") then
        .error (malformed "missing data")
      else if kind == .html && d.field "data" == .null then
        .error (malformed "missing document data")
      else if kind == .blob && !s.isTrue (d.field "mimetype") then
        .error (malformed "missing mimetype")
      else
        .ok ⟨kind, selector, d.field "data", setop, d.field "mimetype", d.field "blobbase64"⟩

def ofRecord (s : Store) (record : Value) : Except Fault Action :=
  match s.mapping? record with
  | some d => ofDict s record d
  | none => .error (.malformedAction "action must be a mapping" (s.shown record))

def text (action : Action) : String :=
  "Action<" ++ action.kind.name ++ " " ++
    (action.selector.map Text.quote).getD "None" ++ ">"

/-- The action as a record in its one form, from which it can be read again. -/
def entries (action : Action) : Dict :=
  [("kind", .str action.kind.name), ("selector", Value.ofText? action.selector),
    ("data", action.data), ("setop", action.setop), ("mimetype", action.mediaType),
    ("blobbase64", action.base64)].foldl (fun d (name, v) => Dict.put d name v) []

/-- The list of actions that the answer of a handler or module carries, if it carries one. -/
def listIn? (s : Store) (answer : Value) : Option Value := do
  let d ← s.mapping? answer
  let isList : Value → Bool
    | .list _ => true
    | _ => false
  [d.field "actions", d.field "hibikiactions"].find? isList

end Action

namespace Blob

/-- Base64 text as octets; emptiness of any kind stands for none. -/
def octetsOf (s : Store) (v : Value) : Except Fault (List UInt8) :=
  if !s.isTrue v then .ok []
  else
    match v with
    | .str text => decoded text
    | .bytes data => decoded (String.ofList (data.map fun b => Char.ofNat b.toNat))
    | v => .error (.misuse .type ("argument should be a bytes-like object or ASCII string, not '" ++
        s.typeName v ++ "'"))
where
  decoded (text : String) : Except Fault (List UInt8) :=
    match Text.Base64.decode? text with
    | some data => .ok data
    | none => .error (.format .base64)

def make (mediaType base64 : Value) : Act Value := do
  let data ← Act.ofExcept (octetsOf (← Act.store) base64)
  Act.make (·.newBlob ⟨mediaType, data⟩)

/-- Adds octets at the end of a blob in place. -/
def extend (a : Address) (base64 : Value) : Act Unit := do
  let more ← Act.ofExcept (octetsOf (← Act.store) base64)
  Act.update fun s => let blob := s.blobAt a; s.putBlob a { blob with data := blob.data ++ more }

end Blob

end PageRuntime
