import PageRuntime.Json.Reader
import PageRuntime.Store

/-! Values of JSON documents, made in the store. Of members with one name the last counts, at the
place of the first. -/
namespace PageRuntime.Json

mutual

def Document.load : Document → Store → Value × Store
  | .null, s => (.null, s)
  | .bool truth, s => (.bool truth, s)
  | .int number, s => (.int number, s)
  | .float number, s => (.float number, s)
  | .str text, s => (.str text, s)
  | .array items, s =>
    let (values, s) := loadItems items s
    s.newList values
  | .object members, s =>
    let (dict, s) := loadMembers members [] s
    s.newDict dict

def loadItems : List Document → Store → List Value × Store
  | [], s => ([], s)
  | item :: rest, s =>
    let (value, s) := item.load s
    let (values, s) := loadItems rest s
    (value :: values, s)

def loadMembers : List (String × Document) → Dict → Store → Dict × Store
  | [], dict, s => (dict, s)
  | (name, member) :: rest, dict, s =>
    let (value, s) := member.load s
    loadMembers rest (dict.put name value) s

end

def load (text : String) (store : Store) : Except Fault (Value × Store) :=
  match read? text with
  | some document => .ok (document.load store)
  | none => .error (.format .json)

end PageRuntime.Json
