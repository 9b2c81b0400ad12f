import PageRuntime.Json.Quoted

/-! Paths name locations in the state tree: a root, such as the page state or a registered extension
root, and the accessors that lead from it. Here is what a path is and how it is written. -/
namespace PageRuntime

/-- One accessor: a field of a mapping or a place in a sequence. -/
inductive Segment
  | field (name : String)
  | index (place : Int)
deriving DecidableEq

/-- What a path starts from. `named` roots are the extension roots. -/
inductive RootKind
  | global
  | state
  | localData
  | null
  | context
  | currentContext
  | localStack
  | contextStack
  | component
  | named (name : String)
deriving DecidableEq

/-- A root and how many scopes up it is taken from. -/
structure Root where
  kind : RootKind
  caret : Nat
deriving DecidableEq

structure Path where
  root : Root
  segments : List Segment
deriving DecidableEq

namespace RootKind

def name : RootKind → String
  | global => "global"
  | state => "state"
  | localData => "local"
  | null => "null"
  | context => "context"
  | currentContext => "currentcontext"
  | localStack => "localstack"
  | contextStack => "contextstack"
  | component => "component"
  | named name => name

/-- The word for the kind itself, which extension roots share. -/
def category : RootKind → String
  | named _ => "named"
  | kind => kind.name

def aliases : List (String × RootKind) := [
  ("", global), ("data", global), ("global", global), ("state", state), ("local", localData),
  ("null", null), ("context", context), ("currentcontext", currentContext),
  ("localstack", localStack), ("contextstack", contextStack), ("c", component),
  ("component", component)]

def ofName (name : String) : RootKind := (aliases.lookup name).getD (named name)

/-- The name under which the root lives among the data roots, if it is one of them. -/
def dataRoot? : RootKind → Option String
  | global => some "global"
  | state => some "state"
  | named name => some name
  | _ => none

/-- Roots that are computed and so cannot be written. -/
def isComputed : RootKind → Bool
  | null | localStack | contextStack => true
  | _ => false

end RootKind

namespace Root

def ofName (name : String) (caret : Nat) : Root := ⟨RootKind.ofName name, caret⟩

def chars (root : Root) : List Char :=
  '$' :: (List.replicate root.caret '^' ++ root.kind.name.toList)

def text (root : Root) : String := String.ofList root.chars

end Root

def isFieldStart (c : Char) : Bool :=
  ('a' ≤ c && c ≤ 'z') || ('A' ≤ c && c ≤ 'Z') || ('0' ≤ c && c ≤ '9') || c == '_'

def isFieldChar (c : Char) : Bool := isFieldStart c || c == '-'

/-- Names that need no quotes after a point. -/
def isPlainField : List Char → Bool
  | [] => false
  | c :: rest => isFieldStart c && rest.all isFieldChar

def intChars (i : Int) : List Char :=
  if i < 0 then '-' :: Nat.toDigits 10 i.natAbs else Nat.toDigits 10 i.natAbs

namespace Segment

def chars : Segment → List Char
  | index place => '[' :: (intChars place ++ [']'])
  | field name =>
    if isPlainField name.toList then '.' :: name.toList
    else '[' :: (Json.quoteChars .plain name.toList ++ [']'])

/-- A segment as the key of a context binding. -/
def bindingName : Segment → String
  | index place => String.ofList (intChars place)
  | field name => name

end Segment

namespace Path

def chars (path : Path) : List Char := path.root.chars ++ path.segments.flatMap Segment.chars

def text (path : Path) : String := String.ofList path.chars

end Path

end PageRuntime
