import PageRuntime.Path.Reader

/-! Handler paths: a namespace that selects a module, a path within it, and an optional fragment,
written `/@namespace/segment/segment:fragment`. -/
namespace PageRuntime
open Unicode

structure HandlerPath where
  namespace_ : String
  path : String
  fragment : Option String
deriving DecidableEq

namespace HandlerPath

def defaultNamespace : String := "default"

def isPathChar (c : Char) : Bool := isNameChar c || c == '.' || c == '/' || c == '-'

/-- The fragment's text; `@` may stand before its first letter. -/
def spanFragment (text : List Char) : List Char × List Char :=
  let (mark, rest) := match text with
    | '@' :: rest => (['@'], rest)
    | rest => ([], rest)
  match rest with
  | c :: more =>
    if isAsciiLetter c then (mark ++ c :: more.takeWhile isFieldChar, more.dropWhile isFieldChar)
    else ([], text)
  | [] => ([], text)

/-- The path at the front of what follows the namespace, `/` if there is none. -/
def spanPath : List Char → List Char × List Char
  | '/' :: rest => ('/' :: rest.takeWhile isPathChar, rest.dropWhile isPathChar)
  | rest => (['/'], rest)

/-- One line break may end the text. -/
def atEnd : List Char → Bool
  | [] | ['\n'] => true
  | _ => false

/-- What follows the namespace: an optional path and an optional fragment. -/
def readTail? (namespace_ : String) (text : List Char) : Option HandlerPath :=
  let (path, rest) := spanPath text
  match rest with
  | ':' :: rest =>
    match spanFragment rest with
    | ([], _) => none
    | (fragment, rest) =>
      if atEnd rest then some ⟨namespace_, String.ofList path, some (String.ofList fragment)⟩
      else none
  | rest => if atEnd rest then some ⟨namespace_, String.ofList path, none⟩ else none

def read? (text : String) : Option HandlerPath :=
  match text.toList with
  | '/' :: '@' :: rest =>
    match spanName isNameChar rest with
    | ([], _) => none
    | (name, rest) => readTail? (String.ofList name) rest
  | '/' :: rest => readTail? defaultNamespace ('/' :: rest)
  | _ => none

def text (path : HandlerPath) : String :=
  "/@" ++ path.namespace_ ++ (if path.path == "/" then "" else path.path) ++
    match path.fragment with
    | some fragment => if fragment.isEmpty then "" else ":" ++ fragment
    | none => ""

end HandlerPath

end PageRuntime
