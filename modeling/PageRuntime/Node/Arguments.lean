import PageRuntime.Named
import PageRuntime.Unicode.Classes

/-! Argument declarations such as `*first, second`: names between commas, each with a star if the
argument may be written to. Whatever is no such name is passed over. -/
namespace PageRuntime.Node
open Unicode

def isArgumentStart (c : Char) : Bool := 'a' ≤ c && c ≤ 'z'

def isArgumentChar (c : Char) : Bool := isArgumentStart c || isAsciiDigit c || c == '_'

def readArgument? (text : List Char) : Option (String × Bool) :=
  let (writable, name) := match text with
    | '*' :: rest => (true, rest)
    | rest => (false, rest)
  match name with
  | c :: rest =>
    if isArgumentStart c && rest.all isArgumentChar then some (String.ofList name, writable)
    else none
  | [] => none

/-- Declared names in order, and whether each may be written to. -/
def readArguments (declaration : String) : Named Bool :=
  Named.ofList <| (declaration.splitOn ",").filterMap fun field =>
    readArgument? (trimBlank field.toList)

end PageRuntime.Node
