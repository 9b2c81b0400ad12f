import PageRuntime.Value.Shown

/-! Faults that host code raises, given by the name of their class and the values they are made
from. A class that no fault of the library has is that of a general fault. -/
namespace PageRuntime

def FaultClass.all : List FaultClass :=
  [.type, .value, .key, .member, .position, .overflow, .recursion, .runtime]

def FaultClass.ofName? (name : String) : Option FaultClass := all.find? (·.name == name)

namespace Fault

/-- The text of a fault that is made from nothing, from one value, or from several. -/
def textOf (s : Store) : List Value → String
  | [] => ""
  | [v] => s.display v
  | values => "(" ++ ", ".intercalate (values.map s.shown) ++ ")"

def ofClass (s : Store) (name : String) (values : List Value) : Fault :=
  let shown (place : Nat) : String := s.shown (values[place]?.getD .null)
  let display (place : Nat) : String := s.display (values[place]?.getD .null)
  match name with
  | "InvalidRoot" => .invalidRoot (display 0)
  | "InvalidCaret" => .invalidCaret (shown 0)
  | "InvalidHandlerPath" => .invalidHandlerPath (shown 0)
  | "ModuleNotFound" => .unknownModule (display 0) (display 1)
  | "InvalidMethod" => .invalidMethod (shown 0)
  | "InvalidURL" =>
    .invalidUrl (shown 0) (if s.isTrue (values[1]?.getD .null) then display 1 else "")
  | "BadFetchParams" => .fetchParams (display 0) (s.typeName (values[1]?.getD .null))
  | "BadStatus" => .badStatus (display 0) (display 1)
  | "NoBlobToExtend" => .noBlob (display 0)
  | "MalformedAction" => .malformedAction (display 1) (shown 0)
  | "UnhandledEvent" => .unhandledEvent (display 0)
  | "HandlerExecutionError" => .handlerFailed (display 0)
  | name =>
    match FaultClass.ofName? name with
    | some fault => .host fault (textOf s values)
    | none => .general (textOf s values)

end Fault
end PageRuntime
