import PageRuntime.ErrorReport
import PageRuntime.Scope

/-! Events and the scope that handles one: the nearest boundary with a handler for it. A boundary
without one lets bubbling events pass and stops all others. -/
namespace PageRuntime

structure Event where
  name : String
  data : Dict
  bubble : Bool

namespace Event

/-- Names of a namespace of their own, such as `x-open`. -/
def isNamespaced (name : String) : Bool :=
  match name.toList with
  | 'x' :: c :: _ => c == '-' || c == ':' || c == '.'
  | _ => false

def bubbles (event : Event) : Bool :=
  event.bubble && event.name != "load" && !isNamespaced event.name

/-- The handling scope on a chain of scopes. -/
def handlerOn? (s : Store) (event : Event) : List Address → Option Address
  | [] => none
  | scope :: above =>
    if s.stops scope event.name then
      if (s.handlerOf? scope event.name).isSome then some scope
      else if event.bubbles then handlerOn? s event above
      else none
    else handlerOn? s event above

def handlerScope? (s : Store) (scope : Address) (event : Event) : Option Address :=
  handlerOn? s event (s.chain scope)

/-- An event that carries a report or failure is an error nobody handled: it is delivered. Any other
is logged. -/
def unhandled {η : Type} (host : Host η) (event : Event) (trail : Address) : Run η Unit := do
  let s := (← Step.read).runtime.store
  let carried := if event.name == "error" then event.data.field "error" else .null
  match carried with
  | .null => Journal.write (Fault.unhandledEvent event.name).message
  | .report report => Report.deliver host report
  | .failure failure => do
    Report.deliver host
      (← Report.make ⟨s.display carried, some failure, some trail, none, none⟩)
  | v => do
    Report.deliver host (← Report.make ⟨s.display v, none, some trail, none, none⟩)

end Event
end PageRuntime
