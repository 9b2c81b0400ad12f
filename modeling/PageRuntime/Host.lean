import PageRuntime.HandlerPath
import PageRuntime.Runtime

/-! What surrounds a runtime: the callbacks of mounted queries, the modules that others register,
the receiver of error reports, the markup parser, the HTTP client and the clock. Each is a step over
the runtime and the host's own state, since what the host runs may use the runtime again. -/
namespace PageRuntime

/-- A runtime beside the state of its host. -/
structure World (η : Type) where
  runtime : Runtime
  host : η

/-- Steps of the runtime and its host together. -/
abbrev Run (η : Type) := Step (World η)

namespace Run

variable {η α : Type}

def ofAct (act : Act α) : Run η α := fun world =>
  let (outcome, runtime) := act world.runtime
  (outcome, { world with runtime })

instance : MonadLift Act (Run η) := ⟨ofAct⟩

end Run

/-- One call of a handler module. `data` is a list; a pure call asks for a value and no effect. -/
structure Request where
  path : HandlerPath
  data : Value
  trail : Option Address
  isPure : Bool

/-- A request on its way to the HTTP client, with its header and query fields. -/
structure HttpRequest where
  method : String
  url : String
  headers : Dict
  query : Dict
  content : Value
  timeout : Number.Binary64
  followRedirects : Bool

structure HttpResponse where
  status : Int
  content : List UInt8
  headers : Dict

/-- `accept` is what a module does before its answer is awaited. The CSRF step gives header fields
to send or null, and `adjust` may change the outgoing record of a fetch in place. -/
structure Host (η : Type) where
  refresh : Nat → Run η Unit
  accept : Nat → Request → Run η Unit
  answer : Nat → Request → Run η Value
  report : Option (Address → Run η Unit)
  postInit : Nat → Run η Unit
  parseMarkup : Option (String → Run η Address)
  csrfHeaders : Run η Value
  adjust : String → Value → Run η Unit
  send : HttpRequest → Run η HttpResponse
  pause : Number.Binary64 → Run η Unit

end PageRuntime
