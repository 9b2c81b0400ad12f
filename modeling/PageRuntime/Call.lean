import PageRuntime.Handler

/-! Calls from outside a page. Making a call checks its path and arguments and may fail at once; an
awaited call never fails, and a failure of its handler is delivered and becomes part of the
result. -/
namespace PageRuntime

/-- A made call with what its report says if its handler fails. -/
structure Call where
  pending : Pending
  message : String
  path : String
  trail : Option Address

inductive CallResult
  | success (value : Value)
  | error (report : Address)

namespace Call

variable {η : Type}

/-- A call for its effects, or for data alone if it is pure. -/
def start (host : Host η) (path arguments : Value) (trail : Option Address) (isPure : Bool) :
    Run η Call := do
  let pending ← Gateway.start host path arguments trail isPure
  let written := (← Step.read).runtime.store.display path
  let what := if isPure then "Error calling data handler " else "Error calling handler "
  return ⟨pending, what ++ written, written, trail⟩

def await (host : Host η) (fuel : Nat) (call : Call) : Run η CallResult := do
  match ← Step.attempt (Handler.settle host fuel call.pending) with
  | .ok v => return .success v
  | .error failure => do
    let report ← Report.make ⟨call.message, some failure, call.trail, some call.path, none⟩
    Report.deliver host report
    return .error report

end Call
end PageRuntime
