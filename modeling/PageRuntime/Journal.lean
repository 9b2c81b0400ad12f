import PageRuntime.Runtime
import PageRuntime.Value.Summary

/-! The journal: one entry for each log call, its parts joined by spaces. While debugging is on, a
debug line follows each entry. -/
namespace PageRuntime
namespace Journal

/-- Texts are logged as they are, other values by their summary. -/
def partText (s : Store) : Value → String
  | .str text => text
  | v => s.summary v

def write (text : String) : Act Unit := do
  Act.record (.log text)
  debugLine text

def log (parts : List Value) : Act Unit := do
  let s ← Act.store
  write (" ".intercalate (parts.map (partText s)))

/-- A text followed by a failure, as failures that are passed over are logged. -/
def logFailure (text : String) (failure : Address) : Act Unit := log [.str text, .failure failure]

end Journal
end PageRuntime
