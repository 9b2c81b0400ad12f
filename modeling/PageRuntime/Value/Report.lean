import PageRuntime.Unicode.Classes
import PageRuntime.Value.Shown

/-! The text of a failure report: its message, the failure and its cause, the trail of frames with
the innermost first, and the handler block. -/
namespace PageRuntime
namespace Store

/-- Frames from the innermost out, one a line. -/
def trailLines (frames : List String) : String :=
  "\n".intercalate (frames.reverse.map ("  " ++ ·))

def failureLine (s : Store) (a : Address) : String :=
  let fault := (s.failureAt a).fault
  fault.className ++ ": " ++ fault.message

def reportLines (s : Store) (report : Report) : List String :=
  let failure := match report.failure with
    | none => []
    | some a => s.failureLine a ::
      ((s.failureAt a).cause.map fun cause => "caused by " ++ s.failureLine cause).toList
  let frames := (report.trail.map s.trailAt).getD []
  let block := report.block.getD ""
  report.message :: failure ++
    (if frames.isEmpty then [] else ["Runtime context:\n" ++ trailLines frames]) ++
    (if block.isEmpty then []
      else ["Block: " ++ String.ofList (Unicode.trimBlank block.toList)])

def reportFormat (s : Store) (report : Report) : String := "\n".intercalate (s.reportLines report)

end Store
end PageRuntime
