import PageRuntime.Host
import PageRuntime.Journal

/-! Error reports reach the host's receiver, or the journal if there is none or if the receiver
fails. -/
namespace PageRuntime
namespace Report

variable {η : Type}

def make (report : Report) : Act Address := Act.make (·.newReport report)

def logReport (report : Address) : Act Unit := Journal.log [.str "Hibiki Error |", .report report]

def deliver (host : Host η) (report : Address) : Run η Unit := do
  match host.report with
  | none => logReport report
  | some receive =>
    match ← Step.attempt (receive report) with
    | .ok () => return ()
    | .error failure => do
      logReport report
      Journal.logFailure "ERROR in error callback:" failure

/-- A report of a message alone, with the trail it belongs to. -/
def deliverMessage (host : Host η) (message : String) (trail : Option Address) : Run η Unit := do
  deliver host (← make ⟨message, none, trail, none, none⟩)

end Report
end PageRuntime
