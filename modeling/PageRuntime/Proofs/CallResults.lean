import PageRuntime.Page
import PageRuntime.Proofs.Fuel
import PageRuntime.Proofs.HarmlessHosts

/-! What comes of a call. Making it fails at once or gives a call that was checked, and either way
all that was there is as it was, nothing is logged and nobody is told. Awaiting it never fails: it
has the value of the answer, or one report is made of the failure and delivered. -/
namespace PageRuntime

variable {η γ α : Type}

/-- Objects may have come, no report among them, and the host may have gone on unseen; all else is
as it was. What is seen of a host may be the requests it has sent, or the reports it was given. -/
structure World.Untouched (seen : η → γ) (w after : World η) : Prop extends
    Runtime.Made w.runtime after.runtime where
  unseen : seen after.host = seen w.host

instance (seen : η → γ) : Std.Refl (World.Untouched seen) :=
  ⟨fun w => ⟨Std.Refl.refl w.runtime,rfl⟩⟩

instance (seen : η → γ) :
    Trans (World.Untouched seen) (World.Untouched seen) (World.Untouched seen) :=
  ⟨fun first second =>
    ⟨Trans.trans first.toMade second.toMade,second.unseen.trans first.unseen⟩⟩

/-- What can be told of a world from outside: its journal, how many reports it has made, and what is
seen of its host. -/
def World.told (seen : η → γ) (w : World η) : Array Entry × Nat × γ :=
  (w.runtime.journal,w.runtime.store.sizeOf .report,seen w.host)

theorem World.Untouched.told {seen : η → γ} {w after : World η}
    (untouched : w.Untouched seen after) : after.told seen = w.told seen := by
  rw [World.told,untouched.journal,untouched.reports,untouched.unseen]
  rfl

theorem World.Grew.untouched {seen : η → γ} {w after : World η} (grew : w.Grew after)
    (told : after.told seen = w.told seen) : w.Untouched seen after := by
  obtain ⟨journal,told⟩ := Prod.mk.inj told
  obtain ⟨reports,unseen⟩ := Prod.mk.inj told
  exact ⟨⟨grew,journal,reports⟩,unseen⟩

namespace Host

/-- The hooks around a fetch end and only make objects, but that one may adjust the outgoing record
in place. -/
structure HooksAside (host : Host η) (seen : η → γ) : Prop where
  csrfHeaders : Step.Concludes (World.Untouched seen) host.csrfHeaders
  adjust : ∀ url init, Step.Concludes
    (fun w after => Fetch.Adjusted init w after ∧ after.told seen = w.told seen)
    (host.adjust url init)

/-- Nothing that the module does happens before its answer is awaited. -/
def Defers (host : Host η) (token : Nat) : Prop := ∀ request, host.accept token request = return ()

/-- The receiver of reports ends, whether it fails or not. -/
def Receives (host : Host η) : Prop :=
  ∀ receive, host.report = some receive → ∀ report w, (receive report w).1 ≠ .exhausted

end Host

section Making

variable {host : Host η} {seen : η → γ}

theorem Act.OnlyMakes.untouched {act : Act α} (only : act.OnlyMakes) :
    Step.Concludes (World.Untouched seen) (act : Run η α) :=
  fun w => ⟨(only w.runtime).1,(only w.runtime).2,rfl⟩

theorem Act.OnlyMakes.tells {act : Act α} (only : act.OnlyMakes) :
    Step.Concludes (Step.Same (World.told seen)) (act : Run η α) :=
  fun w => ⟨(only w.runtime).1,(only.untouched w : _ ∧ w.Untouched seen _).2.told⟩

theorem Fetch.putEntries_tells (target : Value) (change : Dict → Dict) :
    Step.Concludes (Step.Same (World.told seen)) (Fetch.putEntries target change : Run η Unit) := by
  unfold Fetch.putEntries
  split
  · exact fun w => ⟨Step.done_ends (),rfl⟩
  · exact .pure ()

variable (hooks : host.HooksAside seen)
include hooks

theorem Fetch.plan_untouched (request : Request) :
    Step.Concludes (World.Untouched seen) (plan host request) := by
  have grew : Step.Keeps World.Grew (plan host request) :=
    plan_composes Step.Keeps.composes World.Grew.of_makes (outgoing_grew
      (hooks.csrfHeaders.keeps.imp fun _ _ untouched => untouched.toGrew)
      (fun url init => (hooks.adjust url init).keeps.imp fun _ _ adjusted => adjusted.1)) request
  have told : Step.Concludes (Step.Same (World.told seen)) (plan host request) :=
    plan_composes Step.Concludes.composes Act.OnlyMakes.tells
      (outgoing_composes Step.Concludes.composes Act.OnlyMakes.tells
        (adjust_composes Step.Concludes.composes Act.OnlyMakes.tells putEntries_tells
          (fun w => ⟨(hooks.csrfHeaders w).1,(hooks.csrfHeaders w).2.told⟩)
          fun url init w => ⟨(hooks.adjust url init w).1,(hooks.adjust url init w).2.2⟩)) request
  exact fun w => ⟨(told w).1,(grew w).untouched (told w).2⟩

/-- A call is made, or fails at once, and either way leaves all that was there as it was. -/
theorem Gateway.start_untouched (path arguments : Value) (trail : Option Address) (isPure : Bool)
    {w : World η} (defers : ∀ found token, readPath w.runtime.store path = .ok found →
      w.runtime.modules.lookup found.namespace_ = some (.custom token) → host.Defers token) :
    (start host path arguments trail isPure w).1 ≠ .exhausted ∧
      w.Untouched seen (start host path arguments trail isPure w).2 := by
  obtain ⟨fault,refused⟩ | ⟨found,module_,reads,routes,same⟩ :=
    start_cases host path arguments trail isPure w
  · rw [refused]
    exact (Act.OnlyMakes.fail fault).untouched w
  · rw [same]
    refine serve_composes Step.Concludes.composes Act.OnlyMakes.untouched
      (fun token custom request => ?_) (Fetch.plan_untouched hooks) found arguments trail isPure w
    rw [defers found token reads (custom ▸ routes) request]
    exact .pure ()

end Making

section Awaiting

variable {host : Host η}

theorem Journal.log_done (parts : List Value) (r : Runtime) :
    ∃ after, Journal.log parts r = (.done (),after) := by
  obtain ⟨entries,ran⟩ := debugLine_run (" ".intercalate (parts.map (partText r.store)))
    { r with journal := r.journal.push (.log (" ".intercalate (parts.map (partText r.store)))) }
  exact ⟨_,ran⟩

/-- A report is delivered whatever the receiver does with it. -/
theorem Report.deliver_done (receives : host.Receives) (report : Address) (w : World η) :
    ∃ after, deliver host report w = (.done (),after) := by
  unfold deliver
  cases given : host.report with
  | none =>
    obtain ⟨after,logged⟩ := Journal.log_done [.str "Hibiki Error |",.report report] w.runtime
    exact ⟨_,Run.ofAct_run logged⟩
  | some receive =>
    have ends := receives receive given report w
    cases received : receive report w with
    | mk ending mid =>
      rw [received] at ends
      cases ending with
      | done _ => exact ⟨mid,Step.bind_done (Step.attempt_done received)⟩
      | raised failure =>
        obtain ⟨between,reported⟩ : ∃ between, logReport report mid.runtime = (.done (),between) :=
          Journal.log_done [.str "Hibiki Error |",.report report] mid.runtime
        obtain ⟨after,logged⟩ :=
          Journal.log_done [.str "ERROR in error callback:",.failure failure] between
        refine ⟨{ mid with runtime := after },?_⟩
        dsimp only
        rw [Step.bind_done (Step.attempt_raised received)]
        dsimp only
        rw [Step.bind_done (Run.ofAct_run reported)]
        exact Run.ofAct_run logged
      | exhausted => exact absurd rfl ends

namespace Call

/-- The report of a failure that a call has come to. -/
def reportOf (call : Call) (failure : Address) : Report :=
  ⟨call.message,some failure,call.trail,some call.path,none⟩

/-- The world with that report made. -/
def reporting (call : Call) (failure : Address) (w : World η) : World η :=
  { w with runtime.store := (w.runtime.store.newReport (call.reportOf failure)).2 }

/-- How awaiting a call ends. It has the value that the module answered, or that of the batch which
the module answered with; or one report is made of the failure and delivered. It goes on for as long
as the answer and its batch do. -/
inductive Ends (host : Host η) (fuel : Nat) (call : Call) (w : World η) :
    Outcome CallResult → World η → Prop
  | value {answer : Value} {after : World η}
      (answers : Handler.answerOf host fuel call.pending w = (.done answer,after))
      (plain : Action.listIn? after.runtime.store answer = none) :
      Ends host fuel call w (.done (.success answer)) after
  | batch {answer actions v : Value} {mid after : World η}
      (answers : Handler.answerOf host fuel call.pending w = (.done answer,mid))
      (asks : Action.listIn? mid.runtime.store answer = some actions)
      (processed :
        ActionBatch.process host actions call.pending.request.isPure mid = (.done v,after)) :
      Ends host fuel call w (.done (.success v)) after
  | error {failure : Address} {mid after : World η}
      (fails : Handler.settle host (fuel + 1) call.pending w = (.raised failure,mid))
      (delivered : Report.deliver host mid.runtime.store.reports.size (call.reporting failure mid) =
        (.done (),after)) :
      Ends host fuel call w (.done (.error mid.runtime.store.reports.size)) after
  | running {after : World η}
      (goesOn : Handler.settle host (fuel + 1) call.pending w = (.exhausted,after)) :
      Ends host fuel call w .exhausted after

theorem await_ends (receives : host.Receives) (fuel : Nat) (call : Call) (w : World η) :
    Ends host fuel call w (await host (fuel + 1) call w).1 (await host (fuel + 1) call w).2 := by
  unfold await
  cases settles : Handler.settle host (fuel + 1) call.pending w with
  | mk ending mid =>
    cases ending with
    | done v =>
      rw [Step.bind_done (Step.attempt_done settles)]
      rw [Handler.settle_eq] at settles
      obtain ⟨answer,between,answers,settles⟩ := Step.done_of_bind settles
      rw [Handler.settleAnswer,Step.bind_done (Step.read_run between)] at settles
      cases asks : Action.listIn? between.runtime.store answer with
      | none =>
        rw [asks] at settles
        cases settles
        exact .value answers asks
      | some actions =>
        rw [asks] at settles
        exact .batch answers asks settles
    | raised failure =>
      obtain ⟨after,delivered⟩ := Report.deliver_done receives mid.runtime.store.reports.size
        (call.reporting failure mid)
      have made : (Report.make (call.reportOf failure) : Run η Address) mid =
          (.done mid.runtime.store.reports.size,call.reporting failure mid) := rfl
      have reported : await host (fuel + 1) call w =
          (.done (.error mid.runtime.store.reports.size),after) :=
        (Step.bind_done (Step.attempt_raised settles)).trans
          ((Step.bind_done made).trans (Step.bind_done delivered))
      rw [await] at reported
      rw [reported]
      exact .error settles delivered
    | exhausted =>
      rw [Step.bind_exhausted (Step.attempt_exhausted settles)]
      exact .running settles

end Call

end Awaiting

namespace Call

/-- A call by a path, with what its report will say. -/
def byPath (pending : Pending) (path : String) (trail : Option Address) (isPure : Bool) : Call :=
  let what := if isPure then "Error calling data handler " else "Error calling handler "
  ⟨pending,what ++ path,path,trail⟩

theorem start_done {host : Host η} {path arguments : Value} {trail : Option Address} {isPure : Bool}
    {w after : World η} {pending : Pending}
    (ran : Gateway.start host path arguments trail isPure w = (.done pending,after)) :
    ∃ text, path = .str text ∧
      start host path arguments trail isPure w = (.done (byPath pending text trail isPure),after) := by
  obtain ⟨found,_,_,reads,-,-,-⟩ := Gateway.start_checked ran
  cases path with
  | str text =>
    refine ⟨text,rfl,?_⟩
    rw [start,Step.bind_done ran,Step.bind_done (Step.read_run after)]
    rfl
  | _ => cases reads

/-- A host whose function fails, and whose receiver notes each report before it fails as well. -/
def failing : Host (List Address) :=
  { Host.idle with
    answer := fun _ _ => Act.fail (α := Value) (.general "missing")
    report := some fun report => do
      Step.modify fun w => { w with host := w.host ++ [report] }
      Act.fail (α := Unit) (.general "full") }

theorem failing_hooksAside : failing.HooksAside id where
  csrfHeaders := .pure _
  adjust _ _ _ := ⟨Step.done_ends (),⟨rfl,fun _ _ inside => ⟨inside,.inl rfl⟩⟩,rfl⟩

theorem failing_receives : failing.Receives := by
  intro receive given report w
  cases given
  exact Step.raised_ends _

def calling : World (List Address) where
  runtime := { Page.initial with modules := [("default",.custom 0)] }
  host := []

end Call
end PageRuntime
