import PageRuntime.Proofs.FailureReports

/-! Failures inside error handlers. If an error handler fails that was started to take a report, its
failure is delivered at once. If an `error` event of a block or of the host has started it, or if the
failure is that of a handler started inside it, an error handler is looked for once more. -/
namespace PageRuntime

variable {η : Type}

def Start.handlesError (start : Start) : Bool := start.event.name == "error"

/-- The failure of a handler and what was done because of it. -/
structure Failing where
  start : Start
  failed : Failed
  consequence : Account

namespace Account

/-- The handlers that were started, but not those that they have started in turn. -/
def starts : Account → List Start
  | nil => []
  | delivered _ _ rest => rest.starts
  | unhandled _ _ _ rest => rest.starts
  | completed start _ rest => start :: rest.starts
  | raised start _ _ rest => start :: rest.starts
  | reported start _ _ _ rest => start :: rest.starts

/-- The reports that were delivered because a handler has failed, as they were then. -/
def contents : Account → List Report
  | nil => []
  | delivered _ content rest => content :: rest.contents
  | unhandled _ _ _ rest => rest.contents
  | completed _ _ rest => rest.contents
  | raised _ _ _ rest => rest.contents
  | reported _ _ _ _ rest => rest.contents

/-- The failures of error handlers and of all handlers that ran inside one. -/
def failings (inside : Bool) : Account → List Failing
  | nil => []
  | delivered _ _ rest => rest.failings inside
  | unhandled _ _ _ rest => rest.failings inside
  | completed start inner rest =>
    inner.failings (inside || start.handlesError) ++ rest.failings inside
  | raised start inner failed rest =>
    inner.failings (inside || start.handlesError) ++
      ((if inside || start.handlesError then [⟨start,failed,rest⟩] else []) ++ rest.failings inside)
  | reported start inner failed aftermath rest =>
    inner.failings (inside || start.handlesError) ++
      ((if inside || start.handlesError then [⟨start,failed,aftermath⟩] else []) ++
        (aftermath.failings inside ++ rest.failings inside))

end Account

namespace Failing

/-- No handler is started because of the failure, and the receiver is told of it. -/
def GoesStraight (failing : Failing) : Prop :=
  failing.consequence.starts = [] ∧ ∃ content ∈ failing.consequence.contents,
    content.failure = some failing.failed.failure ∨ content.failure = some failing.failed.told

/-- No error handler is found from the scope in which the handler ran. -/
def Unclaimed (failing : Failing) : Prop :=
  (Event.ofReport failing.failed.told).handlerScope? failing.failed.store failing.start.running = none

/-- The one error handler that is found has been started, and nothing else. -/
def Dispatches (failing : Failing) : Prop :=
  ∃ other, failing.consequence.starts = [other] ∧ Dispatched failing.start failing.failed other

/-- Either way is taken exactly where it should be. -/
structure Known (failing : Failing) : Prop where
  straight : failing.GoesStraight ↔ failing.start.raising = true ∨ failing.Unclaimed
  otherwise : ¬ failing.GoesStraight → failing.Dispatches

theorem Known.of_straight {failing : Failing} (straight : failing.GoesStraight)
    (reason : failing.start.raising = true ∨ failing.Unclaimed) : failing.Known :=
  ⟨iff_of_true straight reason,fun other => absurd straight other⟩

theorem Known.of_dispatches {failing : Failing} (plain : failing.start.raising = false)
    (dispatches : failing.Dispatches) : failing.Known := by
  obtain ⟨other,starts,dispatched⟩ := dispatches
  have crooked : ¬ failing.GoesStraight := fun straight => nomatch starts.symm.trans straight.1
  have reasonless : ¬ (failing.start.raising = true ∨ failing.Unclaimed) := by
    rintro (raising | unclaimed)
    · exact nomatch raising.symm.trans plain
    · exact nomatch unclaimed.symm.trans dispatched.claimed
  exact ⟨iff_of_false crooked reasonless,fun _ => ⟨other,starts,dispatched⟩⟩

/-- What comes of a failure that is not raised on. -/
theorem Known.of_answers {start : Start} {failed : Failed} {aftermath : Account}
    (plain : start.raising = false) (reported : failed.IsReported)
    (answers : Account.Answers start failed aftermath) : Known ⟨start,failed,aftermath⟩ := by
  cases answers with
  | nobody nobody =>
    exact .of_straight ⟨rfl,_,List.mem_cons_self ..,.inl reported⟩ (.inr nobody)
  | handled dispatched _ => exact .of_dispatches plain ⟨_,rfl,dispatched⟩
  | failed dispatched _ _ _ _ => exact .of_dispatches plain ⟨_,rfl,dispatched⟩

end Failing

namespace Account

/-- The failures in and of a handler, with what followed them. -/
theorem forall_failings {P : Failing → Prop} {within : List Failing} {failing : Failing}
    {inside : Bool} {after : List Failing} (inner : ∀ f ∈ within, P f) (own : P failing)
    (later : ∀ f ∈ after, P f) :
    ∀ f ∈ within ++ ((if inside then [failing] else []) ++ after), P f := by
  intro f member
  rcases List.mem_append.mp member with member | member
  · exact inner f member
  · rcases List.mem_append.mp member with member | member
    · split at member
      · obtain rfl := List.mem_singleton.mp member
        exact own
      · cases member
    · exact later f member

theorem forall_append {P : Failing → Prop} {first rest : List Failing} (before : ∀ f ∈ first, P f)
    (later : ∀ f ∈ rest, P f) : ∀ f ∈ first ++ rest, P f :=
  List.forall_mem_append.mpr ⟨before,later⟩

mutual

theorem Fair.known {account : Account} (fair : account.Fair) :
    ∀ inside, ∀ failing ∈ account.failings inside, failing.Known := by
  intro inside
  match fair with
  | .nil => exact nofun
  | .unhandled _ _ later => exact later.known inside
  | .completed _ within later => exact forall_append (within.known _) (later.known inside)
  | .reported plain within tells answers later =>
    exact forall_failings (within.known _) (.of_answers plain tells answers)
      (forall_append (answers.known inside) (later.known inside))

theorem Answers.known {start : Start} {failed : Failed} {account : Account}
    (answers : Answers start failed account) :
    ∀ inside, ∀ failing ∈ account.failings inside, failing.Known := by
  intro inside
  match answers with
  | .nobody _ => exact nofun
  | .handled _ within => exact forall_append (within.known _) nofun
  | .failed dispatched within raises _ failure =>
    refine forall_failings (within.known _) (.of_straight ⟨rfl,_,?_,.inr failure⟩ ?_) nofun
    · exact List.mem_cons_of_mem _ (List.mem_cons_self ..)
    · exact .inl dispatched.raising

end

end Account

namespace Handler

/-- The only handler is an error handler that fails. -/
def relapsing : World (List Address) := Page.binding [("error",⟨"- set: 1",none,false⟩)]

end Handler
end PageRuntime
