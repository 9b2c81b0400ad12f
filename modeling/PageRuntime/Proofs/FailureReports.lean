import PageRuntime.Page
import PageRuntime.Proofs.Dispatch
import PageRuntime.Proofs.HostSteps

/-! Failures of handlers and the reports on them. A handler that fails is reported: the error handler
found from its scope takes the report, or the receiver is given it, once, and after it a second one if
the error handler has failed as well. Beyond these the receiver is given what `error` events carry
that nobody handles. -/
namespace PageRuntime

variable {η α : Type}

/-- The failure that is raised on is the one that came, or names it as its cause. -/
def Failed.RaisesOn (failed : Failed) : Prop :=
  failed.told = failed.failure ∨ (failed.store.failureAt failed.told).cause = some failed.failure

/-- The failure is written into the report that tells of it. -/
def Failed.IsReported (failed : Failed) : Prop :=
  (failed.store.reportAt failed.told).failure = some failed.failure

/-- The error handler found from the scope of a failed handler has been started, with the report bound
as `@error`. -/
structure Dispatched (start : Start) (failed : Failed) (other : Start) : Prop where
  event : other.event = Event.ofReport failed.told
  claimed : (Event.ofReport failed.told).handlerScope? failed.store start.running = some other.bound
  raising : other.raising = true
  binds : other.store.contextKey other.running (.text "error") = .report failed.told

namespace Account

mutual

/-- No failure of a handler is lost, and none is told twice. -/
inductive Fair : Account → Prop
  | nil : Fair .nil
  | unhandled {event : Event} {report : Address} {content : Report} {rest : Account}
      (error : event.name = "error") (carries : event.data.field "error" ≠ .null)
      (later : Fair rest) : Fair (.unhandled event report content rest)
  | completed {start : Start} {inner rest : Account} (plain : start.raising = false)
      (within : Fair inner) (later : Fair rest) : Fair (.completed start inner rest)
  | reported {start : Start} {inner aftermath rest : Account} {failed : Failed}
      (plain : start.raising = false) (within : Fair inner) (reported : failed.IsReported)
      (answers : Answers start failed aftermath) (later : Fair rest) :
      Fair (.reported start inner failed aftermath rest)

/-- What comes of the failure of a handler. -/
inductive Answers : Start → Failed → Account → Prop
  | nobody {start : Start} {failed : Failed}
      (nobody : (Event.ofReport failed.told).handlerScope? failed.store start.running = none) :
      Answers start failed (.delivered failed.told (failed.store.reportAt failed.told) .nil)
  | handled {start other : Start} {failed : Failed} {inner : Account}
      (dispatched : Dispatched start failed other) (within : Fair inner) :
      Answers start failed (.completed other inner .nil)
  | failed {start other : Start} {failed again : Failed} {inner : Account} {content last : Report}
      {second : Address} (dispatched : Dispatched start failed other) (within : Fair inner)
      (raises : again.RaisesOn) (message : last.message = "Error in error handler")
      (failure : last.failure = some again.told) :
      Answers start failed (.raised other inner again
        (.delivered failed.told content (.delivered second last .nil)))

end

theorem Fair.append {account more : Account} (fair : account.Fair) (after : more.Fair) :
    (account ++ more).Fair := by
  induction account with
  | nil => exact after
  | delivered => cases fair
  | raised => cases fair
  | unhandled event report content rest ih =>
    cases fair with
    | unhandled error carries later => exact .unhandled error carries (ih later)
  | completed start inner rest _ ih =>
    cases fair with
    | completed plain within later => exact .completed plain within (ih later)
  | reported start inner failed aftermath rest _ _ ih =>
    cases fair with
    | reported plain within reported answers later =>
      exact .reported plain within reported answers (ih later)

end Account

namespace Told

theorem entering_binds (w : World η) (bound : Address) (handler : Handler) (report : Address) :
    (entering w bound handler (Event.ofReport report)).runtime.store.contextKey
      w.runtime.store.scopes.size (.text "error") = .report report := by
  let s := (entering w bound handler (Event.ofReport report)).runtime.store
  have size : s.scopes.size = w.runtime.store.scopes.size + 1 := w.runtime.store.scopes.size_push _
  have scope : (s.scopeAt w.runtime.store.scopes.size).specials = w.runtime.store.dicts.size :=
    congrArg Scope.specials (w.runtime.store.scopes.getD_push_self _ _)
  have specials : s.dictAt w.runtime.store.dicts.size = Dict.put [] "error" (.report report) :=
    w.runtime.store.dicts.getD_push_self _ _
  refine Store.contextKey_own (by rw [size]; exact Nat.lt_succ_self _) ?_
  rw [Store.specialsOf,scope,specials]
  rfl

theorem wrapped_raisesOn {label : String} {trail failure outer : Address} {w after : World η}
    (wraps : (Handler.wrapped label trail failure : Run η Address) w = (.done outer,after)) :
    (⟨failure,outer,after.runtime.store⟩ : Failed).RaisesOn := by
  obtain ⟨wraps,-⟩ := Run.of_ofAct wraps
  rw [Handler.wrapped,Step.bind_done (Act.store_run w.runtime)] at wraps
  have made (f : Failure) (cause : f.cause = some failure)
      (wraps : Act.make (·.newFailure f) w.runtime = (.done outer,after.runtime)) :
      (⟨failure,outer,after.runtime.store⟩ : Failed).RaisesOn := by
    obtain ⟨ended,left⟩ := Prod.mk.inj wraps
    cases ended
    rw [← left]
    have stored := w.runtime.store.failures.getD_push_self f ⟨.general "",none,none⟩
    exact .inr ((congrArg Failure.cause stored).trans cause)
  cases fault : (w.runtime.store.failureAt failure).fault with
  | handlerFailed text =>
    rw [fault] at wraps
    cases (Prod.mk.inj wraps).1
    exact .inl rfl
  | _ =>
    rw [fault] at wraps
    exact made _ rfl wraps

/-- The account is fair, whatever the worlds before and after it. -/
def FairAccount (_ _ : World η) (account : Account) : Prop := account.Fair

theorem allows_fair (host : Host η) : Allows host FairAccount where
  append := .append
  act _ _ := .nil
  start _ _ _ _ _ := .nil
  answer _ _ _ := .nil
  perform _ _ := .nil
  invalidate _ _ := .nil
  process _ _ _ := .nil

theorem unhandled_fair (host : Host η) (event : Event) (trail : Address) :
    Leaves FairAccount (unhandled host event trail) := by
  refine .unhandled (allows_fair host) event trail fun error carries report w ending after account
    ran _ => ?_
  rw [deliver_run] at ran
  obtain ⟨-,rfl⟩ := Prod.mk.inj ran
  exact .unhandled error carries .nil

section Fired

variable {host : Host η} {fuel : Nat}

theorem dispatching_claims (w : World η) (report : Address) (event : Event) (scope : Address) :
    event.handlerScope? (dispatching w report).runtime.store scope =
      event.handlerScope? w.runtime.store scope :=
  have scopes : (dispatching w report).runtime.store.scopes = w.runtime.store.scopes := rfl
  event.handlerScope?_eq scopes scope

/-- What comes of a report is an answer to the failure that it tells of. -/
theorem settled_answers {scope : Address} {failed : Failed} {start : Start} {w after : World η}
    {aftermath : Account}
    (fires : ∀ k, k < fuel → ∀ scope event trail,
      Leaves FairAccount (fire host k scope event trail false))
    (running : start.running = scope) (store : failed.store = w.runtime.store)
    (settled : Settled host fuel scope failed.told w after aftermath) :
    Account.Answers start failed aftermath := by
  subst running
  have dispatched {bound : Address} {handler : Handler}
      (claimed : (Event.ofReport failed.told).handlerScope? w.runtime.store start.running =
        some bound) : Dispatched start failed
        (startOf (dispatching w failed.told) bound handler (Event.ofReport failed.told) true) :=
    ⟨rfl,by rw [store]; exact claimed,rfl,entering_binds (dispatching w failed.told) bound handler _⟩
  cases settled with
  | nobody nobody delivers =>
    rw [← store] at nobody ⊢
    exact .nobody nobody
  | handled claimed ran =>
    -- The error handler is looked up once more when the event is fired; the same one is found.
    cases fuel with
    | zero => cases ran
    | succ fuel =>
      have inner := blocks (allows_fair host) fuel fun k earlier =>
        fires k (Nat.lt_succ_of_lt earlier)
      cases fire_told ran nofun with
      | nobody nobody _ => cases nobody.symm.trans ((dispatching_claims ..).trans claimed)
      | completed found _ began =>
        rw [dispatching_claims] at found
        exact .handled (dispatched found) (inner.runHandler _ _ _ _ _ _ _ _ began nofun)
  | failed claimed ran delivers explains =>
    cases fuel with
    | zero => cases ran
    | succ fuel =>
      have inner := blocks (allows_fair host) fuel fun k earlier =>
        fires k (Nat.lt_succ_of_lt earlier)
      cases fire_told ran nofun with
      | raised found _ began wraps =>
        rw [dispatching_claims] at found
        exact .failed (dispatched found) (inner.runHandler _ _ _ _ _ _ _ _ began nofun)
          (wrapped_raisesOn wraps) rfl rfl

/-- Whatever handlers do that an event starts, no failure is lost or told twice. -/
theorem fire_fair (host : Host η) : ∀ fuel scope event trail,
    Leaves FairAccount (fire host fuel scope event trail false) := by
  intro fuel
  -- The block of a handler nests one deeper than its dispatch, the error handler two deeper.
  induction fuel using Nat.strong_induction_on with
  | h fuel ih =>
    intro scope event trail w ending after account ran finished
    cases fuel with
    | zero => cases ran; exact absurd rfl finished
    | succ fuel =>
      have inner := blocks (allows_fair host) fuel fun k earlier => ih k (Nat.lt_succ_of_lt earlier)
      cases fire_told ran finished with
      | nobody _ told => exact unhandled_fair host event trail w _ after account told nofun
      | completed _ _ began =>
        exact .completed rfl (inner.runHandler _ _ _ _ _ _ _ _ began nofun) .nil
      | reported _ _ began settles =>
        have within := inner.runHandler _ _ _ _ _ _ _ _ began nofun
        cases fuel with
        | zero => cases settles
        | succ fuel =>
          obtain ⟨-,settled⟩ := reportFailure_told settles nofun
          exact .reported rfl within (reporting_carries ..) (settled_answers
            (fun k earlier => ih k (Nat.lt_succ_of_lt (Nat.lt_succ_of_lt earlier))) rfl rfl settled) .nil

end Fired

end Told

/-- The host notes which reports its receiver is given, even where the receiver fails, and nothing
else that it does is noted. -/
structure Host.Notes (host : Host η) (noted : η → List Address) : Prop where
  receives : ∃ receive, host.report = some receive ∧
    ∀ report w, noted (receive report w).2.host = noted w.host ++ [report]
  keeps : host.Keeps (Step.Same fun w : World η => noted w.host)

namespace Told

/-- What is noted between the worlds is what the account delivers. -/
def Noted (noted : η → List Address) (w after : World η) (account : Account) : Prop :=
  noted after.host = noted w.host ++ account.deliveries

section Noted

variable {host : Host η} {noted : η → List Address} (notes : host.Notes noted)
include notes

theorem noted_deliver (report : Address) (w : World η) :
    noted (Report.deliver host report w).2.host = noted w.host ++ [report] := by
  obtain ⟨receive,given,receives⟩ := notes.receives
  have received := receives report w
  unfold Report.deliver
  rw [given]
  dsimp only
  rw [Step.bind_run]
  unfold Step.attempt
  cases ran : receive report w with
  | mk ending after =>
    rw [ran] at received
    cases ending with
    | done _ => exact received
    | exhausted => exact received
    | raised failure =>
      have act (step : Act Unit) := notes.keeps.act step
      have logged := Step.Keeps.bind (act (Report.logReport report))
        fun _ => act (Journal.logFailure "ERROR in error callback:" failure)
      exact (logged after).trans received

theorem allows_noted : Allows host (Noted noted) := by
  have silent {α : Type} {run : Run η α}
      (keeps : Step.Keeps (Step.Same fun w : World η => noted w.host) run) :
      Silent (Noted noted) run := fun w => (keeps w).trans (List.append_nil _).symm
  have keeps := notes.keeps.untraced
  refine ⟨fun first rest => ?_,fun act => silent (notes.keeps.act act),
    fun _ _ _ _ => silent (keeps.start _ _ _ _),fun _ _ => silent (keeps.answer _ _),
    fun _ => silent (keeps.perform _),fun _ => silent (keeps.invalidatePattern _),
    fun _ _ => silent (keeps.process _ _)⟩
  unfold Noted
  rw [rest,first,Account.deliveries_append,List.append_assoc]

theorem noted_unhandled (event : Event) (trail : Address) :
    Leaves (Noted noted) (unhandled host event trail) := by
  refine .unhandled (allows_noted notes) event trail fun _ _ report w ending after account ran _ => ?_
  rw [deliver_run] at ran
  obtain ⟨ended,rfl⟩ := Prod.mk.inj ran
  have received := noted_deliver notes report w
  rwa [ended] at received

theorem noted_settled {fuel : Nat} {scope report : Address} {w after : World η} {account : Account}
    (fires : ∀ k, k < fuel + 1 → ∀ scope event trail raising,
      Leaves (Noted noted) (fire host k scope event trail raising))
    (settled : Settled host fuel scope report w after account) : Noted noted w after account := by
  cases settled with
  | nobody _ delivers =>
    have received := noted_deliver notes report w
    rwa [delivers] at received
  | @handled _ _ v _ _ ran =>
    exact fires fuel fuel.lt_succ_self _ _ _ true (dispatching w report) (.done v) _ _ ran nofun
  | @failed mid between _ _ outer account _ ran delivers explains =>
    have fired : Noted noted w mid account :=
      fires fuel fuel.lt_succ_self _ _ _ true (dispatching w report) (.raised outer) _ _ ran nofun
    have received := noted_deliver notes report mid
    have again := noted_deliver notes between.runtime.store.reports.size (explaining between outer)
    rw [delivers] at received
    rw [explains] at again
    unfold Noted at fired ⊢
    rw [again,Account.deliveries_append]
    show noted between.host ++ [_] = _
    rw [received,fired,List.append_assoc,List.append_assoc]
    rfl

theorem fire_noted : ∀ fuel scope event trail raising,
    Leaves (Noted noted) (fire host fuel scope event trail raising) := by
  have allows := allows_noted notes
  intro fuel
  induction fuel using Nat.strong_induction_on with
  | h fuel ih =>
    intro scope event trail raising w ending after account ran finished
    cases fuel with
    | zero => cases ran; exact absurd rfl finished
    | succ fuel =>
      have inner := blocks allows fuel fun k earlier scope event trail =>
        ih k (Nat.lt_succ_of_lt earlier) scope event trail false
      cases fire_told ran finished with
      | nobody _ told => exact noted_unhandled notes event trail w _ after account told nofun
      | completed _ _ began =>
        have within := inner.runHandler _ _ _ _ _ _ _ _ began nofun
        unfold Noted at within ⊢
        rw [within]
        exact congrArg (_ ++ ·) (List.append_nil _).symm
      | raised _ _ began wraps =>
        have within := inner.runHandler _ _ _ _ _ _ _ _ began nofun
        unfold Noted at within ⊢
        rw [(Run.of_ofAct wraps).2,within]
        exact congrArg (_ ++ ·) (List.append_nil _).symm
      | reported _ _ began settles =>
        have within := inner.runHandler _ _ _ _ _ _ _ _ began nofun
        cases fuel with
        | zero => cases settles
        | succ fuel =>
          obtain ⟨-,settled⟩ := reportFailure_told settles nofun
          have told := noted_settled notes
            (fun k earlier => ih k (Nat.lt_succ_of_lt earlier)) settled
          unfold Noted at within told ⊢
          rw [told]
          show noted _ ++ _ = noted w.host ++ (_ ++ (_ ++ []))
          rw [List.append_nil,← List.append_assoc]
          exact congrArg (· ++ _) within

end Noted

end Told

namespace Handler

end Handler

/-- A page with one scope below its root, a soft boundary that binds these handlers. -/
def Page.binding (handlers : Named Handler) : World (List Address) where
  runtime := ((do
    let root ← Scope.makeRoot
    let _ ← Scope.makeChild root .null [] { ScopeOptions.plain with handlers, boundary := .soft }
    Trail.make [] : Act Address) Page.initial).2
  host := []

/-- A host whose receiver keeps a list of the reports that it is given. -/
def Host.listing : Host (List Address) :=
  { Host.idle with
    report := some fun report => Step.modify fun w => { w with host := w.host ++ [report] } }

theorem Host.listing_notes : listing.Notes id where
  receives := ⟨_,rfl,fun _ _ => rfl⟩
  keeps :=
    { act := fun _ _ => rfl
      refresh := fun _ _ => rfl
      accept := fun _ _ _ => rfl
      answer := fun _ _ _ => rfl
      parseMarkup := fun _ given => by cases given
      csrfHeaders := fun _ => rfl
      adjust := fun _ _ _ => rfl
      send := fun _ _ => rfl
      pause := fun _ _ => rfl }

namespace Handler

/-- The handler of `go` fails. The error handler fires the report that it was given once more, where
nobody handles it, and then fails itself. -/
def rethrowing : World (List Address) :=
  Page.binding [("go",⟨"- set: 1",none,false⟩),
    ("error",⟨"- fire: error\n  data:\n    error:\n      expr: \"@error\"\n- set: 1",none,true⟩)]

end Handler
end PageRuntime
