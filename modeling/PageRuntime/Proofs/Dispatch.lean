import PageRuntime.Proofs.Accounts
import PageRuntime.Proofs.FailedActions

/-! What one dispatch of an event can do, told step by step, and what an account of a whole run keeps
if each dispatch in it keeps it. -/
namespace PageRuntime

variable {η α β : Type}

/-- The scope that claims an event binds a handler for it. -/
theorem Event.handlerOn?_binds {s : Store} {event : Event} {bound : Address} :
    ∀ {chain : List Address}, event.handlerOn? s chain = some bound →
      ∃ handler, s.handlerOf? bound event.name = some handler := by
  intro chain claimed
  induction chain with
  | nil => cases claimed
  | cons scope above ih =>
    unfold handlerOn? at claimed
    split at claimed
    · split at claimed
      · next binds =>
        cases claimed
        exact Option.isSome_iff_exists.mp binds
      · split at claimed
        · exact ih claimed
        · cases claimed
    · exact ih claimed

/-- Which scope claims an event depends on the scopes alone. -/
theorem Event.handlerScope?_eq {s t : Store} (scopes : s.scopes = t.scopes) (event : Event)
    (scope : Address) : event.handlerScope? s scope = event.handlerScope? t scope := by
  have entry : s.scopeAt = t.scopeAt := funext fun a => by simp only [Store.scopeAt,scopes]
  have chain (fuel : Nat) : ∀ scope, s.chainWithin fuel scope = t.chainWithin fuel scope := by
    induction fuel with
    | zero => exact fun _ => rfl
    | succ fuel ih => exact fun scope => by simp only [Store.chainWithin,entry,ih]
  have handler : s.handlerOf? = t.handlerOf? := funext fun a => by
    unfold Store.handlerOf?
    rw [entry]
  have stops : s.stops = t.stops := funext fun a => by
    unfold Store.stops
    rw [entry,handler]
  unfold handlerScope? Store.chain
  rw [chain,scopes]
  induction t.chainWithin t.scopes.size scope with
  | nil => rfl
  | cons nearest above ih => simp only [handlerOn?,stops,handler,ih]

namespace Told

section Binds

variable {next : α → Told η β} {w mid : World η} {x : α} {account : Account}

theorem bind_act {act : Act α} (ran : act w.runtime = (.done x,mid.runtime))
    (host : mid.host = w.host) : (act >>= next : Told η β) w = next x mid := by
  show bind (ofRun (Run.ofAct act)) next w = _
  unfold bind ofRun Run.ofAct
  rw [ran]
  dsimp only
  rw [← host]
  rfl

theorem world_bind (next : World η → Told η β) (w : World η) : (world >>= next) w = next w w := rfl

theorem bind_done {step : Told η α} (ran : step w = ((.done x,mid),account)) :
    (step >>= next) w = ((next x mid).1,account ++ (next x mid).2) := by
  show bind step next w = _
  unfold bind
  rw [ran]

theorem bind_raised {step : Told η α} {failure : Address}
    (ran : step w = ((.raised failure,mid),account)) :
    (step >>= next) w = ((.raised failure,mid),account) := by
  show bind step next w = _
  unfold bind
  rw [ran]

theorem bind_exhausted {step : Told η α} (ran : step w = ((.exhausted,mid),account)) :
    (step >>= next) w = ((.exhausted,mid),account) := by
  show bind step next w = _
  unfold bind
  rw [ran]

/-- A sequence that ends has done its first part, or has raised in it. -/
theorem of_bind {step : Told η α} {ending : Outcome β} {after : World η}
    (ran : (step >>= next) w = ((ending,after),account)) (finished : ending ≠ .exhausted) :
    (∃ failure, step w = ((.raised failure,after),account) ∧ ending = .raised failure) ∨
      ∃ x mid first rest, step w = ((.done x,mid),first) ∧
        next x mid = ((ending,after),rest) ∧ account = first ++ rest := by
  cases began : step w with
  | mk ended first =>
    obtain ⟨result,mid⟩ := ended
    cases result with
    | done x =>
      rw [bind_done began] at ran
      obtain ⟨ends,rfl⟩ := Prod.mk.inj ran
      exact .inr ⟨x,mid,first,_,rfl,Prod.ext ends rfl,rfl⟩
    | raised failure =>
      rw [bind_raised began] at ran
      cases ran
      exact .inl ⟨failure,rfl,rfl⟩
    | exhausted =>
      rw [bind_exhausted began] at ran
      cases ran
      exact absurd rfl finished

variable {next : Except Address α × Account → Told η β} {step : Told η α}

theorem watch_done (ran : step w = ((.done x,mid),account)) :
    (watch step >>= next) w = next (.ok x,account) mid := by
  show bind (watch step) next w = _
  unfold bind watch
  rw [ran]
  rfl

theorem watch_raised {failure : Address} (ran : step w = ((.raised failure,mid),account)) :
    (watch step >>= next) w = next (.error failure,account) mid := by
  show bind (watch step) next w = _
  unfold bind watch
  rw [ran]
  rfl

theorem watch_exhausted (ran : step w = ((.exhausted,mid),account)) :
    (watch step >>= next) w = ((.exhausted,mid),.nil) := by
  show bind (watch step) next w = _
  unfold bind watch
  rw [ran]

end Binds

theorem deliver_run (host : Host η) (item : Address → Report → Account → Account)
    (report : Address) (w : World η) : deliver host item report w =
      (Report.deliver host report w,item report (w.runtime.store.reportAt report) .nil) := by
  show (_,item report _ .nil ++ .nil) = _
  rw [Account.append_nil]
  rfl

end Told

/-- However the step ends, it does not raise. -/
def Step.Quiet {σ : Type} (step : Step σ α) : Prop :=
  ∀ state failure after, step state ≠ (.raised failure,after)

namespace Step.Quiet

variable {σ : Type}

theorem of_done {step : Step σ α} (done : ∀ state, ∃ x, (step state).1 = .done x) :
    Quiet step := by
  intro state failure after ran
  obtain ⟨x,ended⟩ := done state
  rw [ran] at ended
  cases ended

theorem pure (x : α) : Quiet (Pure.pure x : Step σ α) := of_done fun _ => ⟨x,rfl⟩

theorem read : Quiet (Step.read : Step σ σ) := of_done fun w => ⟨w,rfl⟩

theorem modify (change : σ → σ) : Quiet (Step.modify change) := of_done fun _ => ⟨(),rfl⟩

theorem exhaust : Quiet (Step.exhaust : Step σ α) := by
  intro state failure after ran
  cases ran

theorem bind {step : Step σ α} {next : α → Step σ β} (quiet : Quiet step)
    (later : ∀ x, Quiet (next x)) : Quiet (step >>= next) := by
  intro state failure after ran
  obtain failed | ⟨x,mid,-,onwards⟩ := Step.raised_of_bind ran
  · exact quiet state failure after failed
  · exact later x mid failure after onwards

theorem attempt (step : Step σ α) : Quiet (Step.attempt step) := by
  intro state failure after ran
  unfold Step.attempt at ran
  split at ran <;> cases ran

theorem act {act : Act α} (quiet : Quiet act) : Quiet (act : Run η α) :=
  fun w failure after ran => quiet w.runtime failure after.runtime (Run.of_ofAct ran).1

theorem store : Quiet Act.store := of_done fun r => ⟨r.store,rfl⟩

theorem make (change : Store → α × Store) : Quiet (Act.make change) :=
  of_done fun r => ⟨(change r.store).1,rfl⟩

theorem write (text : String) : Quiet (Journal.write text) := by
  refine bind (modify _) fun _ => bind read fun r => ?_
  split
  · exact modify _
  · exact pure ()

theorem log (parts : List Value) : Quiet (Journal.log parts) := bind store fun _ => write _

theorem deliver (host : Host η) (report : Address) : Quiet (Report.deliver host report) := by
  unfold Report.deliver
  cases host.report with
  | none => exact act (log _)
  | some receive =>
    refine bind (attempt _) fun result => ?_
    cases result with
    | ok _ => exact pure ()
    | error failure => exact bind (act (log _)) fun _ => act (log _)

theorem unhandled (host : Host η) (event : Event) (trail : Address) :
    Quiet (event.unhandled host trail) := by
  refine bind read fun w => ?_
  dsimp only
  generalize (if event.name == "error" then event.data.field "error" else Value.null) = carried
  cases carried with
  | null => exact act (write _)
  | report report => exact deliver host report
  | _ => exact bind (act (make _)) fun _ => deliver host _

theorem reportFailure (host : Host η) (fuel : Nat) (scope report : Address) :
    Quiet (Handler.reportFailure host fuel scope report) := by
  cases fuel with
  | zero => exact exhaust
  | succ fuel =>
    unfold Handler.reportFailure
    refine bind read fun w => ?_
    dsimp only
    cases Event.handlerScope? w.runtime.store scope
      ⟨"error",Dict.put [] "error" (.report report),true⟩ with
    | none => exact deliver host report
    | some bound =>
      refine bind (act (make _)) fun trail => bind (attempt _) fun result => ?_
      cases result with
      | ok _ => exact pure ()
      | error failure =>
        exact bind (deliver host report) fun _ => bind read fun _ => bind (act (make _)) fun _ =>
          deliver host _

/-- A fired event never raises unless that is asked for. -/
theorem fire (host : Host η) (fuel : Nat) (scope : Address) (event : Event) (trail : Address) :
    Quiet (Handler.fire host fuel scope event trail false) := by
  cases fuel with
  | zero => exact exhaust
  | succ fuel =>
    unfold Handler.fire
    refine bind read fun w => ?_
    dsimp only
    cases event.handlerScope? w.runtime.store scope with
    | none => exact bind (unhandled host event trail) fun _ => pure _
    | some bound =>
      dsimp only
      cases w.runtime.store.handlerOf? bound event.name with
      | none => exact pure _
      | some handler =>
        refine bind (act (bind store fun _ => bind (make _) fun _ => make _)) fun running =>
          bind (attempt _) fun result => ?_
        cases result with
        | ok v => exact pure v
        | error failure =>
          exact bind (act (bind (bind store fun _ => pure _) fun _ => make _)) fun frames =>
            bind (act (make _)) fun report => bind (act (modify _)) fun _ =>
              bind (reportFailure host fuel _ _) fun _ => pure _

end Step.Quiet

namespace Told
open Handler (label)

/-- The world in which a handler starts, in a scope of its own that binds the data of the event. -/
def entering (w : World η) (bound : Address) (handler : Handler) (event : Event) : World η :=
  { w with runtime := (Scope.makeSpecialChild (w.runtime.store.handlerScope bound handler) event.data
    (.described ("event:" ++ event.name)) w.runtime).2 }

/-- How the handler that is bound on a scope starts. -/
def startOf (w : World η) (bound : Address) (handler : Handler) (event : Event) (raising : Bool) :
    Start :=
  ⟨event,bound,w.runtime.store.scopes.size,raising,(entering w bound handler event).runtime.store⟩

/-- The world once a failure is written into a report and the trail cut back to its length at the
start. -/
def reporting (w mid : World η) (bound : Address) (handler : Handler) (event : Event)
    (trail failure : Address) : World η :=
  { mid with runtime := ((do
      let frames ← Trail.copy trail
      let _ ← Report.make ⟨"Error running " ++ label w.runtime.store event bound,some failure,
        some frames,none,some handler.text⟩
      Trail.cut trail (w.runtime.store.trailAt trail).length : Act Unit) mid.runtime).2 }

theorem reporting_carries (w mid : World η) (bound : Address) (handler : Handler) (event : Event)
    (trail failure : Address) :
    ((reporting w mid bound handler event trail failure).runtime.store.reportAt
      mid.runtime.store.reports.size).failure = some failure := by
  have content : (reporting w mid bound handler event trail failure).runtime.store.reportAt
      mid.runtime.store.reports.size = ⟨"Error running " ++ label w.runtime.store event bound,
        some failure,some mid.runtime.store.trails.size,none,some handler.text⟩ :=
    mid.runtime.store.reports.getD_push_self _ _
  rw [content]

/-- All that the dispatch of an event can do, and what it tells. -/
inductive Fired (host : Host η) (fuel : Nat) (scope : Address) (event : Event) (trail : Address) :
    Bool → World η → Outcome Value → World η → Account → Prop
  | nobody {raising : Bool} {w after : World η} {account : Account}
      (nobody : event.handlerScope? w.runtime.store scope = none)
      (ran : Told.unhandled host event trail w = ((.done (),after),account)) :
      Fired host fuel scope event trail raising w (.done .null) after account
  | completed {raising : Bool} {w mid : World η} {bound : Address} {handler : Handler} {v : Value}
      {inner : Account} (claimed : event.handlerScope? w.runtime.store scope = some bound)
      (binds : w.runtime.store.handlerOf? bound event.name = some handler)
      (ran : runHandler host fuel w.runtime.store.scopes.size handler.text
        (label w.runtime.store event bound) trail (entering w bound handler event) =
          ((.done v,mid),inner)) :
      Fired host fuel scope event trail raising w (.done v) mid
        (.completed (startOf w bound handler event raising) inner .nil)
  | raised {w mid after : World η} {bound failure outer : Address} {handler : Handler}
      {inner : Account} (claimed : event.handlerScope? w.runtime.store scope = some bound)
      (binds : w.runtime.store.handlerOf? bound event.name = some handler)
      (ran : runHandler host fuel w.runtime.store.scopes.size handler.text
        (label w.runtime.store event bound) trail (entering w bound handler event) =
          ((.raised failure,mid),inner))
      (wraps : (Handler.wrapped (label w.runtime.store event bound) trail failure : Run η Address)
        mid = (.done outer,after)) :
      Fired host fuel scope event trail true w (.raised outer) after
        (.raised (startOf w bound handler event true) inner ⟨failure,outer,after.runtime.store⟩ .nil)
  | reported {w mid after : World η} {bound failure : Address} {handler : Handler}
      {inner aftermath : Account}
      (claimed : event.handlerScope? w.runtime.store scope = some bound)
      (binds : w.runtime.store.handlerOf? bound event.name = some handler)
      (ran : runHandler host fuel w.runtime.store.scopes.size handler.text
        (label w.runtime.store event bound) trail (entering w bound handler event) =
          ((.raised failure,mid),inner))
      (settles : reportFailure host fuel w.runtime.store.scopes.size mid.runtime.store.reports.size
        (reporting w mid bound handler event trail failure) = ((.done (),after),aftermath)) :
      Fired host fuel scope event trail false w (.done .null) after
        (.reported (startOf w bound handler event false) inner
          ⟨failure,mid.runtime.store.reports.size,
            (reporting w mid bound handler event trail failure).runtime.store⟩ aftermath .nil)

theorem wrapped_done (label : String) (trail failure : Address) (r : Runtime) :
    ∃ outer after, Handler.wrapped label trail failure r = (.done outer,after) := by
  rw [Handler.wrapped,Step.bind_done (Act.store_run r)]
  cases (r.store.failureAt failure).fault <;> exact ⟨_,_,rfl⟩

variable {host : Host η} {fuel : Nat} {scope : Address} {event : Event} {trail : Address}
  {raising : Bool} {w after : World η} {account : Account}

theorem unhandled_quiet {failure : Address} :
    unhandled host event trail w ≠ ((.raised failure,after),account) := by
  intro ran
  have plain := Erases.unhandled host event trail w
  rw [ran] at plain
  exact Step.Quiet.unhandled host event trail w failure after plain.symm

theorem reportFailure_quiet {scope report failure : Address} :
    reportFailure host fuel scope report w ≠ ((.raised failure,after),account) := by
  intro ran
  have plain := (faithful host fuel).reportFailure scope report w
  rw [ran] at plain
  exact Step.Quiet.reportFailure host fuel scope report w failure after plain.symm

theorem fire_told {ending : Outcome Value}
    (ran : fire host (fuel + 1) scope event trail raising w = ((ending,after),account))
    (finished : ending ≠ .exhausted) :
    Fired host fuel scope event trail raising w ending after account := by
  rw [fire,world_bind] at ran
  dsimp only at ran
  cases claimed : event.handlerScope? w.runtime.store scope with
  | none =>
    rw [claimed] at ran
    obtain ⟨failure,failed,rfl⟩ | ⟨_,mid,first,rest,told,ended,rfl⟩ := of_bind ran finished
    · exact absurd failed unhandled_quiet
    · cases ended
      rw [Account.append_nil]
      exact .nobody claimed told
  | some bound =>
    obtain ⟨handler,binds⟩ := Event.handlerOn?_binds claimed
    rw [claimed] at ran
    dsimp only at ran
    rw [binds] at ran
    dsimp only at ran
    have enters : Scope.makeSpecialChild (w.runtime.store.handlerScope bound handler) event.data
        (.described ("event:" ++ event.name)) w.runtime =
      (.done w.runtime.store.scopes.size,(entering w bound handler event).runtime) := rfl
    rw [bind_act enters rfl,world_bind] at ran
    cases began : runHandler host fuel w.runtime.store.scopes.size handler.text
        (label w.runtime.store event bound) trail (entering w bound handler event) with
    | mk ended inner =>
      obtain ⟨result,mid⟩ := ended
      cases result with
      | exhausted =>
        rw [watch_exhausted began] at ran
        cases ran
        exact absurd rfl finished
      | done v =>
        rw [watch_done began] at ran
        cases ran
        exact .completed claimed binds began
      | raised failure =>
        rw [watch_raised began] at ran
        cases raising with
        | true =>
          obtain ⟨outer,wrapped,wraps⟩ := wrapped_done (label w.runtime.store event bound) trail
            failure mid.runtime
          have ran : ((Handler.wrapped (label w.runtime.store event bound) trail failure :
              Told η Address) >>= fun outer => world >>= fun u => tell (.raised
                (startOf w bound handler event true) inner ⟨failure,outer,u.runtime.store⟩ .nil) >>=
                  fun _ => raise outer) mid = ((ending,after),account) := ran
          have wraps : (Handler.wrapped (label w.runtime.store event bound) trail failure) mid.runtime =
            (.done outer,({ mid with runtime := wrapped } : World η).runtime) := wraps
          rw [bind_act wraps rfl] at ran
          cases ran
          exact .raised claimed binds began (Run.ofAct_run wraps)
        | false =>
          let copied : World η := { mid with runtime := (Trail.copy trail mid.runtime).2 }
          have copies : Trail.copy trail mid.runtime =
            (.done mid.runtime.store.trails.size,copied.runtime) := rfl
          let content : Report := ⟨"Error running " ++ label w.runtime.store event bound,some failure,
            some mid.runtime.store.trails.size,none,some handler.text⟩
          let made : World η := { copied with runtime := (Report.make content copied.runtime).2 }
          have makes : Report.make content copied.runtime =
            (.done mid.runtime.store.reports.size,made.runtime) := rfl
          have cuts : Trail.cut trail (w.runtime.store.trailAt trail).length made.runtime =
            (.done (),(reporting w mid bound handler event trail failure).runtime) := rfl
          dsimp only at ran
          rw [if_neg nofun,bind_act copies rfl,bind_act makes rfl,bind_act cuts rfl,world_bind] at ran
          cases settles : reportFailure host fuel w.runtime.store.scopes.size
              mid.runtime.store.reports.size (reporting w mid bound handler event trail failure) with
          | mk ended aftermath =>
            obtain ⟨result,last⟩ := ended
            cases result with
            | exhausted =>
              rw [watch_exhausted settles] at ran
              cases ran
              exact absurd rfl finished
            | raised failure => exact absurd settles reportFailure_quiet
            | done _ =>
              rw [watch_done settles] at ran
              cases ran
              exact .reported claimed binds began settles

/-- The world in which a report is dispatched, on a trail of its own. -/
def dispatching (w : World η) (report : Address) : World η :=
  { w with runtime := (Trail.make
    (((w.runtime.store.reportAt report).trail.map w.runtime.store.trailAt).getD []) w.runtime).2 }

/-- What is reported of an error handler that has failed. -/
def errorInHandler (w : World η) (failure : Address) : Report :=
  ⟨"Error in error handler",some failure,(w.runtime.store.failureAt failure).trail,none,none⟩

def explaining (w : World η) (failure : Address) : World η :=
  { w with runtime := (Report.make (errorInHandler w failure) w.runtime).2 }

/-- All that can be done about a report, and what is told of it. -/
inductive Settled (host : Host η) (fuel : Nat) (scope report : Address) (w : World η) :
    World η → Account → Prop
  | nobody {after : World η}
      (nobody : (Event.ofReport report).handlerScope? w.runtime.store scope = none)
      (delivers : Report.deliver host report w = (.done (),after)) :
      Settled host fuel scope report w after
        (.delivered report (w.runtime.store.reportAt report) .nil)
  | handled {after : World η} {bound : Address} {v : Value} {account : Account}
      (claimed : (Event.ofReport report).handlerScope? w.runtime.store scope = some bound)
      (ran : fire host fuel scope (Event.ofReport report) w.runtime.store.trails.size true
        (dispatching w report) = ((.done v,after),account)) :
      Settled host fuel scope report w after account
  | failed {mid between after : World η} {bound outer : Address} {account : Account}
      (claimed : (Event.ofReport report).handlerScope? w.runtime.store scope = some bound)
      (ran : fire host fuel scope (Event.ofReport report) w.runtime.store.trails.size true
        (dispatching w report) = ((.raised outer,mid),account))
      (delivers : Report.deliver host report mid = (.done (),between))
      (explains : Report.deliver host between.runtime.store.reports.size
        (explaining between outer) = (.done (),after)) :
      Settled host fuel scope report w after (account ++
        .delivered report (mid.runtime.store.reportAt report)
          (.delivered between.runtime.store.reports.size (errorInHandler between outer) .nil))

theorem reportFailure_told {scope report : Address} {ending : Outcome Unit}
    (ran : reportFailure host (fuel + 1) scope report w = ((ending,after),account))
    (finished : ending ≠ .exhausted) :
    ending = .done () ∧ Settled host fuel scope report w after account := by
  have ends : ending = .done () := by
    cases ending with
    | done _ => rfl
    | raised failure => exact absurd ran reportFailure_quiet
    | exhausted => exact absurd rfl finished
  subst ends
  refine ⟨rfl,?_⟩
  rw [reportFailure,world_bind] at ran
  dsimp only at ran
  cases claimed : (Event.ofReport report).handlerScope? w.runtime.store scope with
  | none =>
    rw [claimed] at ran
    dsimp only at ran
    rw [deliver_run] at ran
    obtain ⟨delivers,rfl⟩ := Prod.mk.inj ran
    exact .nobody claimed delivers
  | some bound =>
    rw [claimed] at ran
    dsimp only at ran
    have makes : Trail.make
        (((w.runtime.store.reportAt report).trail.map w.runtime.store.trailAt).getD []) w.runtime =
      (.done w.runtime.store.trails.size,(dispatching w report).runtime) := rfl
    rw [bind_act makes rfl] at ran
    cases fired : fire host fuel scope (Event.ofReport report) w.runtime.store.trails.size true
        (dispatching w report) with
    | mk ended first =>
      obtain ⟨result,mid⟩ := ended
      cases result with
      | exhausted =>
        rw [watch_exhausted fired] at ran
        cases ran
      | done v =>
        rw [watch_done fired] at ran
        obtain ⟨ended,rfl⟩ := Prod.mk.inj ran
        cases ended
        show Settled host fuel scope report w after (first ++ .nil)
        rw [Account.append_nil]
        exact .handled claimed fired
      | raised outer =>
        rw [watch_raised fired] at ran
        have ran : (tell first >>= fun _ => deliver host .delivered report >>= fun _ => world >>=
            fun u => Report.make (errorInHandler u outer) >>= fun again =>
              deliver host .delivered again) mid = ((.done (),after),account) := ran
        obtain ⟨_,told,_⟩ | ⟨_,_,_,rest,told,onwards,rfl⟩ := of_bind ran finished
        · cases told
        · cases told
          obtain ⟨failure,failed,_⟩ | ⟨_,between,second,last,delivered,explained,rfl⟩ :=
            of_bind onwards finished
          · rw [deliver_run] at failed
            exact absurd (Prod.mk.inj failed).1 (Step.Quiet.deliver host report mid failure after)
          · rw [deliver_run] at delivered
            obtain ⟨delivers,rfl⟩ := Prod.mk.inj delivered
            have makes : Report.make (errorInHandler between outer) between.runtime =
              (.done between.runtime.store.reports.size,(explaining between outer).runtime) := rfl
            rw [world_bind,bind_act makes rfl,deliver_run] at explained
            obtain ⟨explains,rfl⟩ := Prod.mk.inj explained
            have content : (explaining between outer).runtime.store.reportAt
                between.runtime.store.reports.size = errorInHandler between outer :=
              between.runtime.store.reports.getD_push_self _ _
            rw [content]
            exact .failed claimed fired delivers explains

/-- The run has nothing to tell that the relation would not allow. -/
def Silent (R : World η → World η → Account → Prop) (run : Run η α) : Prop :=
  ∀ w, R w (run w).2 .nil

/-- The relation allows one account after another, and all that steps do beside the dispatch of
events. -/
structure Allows (host : Host η) (R : World η → World η → Account → Prop) : Prop where
  append : ∀ {w mid after first rest}, R w mid first → R mid after rest → R w after (first ++ rest)
  act : ∀ {α : Type} (act : Act α), Silent R (act : Run η α)
  start : ∀ path arguments trail isPure,
    Silent R (Gateway.start host path arguments trail isPure)
  answer : ∀ token request, Silent R (host.answer token request)
  perform : ∀ plan, Silent R (Fetch.perform host plan)
  invalidate : ∀ pattern, Silent R (Sweep.invalidatePattern host pattern)
  process : ∀ actions isPure, Silent R (ActionBatch.process host actions isPure)

/-- A telling step that ends leaves a world and an account that the relation allows. -/
def Leaves (R : World η → World η → Account → Prop) (step : Told η α) : Prop :=
  ∀ w ending after account, step w = ((ending,after),account) → ending ≠ .exhausted →
    R w after account

namespace Leaves

variable {R : World η → World η → Account → Prop}

theorem exhaust : Leaves R (Told.exhaust : Told η α) := by
  intro w ending after account ran finished
  cases ran
  exact absurd rfl finished

theorem ofRun {run : Run η α} (silent : Silent R run) : Leaves R (Told.ofRun run) := by
  intro w ending after account ran _
  obtain ⟨ended,rfl⟩ := Prod.mk.inj ran
  have left := silent w
  rwa [ended] at left

theorem look {next : World η → Told η β} (later : ∀ u, Leaves R (next u)) :
    Leaves R (world >>= next) := fun w => later w w

variable {host : Host η} (allows : Allows host R)
include allows

theorem act (act : Act α) : Leaves R (act : Told η α) := ofRun (allows.act act)

theorem pure (x : α) : Leaves R (Pure.pure x : Told η α) := act allows (Pure.pure x)

theorem bind {step : Told η α} {next : α → Told η β} (leaves : Leaves R step)
    (later : ∀ x, Leaves R (next x)) : Leaves R (step >>= next) := by
  intro w ending after account ran finished
  obtain ⟨failure,failed,rfl⟩ | ⟨x,mid,first,rest,began,onwards,rfl⟩ := of_bind ran finished
  · exact leaves w _ after account failed nofun
  · exact allows.append (leaves w _ mid first began nofun)
      (later x mid ending after rest onwards finished)

theorem framed {step : Told η α} (trail : Address) (frame : String) (leaves : Leaves R step) :
    Leaves R (Told.framed trail frame step) :=
  bind allows (act allows _) fun _ => bind allows leaves fun _ => bind allows (act allows _)
    fun _ => pure allows _

theorem runBlock {step : Dict → Told η (Option Value)} (leaves : ∀ d, Leaves R (step d))
    (block : Value) : Leaves R (Told.runBlock step block) := by
  refine look fun u => ?_
  generalize u.runtime.store.members block = items
  induction items with
  | nil => exact pure allows _
  | cons v rest ih =>
    refine look fun u => bind allows (leaves _) fun result => ?_
    cases result with
    | some returned => exact pure allows _
    | none => exact ih

/-- An event that nobody handles delivers something only if it is an `error` event with something to
deliver. -/
theorem unhandled (event : Event) (trail : Address)
    (delivers : event.name = "error" → event.data.field "error" ≠ .null →
      ∀ report, Leaves R (deliver host (.unhandled event) report)) :
    Leaves R (Told.unhandled host event trail) := by
  refine look fun u => ?_
  dsimp only
  have carrying (present : (if event.name == "error" then event.data.field "error" else .null) ≠
      Value.null) (report : Address) : Leaves R (deliver host (.unhandled event) report) := by
    split at present
    · next error => exact delivers (eq_of_beq error) present report
    · exact absurd rfl present
  revert carrying
  generalize (if event.name == "error" then event.data.field "error" else Value.null) = carried
  intro carrying
  cases carried with
  | null => exact act allows _
  | report report => exact carrying nofun report
  | _ => exact bind allows (act allows _) fun report => carrying nofun report

end Leaves

/-- What the relation allows of running blocks, up to some depth of nesting. -/
structure Blocks (host : Host η) (R : World η → World η → Account → Prop) (fuel : Nat) : Prop where
  runHandler : ∀ scope text label trail, Leaves R (runHandler host fuel scope text label trail)
  runStep : ∀ scope trail step, Leaves R (runStep host fuel scope trail step)
  settle : ∀ pending, Leaves R (settle host fuel pending)
  runLocal : ∀ node data scope trail name, Leaves R (runLocal host fuel node data scope trail name)

section Running

variable {host : Host η} {R : World η → World η → Account → Prop} (allows : Allows host R)
include allows

theorem runStep_leaves {fuel : Nat} (blocks : Blocks host R fuel)
    (fires : ∀ scope event trail, Leaves R (fire host fuel scope event trail false))
    (scope trail : Address) (step : Dict) :
    Leaves R (runStep host (fuel + 1) scope trail step) := by
  have act {α : Type} (act : Act α) : Leaves R (act : Told η α) := .act allows act
  have pure {α : Type} (x : α) : Leaves R (Pure.pure x : Told η α) := .pure allows x
  unfold runStep
  refine .look fun u => ?_
  dsimp only
  cases step.field? "return" with
  | some v => exact .bind allows (act _) fun _ => pure _
  | none =>
  dsimp only
  cases step.field? "set" with
  | some path => exact .bind allows (act _) fun _ => pure _
  | none =>
  dsimp only
  cases step.field? "fire" with
  | some _ => exact .bind allows (act _) fun event => .bind allows (fires _ _ _) fun _ => pure _
  | none =>
  dsimp only
  cases step.field? "call" with
  | some written =>
    exact .bind allows (act _) fun arguments => .bind allows (.framed allows _ _
      (.bind allows (.ofRun (allows.start _ _ _ _)) fun pending => blocks.settle pending)) fun v =>
        .bind allows (act _) fun _ => pure _
  | none =>
  dsimp only
  cases step.field? "invalidate" with
  | some pattern => exact .bind allows (.ofRun (allows.invalidate _)) fun _ => pure _
  | none =>
  dsimp only
  cases step.field? "actions" with
  | some written =>
    exact .bind allows (act _) fun _ => .bind allows (.ofRun (allows.process _ _)) fun _ => pure _
  | none =>
  dsimp only
  cases step.field? "log" with
  | some written => exact .bind allows (act _) fun _ => .bind allows (act _) fun _ => pure _
  | none => exact pure _

theorem settle_leaves {fuel : Nat} (blocks : Blocks host R fuel) (pending : Pending) :
    Leaves R (settle host (fuel + 1) pending) := by
  have answers (answer : Value) (isPure : Bool) :
      Leaves R (Told.ofRun (Handler.settleAnswer host answer isPure)) := by
    refine .ofRun fun w => ?_
    unfold Handler.settleAnswer
    rw [Step.bind_done (Step.read_run w)]
    cases Action.listIn? w.runtime.store answer with
    | some actions => exact allows.process _ _ w
    | none => exact allows.act (Pure.pure answer) w
  unfold settle
  cases pending with
  | custom token request => exact .bind allows (.ofRun (allows.answer _ _)) fun answer => answers _ _
  | localBlock node name request =>
    refine .bind allows (.act allows _) fun scope => ?_
    have runs (trail : Address) : Leaves R
        (runLocal host fuel node request.data scope trail name >>= fun answer =>
          Told.ofRun (Handler.settleAnswer host answer request.isPure)) :=
      .bind allows (blocks.runLocal _ _ _ _ _) fun answer => answers _ _
    dsimp only
    cases request.trail with
    | some trail => exact .bind allows (.pure allows trail) runs
    | none => exact .bind allows (.act allows _) runs
  | fetch plan request => exact .bind allows (.ofRun (allows.perform _)) fun answer => answers _ _

/-- What the relation allows of every fired event it allows of every block. -/
theorem blocks : ∀ fuel : Nat,
    (∀ k, k < fuel → ∀ scope event trail, Leaves R (fire host k scope event trail false)) →
      Blocks host R fuel
  | 0, _ => ⟨fun _ _ _ _ => .exhaust,fun _ _ _ => .exhaust,fun _ => .exhaust,
    fun _ _ _ _ _ => .exhaust⟩
  | fuel + 1, fires => by
    have inner := blocks fuel fun k earlier => fires k (Nat.lt_succ_of_lt earlier)
    refine ⟨fun scope text label trail => ?_,
      runStep_leaves allows inner (fires fuel (Nat.lt_succ_self fuel)),settle_leaves allows inner,
      fun node data scope trail name => ?_⟩
    · unfold runHandler
      exact .bind allows (.framed allows _ _ (.act allows _)) fun block =>
        .framed allows _ _ (.runBlock allows (inner.runStep _ _) _)
    · unfold runLocal
      exact .bind allows (.act allows _) fun running => .framed allows _ _ <|
        .look fun u => .bind allows (.act allows _) fun text =>
          .bind allows (.act allows _) fun block => .runBlock allows (inner.runStep _ _) _

end Running

end Told
end PageRuntime
