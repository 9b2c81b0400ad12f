import PageRuntime.Proofs.Trails

/-! What the host is asked to do. A relation between worlds that the callbacks of the host keep, and
every step of the runtime alone that leaves trails as they are, is kept by all that is built on them:
refreshes, batches of actions, calls and requests. -/
namespace PageRuntime

variable {η α : Type}

/-- The relation is kept by the runtime and by what the host runs, its receiver of reports apart. -/
structure Host.Keeps (host : Host η) (R : World η → World η → Prop) : Prop where
  act : ∀ {α : Type} (act : Act α), Step.Keeps R (act : Run η α)
  refresh : ∀ token, Step.Keeps R (host.refresh token)
  accept : ∀ token request, Step.Keeps R (host.accept token request)
  answer : ∀ token request, Step.Keeps R (host.answer token request)
  parseMarkup : ∀ parse, host.parseMarkup = some parse → ∀ text, Step.Keeps R (parse text)
  csrfHeaders : Step.Keeps R host.csrfHeaders
  adjust : ∀ url init, Step.Keeps R (host.adjust url init)
  send : ∀ request, Step.Keeps R (host.send request)
  pause : ∀ seconds, Step.Keeps R (host.pause seconds)

/-- The relation is kept by what the host runs, its receiver of reports apart. -/
structure Host.Callbacks (host : Host η) (R : World η → World η → Prop) : Prop where
  refresh : ∀ token, Step.Keeps R (host.refresh token)
  accept : ∀ token request, Step.Keeps R (host.accept token request)
  answer : ∀ token request, Step.Keeps R (host.answer token request)
  parseMarkup : ∀ parse, host.parseMarkup = some parse → ∀ text, Step.Keeps R (parse text)
  csrfHeaders : Step.Keeps R host.csrfHeaders
  adjust : ∀ url init, Step.Keeps R (host.adjust url init)
  send : ∀ request, Step.Keeps R (host.send request)
  pause : ∀ seconds, Step.Keeps R (host.pause seconds)

/-- The relation is kept by what the host runs and by all of the runtime that leaves trails alone. -/
structure Host.KeepsUntraced (host : Host η) (R : World η → World η → Prop) : Prop
    extends host.Callbacks R where
  act : ∀ {α : Type} {act : Act α}, act.Untraced → Step.Keeps R (act : Run η α)

theorem Host.Keeps.untraced {host : Host η} {R : World η → World η → Prop} (keeps : host.Keeps R) :
    host.KeepsUntraced R where
  act _ := keeps.act _
  refresh := keeps.refresh
  accept := keeps.accept
  answer := keeps.answer
  parseMarkup := keeps.parseMarkup
  csrfHeaders := keeps.csrfHeaders
  adjust := keeps.adjust
  send := keeps.send
  pause := keeps.pause

theorem Step.Keeps.thenAlways {σ : Type} {R : σ → σ → Prop} [Trans R R R] {step : Step σ α}
    {last : Step σ Unit} (kept : Keeps R step) (keptLast : Keeps R last) :
    Keeps R (Step.thenAlways step last) := by
  intro state
  have before := kept state
  unfold Step.thenAlways
  cases ran : step state with
  | mk ending mid =>
    rw [ran] at before
    have after := Trans.trans before (keptLast mid)
    cases ending with
    | exhausted => exact before
    | _ =>
      dsimp only
      cases left : last mid with
      | mk ended end_ =>
        rw [left] at after
        cases ended <;> exact after

section Making

variable {host : Host η} {P : (α : Type) → Run η α → Prop} (composes : Step.Composes P)
  (makes : ∀ {α : Type} {act : Act α}, act.OnlyMakes → P α (act : Run η α))
include composes makes

namespace Fetch

/-- The last part of a plan: its outgoing record is made and adjusted. -/
def outgoing (host : Host η) (method url : String) (query fields init : Dict) (body : Value) :
    Run η Plan := do
  let headers ← Act.make (·.newDict fields)
  let init ← Act.make (·.newDict ((init.put "headers" headers).put "method" (.str method)))
  adjust host url init
  return ⟨url,method,query,body,init⟩

/-- The rest of a plan once its arguments are checked: parameters are written into its query or its
body. -/
def fill (host : Host η) (method url : String) (params : Option Dict) (given : Value)
    (fields init : Dict) : Run η Plan := do
  let asQuery := queryMethods.contains method
  let fields := if params.isSome && !asQuery then
    fields.put "Content-Type" (.str "application/json") else fields
  let query ← if asQuery then queryOf [] (params.getD []) else pure []
  let body ←
    if params.isSome && !asQuery then
      let text ← Wire.serialize given (some "json") false
      pure (Value.str text)
    else pure .null
  outgoing host method url query fields init body

theorem adjust_composes
    (puts : ∀ target change, P Unit (putEntries target change : Run η Unit))
    (csrfHeaders : P Value host.csrfHeaders) (adjusts : ∀ url init, P Unit (host.adjust url init))
    (url : String) (init : Value) : P Unit (adjust host url init) := by
  refine composes.bind composes.read fun w => ?_
  dsimp only
  have added : P Unit (do
      let extra ← host.csrfHeaders
      let added ← Act.ofExcept ((← Step.read).runtime.store.dictOrEmpty extra)
      putEntries (headersOf w.runtime.store init) (Dict.update · added)
      host.adjust url init) :=
    composes.bind csrfHeaders fun extra => composes.bind composes.read fun _ =>
      composes.bind (makes (.ofExcept _)) fun added =>
        composes.bind (puts _ _) fun _ => adjusts url init
  split
  · exact composes.bind (puts _ _) fun _ => added
  · exact added

theorem outgoing_composes (adjusts : ∀ url init, P Unit (adjust host url init)) (method url : String)
    (query fields init : Dict) (body : Value) :
    P Plan (outgoing host method url query fields init body) := by
  have dict (fields : Dict) : P Value (Act.make (·.newDict fields) : Run η Value) :=
    makes (.make fun s => s.newDict_adds fields)
  exact composes.bind (dict _) fun _ => composes.bind (dict _) fun _ =>
    composes.bind (adjusts _ _) fun _ => composes.pure _

theorem fill_composes (sends : ∀ method url query fields init body,
      P Plan (outgoing host method url query fields init body)) (method url : String)
    (params : Option Dict) (given : Value) (fields init : Dict) :
    P Plan (fill host method url params given fields init) := by
  have serializes (v : Value) (name : Option String) :
      P String (Wire.serialize v name false : Run η String) :=
    makes (Wire.serialize_onlyMakes v name false)
  unfold fill
  dsimp only
  split
  · refine composes.bind (makes (queryOf_onlyMakes _ _)) fun query => ?_
    split
    · exact composes.bind (serializes _ _) fun text =>
        composes.bind (composes.pure _) fun body => sends _ _ _ _ _ _
    · exact composes.bind (composes.pure _) fun body => sends _ _ _ _ _ _
  · refine composes.bind (composes.pure _) fun query => ?_
    split
    · exact composes.bind (serializes _ _) fun text =>
        composes.bind (composes.pure _) fun body => sends _ _ _ _ _ _
    · exact composes.bind (composes.pure _) fun body => sends _ _ _ _ _ _

theorem plan_composes (sends : ∀ method url query fields init body,
      P Plan (outgoing host method url query fields init body)) (request : Request) :
    P Plan (plan host request) :=
  composes.bind (makes (.ofExcept _)) fun _ => composes.bind composes.read fun _ =>
    composes.bind (makes (checkUrl_onlyMakes _)) fun _ =>
    composes.bind (makes (.ofExcept _)) fun _ =>
    composes.bind (makes (.ofExcept _)) fun _ =>
    composes.bind (makes (.ofExcept _)) fun _ => fill_composes composes makes sends _ _ _ _ _ _

end Fetch

namespace Gateway

/-- The rest of a call once its module is known. -/
def serve (host : Host η) (found : HandlerPath) (module_ : Module) (arguments : Value)
    (trail : Option Address) (isPure : Bool) : Run η Pending := do
  let data ← argumentList arguments
  let request : Request := ⟨found,data,trail,isPure⟩
  match module_ with
  | .custom token => do
    host.accept token request
    return .custom token request
  | .localBlocks => do
    let node ← findLocal found
    return .localBlock node (localName found) request
  | .fetch => do
    let plan ← Fetch.plan host request
    return .fetch plan request

theorem serve_composes {module_ : Module}
    (accept : ∀ token, module_ = .custom token → ∀ request, P Unit (host.accept token request))
    (plan : ∀ request, P Fetch.Plan (Fetch.plan host request)) (found : HandlerPath)
    (arguments : Value) (trail : Option Address) (isPure : Bool) :
    P Pending (serve host found module_ arguments trail isPure) := by
  refine composes.bind (makes (argumentList_onlyMakes _)) fun data => ?_
  cases module_ with
  | custom token => exact composes.bind (accept token rfl _) fun _ => composes.pure _
  | localBlocks =>
    exact composes.bind (makes (findLocal_onlyMakes _)) fun node => composes.pure _
  | fetch => exact composes.bind (plan _) fun plan => composes.pure _

theorem start_composes (accept : ∀ token request, P Unit (host.accept token request))
    (plan : ∀ request, P Fetch.Plan (Fetch.plan host request)) (path arguments : Value)
    (trail : Option Address) (isPure : Bool) :
    P Pending (start host path arguments trail isPure) :=
  composes.bind composes.read fun _ => composes.bind (makes (.ofExcept _)) fun found =>
    composes.bind (makes (moduleOf_onlyMakes _ _)) fun _ =>
      serve_composes composes makes (fun token _ => accept token) plan found arguments trail isPure

end Gateway
end Making

section Calls
open Step.Keeps (bind read attempt)

variable {host : Host η} {R : World η → World η → Prop} [Std.Refl R] [Trans R R R]
  (grows : ∀ {α : Type} {act : Act α}, act.OnlyGrows → Step.Keeps R (act : Run η α))
include grows

namespace Fetch

theorem perform_keeps (send : ∀ request, Step.Keeps R (host.send request))
    (pause : ∀ seconds, Step.Keeps R (host.pause seconds)) (plan : Plan) :
    Step.Keeps R (perform host plan) := by
  have attempts (request : HttpRequest) (backoff : Number.Binary64) (remaining : Nat) :
      ∀ done, Step.Keeps R (Http.attempts host request backoff remaining done) := by
    induction remaining with
    | zero => exact fun _ => .pure none
    | succ remaining ih =>
      intro done
      refine bind (attempt (send request)) fun result => ?_
      cases result with
      | ok response => exact .pure _
      | error failure =>
        dsimp only
        split
        · exact Step.Keeps.raise failure
        · exact bind (grows (.ofExcept _)) fun _ => bind (pause _) fun _ => ih _
  refine bind read fun w => bind (grows (.ofExcept _)) fun timeout =>
    bind (grows (.ofExcept _)) fun headers =>
      bind (bind (attempts _ _ _ _) fun response => bind read fun _ => .pure _) fun response => ?_
  cases response with
  | some response => exact grows (answer_onlyGrows _ _)
  | none => exact grows (.fail _)

end Fetch

theorem Report.deliver_keeps
    (receives : ∀ receive, host.report = some receive → ∀ report, Step.Keeps R (receive report))
    (report : Address) : Step.Keeps R (deliver host report) := by
  unfold deliver
  cases given : host.report with
  | none => exact grows (Journal.log_onlyGrows _)
  | some receive =>
    refine bind (attempt (receives receive given report)) fun result => ?_
    cases result with
    | ok _ => exact .pure ()
    | error failure =>
      exact bind (grows (Journal.log_onlyGrows _)) fun _ => grows (Journal.log_onlyGrows _)

end Calls

namespace Host.KeepsUntraced
open Act.Untraced (of_onlyGrows of_onlyData beside)
open Step.Keeps (bind read attempt)

variable {host : Host η} {R : World η → World η → Prop} (keeps : host.KeepsUntraced R)
include keeps

theorem grows {act : Act α} (only : act.OnlyGrows) : Step.Keeps R (act : Run η α) :=
  keeps.act (of_onlyGrows only)

theorem makes {act : Act α} (only : act.OnlyMakes) : Step.Keeps R (act : Run η α) :=
  keeps.grows only.onlyGrows

theorem change (f : Registry → Registry) : Step.Keeps R (Sweep.change f : Run η Unit) :=
  keeps.act (beside fun _ => rfl)

theorem putEntries (target : Value) (change : Dict → Dict) :
    Step.Keeps R (Fetch.putEntries target change : Run η Unit) := by
  refine keeps.act (of_onlyData ?_)
  unfold Fetch.putEntries
  split
  · exact .update fun _ => rfl
  · exact .pure ()

variable [Std.Refl R] [Trans R R R]

theorem refreshOne (registration : Registration) :
    Step.Keeps R (Sweep.refresh host registration) := by
  refine bind read fun w => ?_
  dsimp only
  split
  · exact .pure ()
  · split
    · exact keeps.change _
    · refine bind (attempt (keeps.refresh _)) fun result => ?_
      cases result with
      | ok _ => exact .pure ()
      | error failure =>
        exact keeps.grows (.bind .store fun _ => Journal.log_onlyGrows _)

theorem refreshAll : ∀ waiting : List Registration, Step.Keeps R (Sweep.refreshAll host waiting)
  | [] => .pure ()
  | registration :: rest =>
    bind (keeps.refreshOne registration) fun _ => refreshAll rest

theorem sweepRun (wanted : String → Bool) : Step.Keeps R (Sweep.run host wanted) := by
  refine bind read fun w => ?_
  dsimp only
  split
  · exact bind (keeps.change _) fun _ => .pure _
  · exact bind (keeps.refreshAll _) fun _ => .pure _

theorem invalidatePattern (pattern : String) :
    Step.Keeps R (Sweep.invalidatePattern host pattern) := by
  unfold Sweep.invalidatePattern
  cases Text.Pattern.read? pattern with
  | some pattern => exact keeps.sweepRun _
  | none => exact keeps.grows (.fail _)

theorem leave : Step.Keeps R (Sweep.leave host) := by
  refine bind (keeps.change _) fun _ => bind read fun w => ?_
  dsimp only
  split
  · exact bind (keeps.change _) fun _ => keeps.refreshAll _
  · exact .pure ()

theorem batch {step : Run η α} (kept : Step.Keeps R step) : Step.Keeps R (Sweep.batch host step) :=
  bind (keeps.change _) fun _ => kept.thenAlways keeps.leave

theorem replace (payload : Value) : Step.Keeps R (Document.replace host payload) := by
  refine bind ?_ fun document => keeps.act (beside fun _ => rfl)
  unfold Document.ofPayload
  cases payload with
  | node a => exact .pure a
  | str text =>
    dsimp only
    cases given : host.parseMarkup with
    | some parse => exact keeps.parseMarkup parse given text
    | none => exact keeps.grows (.fail _)
  | _ =>
    dsimp only
    split
    · exact keeps.act (of_onlyData (Node.ofValue_onlyData _))
    · exact bind read fun w => keeps.grows (.fail _)

theorem applyAction (scope : Address) (action : Action) :
    Step.Keeps R (ActionBatch.apply host scope action) := by
  unfold ActionBatch.apply
  cases action.kind with
  | setData => exact keeps.act (of_onlyData (ActionBatch.applyData_onlyData scope action))
  | blob => exact keeps.act (of_onlyData (ActionBatch.applyBlob_onlyData scope action))
  | extendBlob => exact keeps.act (of_onlyData (ActionBatch.extendBlob_onlyData scope action))
  | invalidate =>
    unfold ActionBatch.sweep
    dsimp only
    split
    · exact bind (keeps.sweepRun _) fun _ => .pure ()
    · exact bind (keeps.invalidatePattern _) fun _ => .pure ()
  | html => exact keeps.replace _

theorem processRecord (scope : Address) (captureOnly : Bool) (index : Nat)
    (record returned : Value) :
    Step.Keeps R (ActionBatch.processRecord host scope captureOnly index record returned) := by
  refine bind (attempt ?_) fun result => ?_
  · refine bind read fun w => bind (keeps.grows (.ofExcept _)) fun action => ?_
    split
    · exact keeps.act (of_onlyData (ActionBatch.capture_onlyData action returned))
    · split
      · exact .pure _
      · exact bind (keeps.applyAction scope action) fun _ => .pure _
  · cases result with
    | ok returned => exact .pure _
    | error failure =>
      exact bind (keeps.act (of_onlyData (ActionBatch.failed_onlyData _ _ _))) fun _ => .pure _

theorem processAll (scope : Address) (captureOnly : Bool) (records : List Value) :
    ∀ index returned,
      Step.Keeps R (ActionBatch.processAll host scope captureOnly index records returned) := by
  induction records with
  | nil => exact fun _ returned => .pure returned
  | cons record rest ih =>
    exact fun index returned =>
      bind (keeps.processRecord _ _ _ _ _) fun returned => ih _ returned

theorem processLive (scope : Address) (captureOnly : Bool) (list : Address) (fuel : Nat) :
    ∀ index returned,
      Step.Keeps R (ActionBatch.processLive host scope captureOnly list fuel index returned) := by
  induction fuel with
  | zero => exact fun _ _ => Step.Keeps.exhaust
  | succ fuel ih =>
    intro index returned
    refine bind read fun w => ?_
    cases (w.runtime.store.listAt list)[index]? with
    | none => exact .pure _
    | some record =>
      exact bind (keeps.processRecord _ _ _ _ _) fun returned => ih _ returned

theorem process (actions : Value) (captureOnly : Bool) :
    Step.Keeps R (ActionBatch.process host actions captureOnly) := by
  unfold ActionBatch.process
  split
  · exact .pure _
  · refine bind (keeps.grows Scope.makeRoot_onlyGrows) fun scope =>
      keeps.batch (bind read fun w => ?_)
    cases actions with
    | list a => exact keeps.processLive _ _ _ _ _ _
    | _ =>
      exact bind (keeps.grows (.ofExcept _)) fun records => keeps.processAll _ _ _ _ _

theorem plan (request : Request) : Step.Keeps R (Fetch.plan host request) :=
  Fetch.plan_composes Step.Keeps.composes keeps.makes
    (Fetch.outgoing_composes Step.Keeps.composes keeps.makes
      (Fetch.adjust_composes Step.Keeps.composes keeps.makes keeps.putEntries keeps.csrfHeaders
        keeps.adjust))
    request

theorem perform (plan : Fetch.Plan) : Step.Keeps R (Fetch.perform host plan) :=
  Fetch.perform_keeps keeps.grows keeps.send keeps.pause plan

theorem start (path arguments : Value) (trail : Option Address) (isPure : Bool) :
    Step.Keeps R (Gateway.start host path arguments trail isPure) :=
  Gateway.start_composes Step.Keeps.composes keeps.makes keeps.accept keeps.plan path arguments trail
    isPure

end Host.KeepsUntraced
end PageRuntime
