import PageRuntime.Proofs.FailureReports
import PageRuntime.Proofs.TrailsApart

/-! The frames that runs leave on their own trail. A run that completes leaves the trail as it found
it. A run that fails leaves behind the frames of all that was under way, the outermost first. The
dispatch of a failing handler copies the trail into its report and then cuts those frames off. -/
namespace PageRuntime

variable {η α β : Type}

/-- The world inside a frame. -/
def World.entered (w : World η) (trail : Address) (frame : String) : World η :=
  { w with runtime := (Trail.push trail frame w.runtime).2 }

namespace Handler

/-- What can be under way on a trail. -/
inductive Activity
  | handler (scope : Address) (text label : String)
  | steps (scope : Address) (remaining : List Value)
  | step (scope : Address) (step : Dict)
  | call (pending : Pending)
  | localBlock (node : Address) (data : Value) (scope : Address) (name : String)

def localFrame (name : String) : String := "Running @local handler '" ++ name ++ "'"

/-- The steps of a local handler, read from the text of its node. -/
def localSteps (node : Address) : Run η Value := do
  let text ← Act.ofExcept (Node.textContent (← Step.read).runtime.store node)
  Block.read text

theorem localSteps_bind (node : Address) (run : Value → Run η Value) : (do
    let text ← Act.ofExcept (Node.textContent (← Step.read).runtime.store node)
    let block ← Block.read text
    run block : Run η Value) = localSteps node >>= run := by
  rw [localSteps,Step.bind_assoc]
  exact congrArg (Step.read >>= ·) (funext fun _ => (Step.bind_assoc _ _ _).symm)

/-- The activity fails, and at the point of failure the frames are active. There is one form for each
way in which an activity fails: by itself, or in an activity that it has started. -/
inductive FailsAmid (host : Host η) (trail : Address) :
    Nat → Activity → World η → List String → Prop
  | parsing {fuel : Nat} {scope failure : Address} {text label : String} {w after : World η}
      (fails : (Block.read (.str text) : Run η Value) (w.entered trail ("Parsing " ++ label)) =
        (.raised failure,after)) :
      FailsAmid host trail (fuel + 1) (.handler scope text label) w ["Parsing " ++ label]
  | running {fuel : Nat} {scope : Address} {text label : String} {block : Value} {w mid : World η}
      {frames : List String}
      (parsed : framed trail ("Parsing " ++ label) (Block.read (.str text)) w = (.done block,mid))
      (inside : FailsAmid host trail fuel
        (.steps scope ((mid.entered trail ("Running " ++ label)).runtime.store.members block))
        (mid.entered trail ("Running " ++ label)) frames) :
      FailsAmid host trail (fuel + 1) (.handler scope text label) w
        (("Running " ++ label) :: frames)
  | first {fuel : Nat} {scope : Address} {v : Value} {rest : List Value} {w : World η}
      {frames : List String}
      (inside : FailsAmid host trail fuel (.step scope (w.runtime.store.entries v)) w frames) :
      FailsAmid host trail fuel (.steps scope (v :: rest)) w frames
  | later {fuel : Nat} {scope : Address} {v : Value} {rest : List Value} {w mid : World η}
      {frames : List String}
      (ran : runStep host fuel scope trail (w.runtime.store.entries v) w = (.done none,mid))
      (inside : FailsAmid host trail fuel (.steps scope rest) mid frames) :
      FailsAmid host trail fuel (.steps scope (v :: rest)) w frames
  | plain {fuel : Nat} {scope failure : Address} {step : Dict} {w after : World η}
      (leads : nesting step = .nothing)
      (fails : runStep host (fuel + 1) scope trail step w = (.raised failure,after)) :
      FailsAmid host trail (fuel + 1) (.step scope step) w []
  | asking {fuel : Nat} {scope failure : Address} {step : Dict} {w after : World η}
      (leads : nesting step = .event)
      (fails : (eventOf scope step : Run η Event) w = (.raised failure,after)) :
      FailsAmid host trail (fuel + 1) (.step scope step) w []
  | arguing {fuel : Nat} {scope failure : Address} {step : Dict} {written : Value}
      {w after : World η} (leads : nesting step = .call written)
      (fails : (argumentsOf scope step : Run η Value) w = (.raised failure,after)) :
      FailsAmid host trail (fuel + 1) (.step scope step) w []
  | calling {fuel : Nat} {scope failure : Address} {step : Dict} {written arguments : Value}
      {path : String} {w mid after : World η} (leads : nesting step = .call written)
      (named : w.runtime.store.display written = path)
      (argued : (argumentsOf scope step : Run η Value) w = (.done arguments,mid))
      (fails : Gateway.start host (.str path) arguments (some trail)
        (w.runtime.store.isTrue (step.field "pure")) (mid.entered trail (callFrame path)) =
          (.raised failure,after)) :
      FailsAmid host trail (fuel + 1) (.step scope step) w [callFrame path]
  | awaiting {fuel : Nat} {scope : Address} {step : Dict} {written arguments : Value}
      {path : String} {pending : Pending} {w mid made : World η} {frames : List String}
      (leads : nesting step = .call written) (named : w.runtime.store.display written = path)
      (argued : (argumentsOf scope step : Run η Value) w = (.done arguments,mid))
      (starts : Gateway.start host (.str path) arguments (some trail)
        (w.runtime.store.isTrue (step.field "pure")) (mid.entered trail (callFrame path)) =
          (.done pending,made))
      (inside : FailsAmid host trail fuel (.call pending) made frames) :
      FailsAmid host trail (fuel + 1) (.step scope step) w (callFrame path :: frames)
  | storing {fuel : Nat} {scope failure : Address} {step : Dict} {written v : Value}
      {w mid after : World η} (leads : nesting step = .call written)
      (completed : called host fuel scope trail step (w.runtime.store.display written)
        (w.runtime.store.isTrue (step.field "pure")) w = (.done v,mid))
      (fails : (storeInto scope step v : Run η Unit) mid = (.raised failure,after)) :
      FailsAmid host trail (fuel + 1) (.step scope step) w []
  | answering {fuel token : Nat} {failure : Address} {request : Request} {w after : World η}
      (fails : host.answer token request w = (.raised failure,after)) :
      FailsAmid host trail (fuel + 1) (.call (.custom token request)) w []
  | fetching {fuel : Nat} {failure : Address} {plan : Fetch.Plan} {request : Request}
      {w after : World η} (fails : Fetch.perform host plan w = (.raised failure,after)) :
      FailsAmid host trail (fuel + 1) (.call (.fetch plan request)) w []
  | within {fuel : Nat} {node scope : Address} {name : String} {request : Request}
      {w mid : World η} {frames : List String} (rooted : (Scope.makeRoot : Run η Address) w =
        (.done scope,mid))
      (inside : FailsAmid host trail fuel (.localBlock node request.data scope name) mid frames) :
      FailsAmid host trail (fuel + 1) (.call (.localBlock node name request)) w frames
  | processing {fuel : Nat} {failure : Address} {pending : Pending} {answer : Value}
      {w mid after : World η} (answered : answerOf host fuel pending w = (.done answer,mid))
      (fails : settleAnswer host answer pending.request.isPure mid = (.raised failure,after)) :
      FailsAmid host trail (fuel + 1) (.call pending) w []
  | reading {fuel : Nat} {node scope running failure : Address} {data : Value} {name : String}
      {w mid after : World η}
      (binds : (Scope.makeSpecialChild scope (Dict.put [] "params" data)
        (.described ("local handler " ++ name)) : Run η Address) w = (.done running,mid))
      (fails : localSteps node (mid.entered trail (localFrame name)) = (.raised failure,after)) :
      FailsAmid host trail (fuel + 1) (.localBlock node data scope name) w [localFrame name]
  | locally {fuel : Nat} {node scope running : Address} {data block : Value} {name : String}
      {w mid read : World η} {frames : List String}
      (binds : (Scope.makeSpecialChild scope (Dict.put [] "params" data)
        (.described ("local handler " ++ name)) : Run η Address) w = (.done running,mid))
      (parsed : localSteps node (mid.entered trail (localFrame name)) = (.done block,read))
      (inside : FailsAmid host trail fuel
        (.steps running (read.runtime.store.members block)) read frames) :
      FailsAmid host trail (fuel + 1) (.localBlock node data scope name) w
        (localFrame name :: frames)

/-- From this world the run leaves the trail as it is if it completes, and if it fails it leaves
frames of which so much is known. -/
structure Tracks (trail : Address) (active : List String → Prop) (run : Run η α) (w : World η) :
    Prop where
  done : ∀ x after, run w = (.done x,after) → w.Spares trail after
  raised : ∀ failure after, run w = (.raised failure,after) →
    ∃ frames, active frames ∧ Store.Gains trail frames w.runtime.store after.runtime.store

namespace Tracks

variable {trail : Address} {active inner : List String → Prop} {w : World η}

theorem imp {run : Run η α} (tracks : Tracks trail inner run w)
    (weaker : ∀ frames, inner frames → active frames) : Tracks trail active run w where
  done := tracks.done
  raised failure after ran := by
    obtain ⟨frames,known,gains⟩ := tracks.raised failure after ran
    exact ⟨frames,weaker frames known,gains⟩

/-- A run that leaves the trail alone fails with no frames of its own. -/
theorem of_keeps {run : Run η α} (kept : Step.Keeps (World.Spares trail) run)
    (fails : ∀ failure after, run w = (.raised failure,after) → active []) :
    Tracks trail active run w where
  done x after ran := by
    have spared := kept w
    rwa [ran] at spared
  raised failure after ran := by
    have spared : w.Spares trail after := by
      have spared := kept w
      rwa [ran] at spared
    refine ⟨[],fails failure after ran,fun present => ?_⟩
    rw [List.append_nil]
    exact spared present

theorem congr {run other : Run η α} (tracks : Tracks trail active other w)
    (same : run w = other w) : Tracks trail active run w where
  done x after ran := tracks.done x after (same ▸ ran)
  raised failure after ran := tracks.raised failure after (same ▸ ran)

theorem exhaust : Tracks trail active (Step.exhaust : Run η α) w :=
  ⟨fun _ _ ran => (by cases ran),fun _ _ ran => (by cases ran)⟩

theorem pure (x : α) : Tracks trail active (Pure.pure x : Run η α) w :=
  of_keeps (.pure x) fun _ _ ran => (by cases ran)

theorem look {next : World η → Run η α} (tracks : Tracks trail active (next w) w) :
    Tracks trail active (Step.read >>= next) w := ⟨tracks.done,tracks.raised⟩

theorem bind {first : Run η α} {next : α → Run η β} (tracks : Tracks trail active first w)
    (later : ∀ x mid, first w = (.done x,mid) → Tracks trail active (next x) mid) :
    Tracks trail active (first >>= next) w where
  done y after ran := by
    obtain ⟨x,mid,began,onwards⟩ := Step.done_of_bind ran
    exact (tracks.done x mid began).trans ((later x mid began).done y after onwards)
  raised failure after ran := by
    obtain failed | ⟨x,mid,began,onwards⟩ := Step.raised_of_bind ran
    · exact tracks.raised failure after failed
    · obtain ⟨frames,known,gains⟩ := (later x mid began).raised failure after onwards
      exact ⟨frames,known,(tracks.done x mid began).gains gains⟩

/-- A frame is there while what runs inside it fails, and gone once that completes. -/
theorem framed {frame : String} {step : Run η α}
    (tracks : Tracks trail (fun frames => active (frame :: frames)) step (w.entered trail frame)) :
    Tracks trail active (Handler.framed trail frame step) w := by
  have enters : Store.Gains trail [frame] w.runtime.store (w.entered trail frame).runtime.store :=
    fun present => Store.putTrail_holds present _
  constructor
  · intro x after ran
    obtain ⟨_,_,entered,ran⟩ := Step.done_of_bind ran
    cases entered
    obtain ⟨y,mid,stepped,ran⟩ := Step.done_of_bind ran
    obtain ⟨_,_,left,ran⟩ := Step.done_of_bind ran
    cases left
    cases ran
    intro present
    obtain ⟨still,held⟩ := enters.spares (tracks.done x mid stepped) present
    obtain ⟨stays,holds⟩ := Store.putTrail_holds still (mid.runtime.store.trailAt trail).dropLast
    refine ⟨stays,holds.trans ?_⟩
    rw [held,List.dropLast_concat]
  · intro failure after ran
    obtain entered | ⟨_,_,entered,ran⟩ := Step.raised_of_bind ran
    · cases entered
    · cases entered
      obtain failed | ⟨y,mid,-,ran⟩ := Step.raised_of_bind ran
      · obtain ⟨frames,known,gains⟩ := tracks.raised failure after failed
        exact ⟨frame :: frames,known,enters.trans gains⟩
      · obtain left | ⟨_,_,-,ran⟩ := Step.raised_of_bind ran
        · cases left
        · cases ran

end Tracks

section Dispatch
open Told (entering reporting)

/-- What follows the run of a handler on a trail that had so many frames. -/
def afterHandler (host : Host η) (fuel : Nat) (running : Address) (handler : Handler)
    (label : String) (trail : Address) (depth : Nat) (raising : Bool) :
    Except Address Value → Run η Value
  | .ok v => return v
  | .error failure =>
    if raising then do Step.raise (← wrapped label trail failure)
    else do
      let frames ← Trail.copy trail
      let report ← Report.make
        ⟨"Error running " ++ label,some failure,some frames,none,some handler.text⟩
      Trail.cut trail depth
      reportFailure host fuel running report
      return .null

variable {host : Host η} {fuel : Nat} {scope bound trail failure : Address} {event : Event}
  {handler : Handler} {raising : Bool} {w mid after : World η}

theorem fire_unclaimed (unclaimed : event.handlerScope? w.runtime.store scope = none) :
    fire host (fuel + 1) scope event trail raising w =
      (do
        event.unhandled host trail
        return .null : Run η Value) w := by
  rw [fire,Step.bind_done (Step.read_run w)]
  dsimp only
  rw [unclaimed]

theorem fire_eq (claimed : event.handlerScope? w.runtime.store scope = some bound)
    (binds : w.runtime.store.handlerOf? bound event.name = some handler) :
    fire host (fuel + 1) scope event trail raising w =
      (Step.attempt (runHandler host fuel w.runtime.store.scopes.size handler.text
        (label w.runtime.store event bound) trail) >>=
          afterHandler host fuel w.runtime.store.scopes.size handler
            (label w.runtime.store event bound) trail (w.runtime.store.trailAt trail).length raising)
        (entering w bound handler event) := by
  have enters : (Scope.makeSpecialChild (w.runtime.store.handlerScope bound handler) event.data
      (.described ("event:" ++ event.name)) : Run η Address) w =
        (.done w.runtime.store.scopes.size,entering w bound handler event) := rfl
  rw [fire,Step.bind_done (Step.read_run w)]
  dsimp only
  rw [claimed]
  dsimp only
  rw [binds]
  dsimp only
  rw [Step.bind_done enters]
  refine congrFun (congrArg _ (funext fun result => ?_)) _
  cases result <;> rfl

variable (claimed : event.handlerScope? w.runtime.store scope = some bound)
  (binds : w.runtime.store.handlerOf? bound event.name = some handler)
include claimed binds

theorem fire_completed {v : Value} (ran : runHandler host fuel w.runtime.store.scopes.size
      handler.text (label w.runtime.store event bound) trail (entering w bound handler event) =
        (.done v,mid)) :
    fire host (fuel + 1) scope event trail raising w = (.done v,mid) := by
  rw [fire_eq claimed binds,Step.bind_done (Step.attempt_done ran)]
  rfl

theorem fire_raising (ran : runHandler host fuel w.runtime.store.scopes.size handler.text
      (label w.runtime.store event bound) trail (entering w bound handler event) =
        (.raised failure,mid)) :
    fire host (fuel + 1) scope event trail true w =
      (do Step.raise (← wrapped (label w.runtime.store event bound) trail failure) : Run η Value)
        mid := by
  rw [fire_eq claimed binds,Step.bind_done (Step.attempt_raised ran)]
  rfl

theorem fire_reporting (ran : runHandler host fuel w.runtime.store.scopes.size handler.text
      (label w.runtime.store event bound) trail (entering w bound handler event) =
        (.raised failure,mid)) :
    fire host (fuel + 1) scope event trail false w =
      (do
        reportFailure host fuel w.runtime.store.scopes.size mid.runtime.store.reports.size
        return .null : Run η Value) (reporting w mid bound handler event trail failure) := by
  rw [fire_eq claimed binds,Step.bind_done (Step.attempt_raised ran)]
  rfl

end Dispatch

section Reporting
open Told (reporting)

/-- A store with the report of a failing handler and a copy of the trail for it. -/
def withReport (s : Store) (trail failure : Address) (handler : Handler) (label : String) : Store :=
  ((s.newTrail (s.trailAt trail)).2.newReport
    ⟨"Error running " ++ label,some failure,some s.trails.size,none,some handler.text⟩).2

theorem withReport_grew (s : Store) (trail failure : Address) (handler : Handler) (label : String) :
    s.Grew (withReport s trail failure handler label) :=
  .trans (.of_adds (s.newTrail_adds _)) (.of_adds (Store.newReport_adds _ _))

variable {trail : Address} {w mid : World η} {frames : List String} (bound : Address)
  (handler : Handler) (event : Event) (failure : Address)

theorem reporting_store : (reporting w mid bound handler event trail failure).runtime.store =
    let s := withReport mid.runtime.store trail failure handler (label w.runtime.store event bound)
    s.putTrail trail ((s.trailAt trail).take (w.runtime.store.trailAt trail).length) := rfl

theorem reporting_report : (reporting w mid bound handler event trail failure).runtime.store.reportAt
    mid.runtime.store.reports.size = ⟨"Error running " ++ label w.runtime.store event bound,
      some failure,some mid.runtime.store.trails.size,none,some handler.text⟩ :=
  mid.runtime.store.reports.getD_push_self _ _

variable (gains : Store.Gains trail frames w.runtime.store mid.runtime.store)
include gains

/-- Making a report leaves the trail that it tells of as it was when the handler started. -/
theorem reporting_spares : w.Spares trail (reporting w mid bound handler event trail failure) := by
  intro present
  rw [reporting_store]
  dsimp only
  have grew := withReport_grew mid.runtime.store trail failure handler
    (label w.runtime.store event bound)
  obtain ⟨still,held⟩ := gains.spares (grew.spares trail) present
  rw [held,List.take_left]
  exact Store.putTrail_holds still _

/-- The report has a trail of its own with the frames that the handler has left. -/
theorem reporting_copies (present : trail < w.runtime.store.trails.size) :
    (reporting w mid bound handler event trail failure).runtime.store.trailAt
      mid.runtime.store.trails.size = w.runtime.store.trailAt trail ++ frames := by
  obtain ⟨still,held⟩ := gains present
  rw [reporting_store]
  dsimp only
  have made : mid.runtime.store.trails.size < (withReport mid.runtime.store trail failure handler
      (label w.runtime.store event bound)).trails.size :=
    Nat.lt_of_lt_of_eq (Nat.lt_succ_self _) (mid.runtime.store.trails.size_push _).symm
  rw [(Store.putTrail_spares (Nat.ne_of_gt still) _ made).2]
  exact (mid.runtime.store.trails.getD_push_self _ _).trans held

end Reporting

/-- Up to some depth of nesting, runs on the trail leave it as it was or with the frames that are
active in them. -/
structure RunsOn (host : Host η) (trail : Address) (fuel : Nat) : Prop where
  fire : ∀ scope event w,
    Tracks trail (fun _ => False) (fire host fuel scope event trail false) w
  runHandler : ∀ scope text label w,
    Tracks trail (FailsAmid host trail fuel (.handler scope text label) w)
      (runHandler host fuel scope text label trail) w
  runStep : ∀ scope step w,
    Tracks trail (FailsAmid host trail fuel (.step scope step) w)
      (runStep host fuel scope trail step) w
  settle : ∀ pending w, pending.request.trail = some trail →
    Tracks trail (FailsAmid host trail fuel (.call pending) w) (settle host fuel pending) w
  runLocal : ∀ node data scope name w,
    Tracks trail (FailsAmid host trail fuel (.localBlock node data scope name) w)
      (runLocal host fuel node data scope trail name) w

section Running
open Told (entering reporting)

variable {host : Host η} {trail : Address} (spares : host.Spares trail) {fuel : Nat}
  (inner : RunsOn host trail fuel)
include spares inner

theorem fire_tracks (scope : Address) (event : Event) (w : World η) :
    Tracks trail (fun _ => False) (fire host (fuel + 1) scope event trail false) w where
  raised failure after ran := absurd ran (Step.Quiet.fire host _ scope event trail w failure after)
  done v after ran := by
    cases claimed : event.handlerScope? w.runtime.store scope with
    | none =>
      rw [fire_unclaimed claimed] at ran
      have kept := Step.Keeps.bind (spares.unhandled event trail) (fun _ => .pure Value.null) w
      rwa [ran] at kept
    | some bound =>
      obtain ⟨handler,binds⟩ := Event.handlerOn?_binds claimed
      have enters : w.Spares trail (entering w bound handler event) :=
        spares.untraced.grows (Scope.makeSpecialChild_onlyGrows _ _ _) w
      have handles := inner.runHandler w.runtime.store.scopes.size handler.text
        (label w.runtime.store event bound) (entering w bound handler event)
      cases began : runHandler host fuel w.runtime.store.scopes.size handler.text
          (label w.runtime.store event bound) trail (entering w bound handler event) with
      | mk ending mid =>
        cases ending with
        | done x =>
          rw [fire_completed claimed binds began] at ran
          cases ran
          exact enters.trans (handles.done _ _ began)
        | raised failure =>
          rw [fire_reporting claimed binds began] at ran
          obtain ⟨frames,-,gains⟩ := handles.raised failure mid began
          obtain ⟨_,last,reported,ended⟩ := Step.done_of_bind ran
          cases ended
          have kept := (runsApart spares fuel).reportFailure w.runtime.store.scopes.size
            mid.runtime.store.reports.size (reporting w mid bound handler event trail failure)
          rw [reported] at kept
          exact (reporting_spares bound handler event failure (enters.gains gains)).trans kept
        | exhausted =>
          rw [fire_eq claimed binds,Step.bind_exhausted (Step.attempt_exhausted began)] at ran
          cases ran

omit spares in
theorem runBlock_tracks (scope : Address) (block : Value) (w : World η) :
    Tracks trail (FailsAmid host trail fuel (.steps scope (w.runtime.store.members block)) w)
      (runBlock (runStep host fuel scope trail) block) w := by
  refine .look ?_
  generalize w.runtime.store.members block = items
  induction items generalizing w with
  | nil => exact .pure _
  | cons v rest ih =>
    refine .look (.bind ((inner.runStep _ _ w).imp fun _ => .first) fun result mid ran => ?_)
    cases result with
    | some returned => exact .pure _
    | none => exact (ih mid).imp fun _ => .later ran

theorem runHandler_tracks (scope : Address) (text label : String) (w : World η) :
    Tracks trail (FailsAmid host trail (fuel + 1) (.handler scope text label) w)
      (runHandler host (fuel + 1) scope text label trail) w := by
  have reads := spares.untraced.grows (Block.read_onlyGrows (.str text))
  unfold runHandler
  exact .bind (.framed (.of_keeps reads fun _ _ fails => .parsing fails)) fun block mid parsed =>
    .framed ((runBlock_tracks inner scope block _).imp fun _ => .running parsed)

theorem called_tracks (scope : Address) {step : Dict} {written : Value}
    (leads : nesting step = .call written) (w : World η) :
    Tracks trail (FailsAmid host trail (fuel + 1) (.step scope step) w)
      (called host fuel scope trail step (w.runtime.store.display written)
        (w.runtime.store.isTrue (step.field "pure"))) w := by
  have argues := spares.untraced.grows (argumentsOf_onlyGrows scope step)
  refine .bind (.of_keeps argues fun _ _ fails => .arguing leads fails) fun arguments mid argued =>
    .framed (.bind ?_ fun pending made starts => ?_)
  · exact .of_keeps (spares.untraced.start _ _ _ _) fun _ _ fails => .calling leads rfl argued fails
  · exact (inner.settle pending made (Gateway.start_trail starts)).imp fun _ =>
      .awaiting leads rfl argued starts

theorem runStep_tracks (scope : Address) (step : Dict) (w : World η) :
    Tracks trail (FailsAmid host trail (fuel + 1) (.step scope step) w)
      (runStep host (fuel + 1) scope trail step) w := by
  have keeps := spares.untraced
  cases leads : nesting step with
  | nothing =>
    exact .of_keeps (runStep_keeps fuel scope trail keeps leads) fun _ _ fails => .plain leads fails
  | event =>
    rw [runStep_fire fuel scope trail leads]
    exact .bind (.of_keeps (keeps.grows (eventOf_onlyGrows scope step)) fun _ _ fails =>
      .asking leads fails) fun event mid _ => .bind ((inner.fire _ _ _).imp fun _ => False.elim)
        fun _ _ _ => .pure _
  | call written =>
    have stores (v : Value) := keeps.act (storeInto_untraced scope step v)
    have tracks := Tracks.bind (called_tracks spares inner scope leads w) fun v mid completed =>
      .bind (.of_keeps (stores v) fun _ _ fails => .storing leads completed fails) fun _ _ _ =>
        .pure (none : Option Value)
    exact tracks.congr (runStep_call fuel scope trail leads w)

theorem settle_tracks (pending : Pending) (w : World η) (own : pending.request.trail = some trail) :
    Tracks trail (FailsAmid host trail (fuel + 1) (.call pending) w)
      (settle host (fuel + 1) pending) w := by
  rw [settle_eq]
  refine .bind ?_ fun answer mid answered =>
    .of_keeps (spares.settleAnswer _ _) fun _ _ fails => .processing answered fails
  cases pending with
  | custom token request => exact .of_keeps (spares.answer _ _) fun _ _ fails => .answering fails
  | fetch plan request => exact .of_keeps (spares.untraced.perform _) fun _ _ fails => .fetching fails
  | localBlock node name request =>
    have roots := spares.untraced.grows Scope.makeRoot_onlyGrows
    refine .bind (.of_keeps roots fun _ _ fails => (by cases fails)) fun scope mid rooted => ?_
    rw [show request.trail = some trail from own]
    exact (inner.runLocal _ _ _ _ mid).imp fun _ => .within rooted

theorem runLocal_tracks (node : Address) (data : Value) (scope : Address) (name : String)
    (w : World η) :
    Tracks trail (FailsAmid host trail (fuel + 1) (.localBlock node data scope name) w)
      (runLocal host (fuel + 1) node data scope trail name) w := by
  have keeps := spares.untraced
  have reads : Step.Keeps (World.Spares trail) (localSteps node : Run η Value) :=
    .bind .read fun _ => .bind (keeps.grows (.ofExcept _)) fun text =>
      keeps.grows (Block.read_onlyGrows text)
  unfold runLocal
  refine .bind (.of_keeps (keeps.grows (Scope.makeSpecialChild_onlyGrows _ _ _)) fun _ _ fails =>
    (by cases fails)) fun running mid binds => .framed ?_
  rw [localSteps_bind]
  exact .bind (.of_keeps reads fun _ _ fails => .reading binds fails) fun block read parsed =>
    (runBlock_tracks inner running block read).imp fun _ => .locally binds parsed

omit inner

theorem runsOn : ∀ fuel, RunsOn host trail fuel
  | 0 => ⟨fun _ _ _ => .exhaust,fun _ _ _ _ => .exhaust,fun _ _ _ => .exhaust,
    fun _ _ _ => .exhaust,fun _ _ _ _ _ => .exhaust⟩
  | fuel + 1 => by
    have inner := runsOn fuel
    exact ⟨fire_tracks spares inner,runHandler_tracks spares inner,runStep_tracks spares inner,
      settle_tracks spares inner,runLocal_tracks spares inner⟩

end Running
section
open Told (entering reporting)

/-- The handler of `go`. -/
def lost : Handler := ⟨"- log: start\n- call: /nowhere",none,false⟩

/-- The handler of `go` calls what is not there, inside a frame of the host. -/
def calling : World (List Address) := (Page.binding [("go",lost)]).entered 0 "host"

end

end Handler
end PageRuntime
