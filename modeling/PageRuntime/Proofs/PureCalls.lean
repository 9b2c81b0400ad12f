import PageRuntime.Proofs.ActiveFrames
import PageRuntime.Proofs.CaptureOnly
import PageRuntime.Proofs.HarmlessHosts

/-! Pure calls. Modules that keep their hands off the runtime change nothing of it, and the actions
in their answers are captured only. The block of a local handler is not told that its call is pure:
its steps have their effects all the same, so a pure call leaves things as they are until one of
these is started. -/
namespace PageRuntime

variable {η α β : Type}

/-- A record of the batch, which only captures, puts octets at the end of a blob that an earlier one
has given as the value. -/
def ActionBatch.Extends (host : Host η) (actions : Value) (w : World η) (a : Address) : Prop :=
  ∃ before stage rest, capturing host actions w = before ++ stage :: rest ∧ stage.added a ≠ [] ∧
    ∃ taking ∈ before, taking.Takes (.blob a)

/-- What was there is as it was, but for trails of the run's own, and for octets at the end of blobs
that captured batches have put there. -/
structure World.Intact (host : Host η) (own : Address → Prop) (captures : Value → World η → Prop)
    (w after : World η) : Prop where
  frame : after.runtime.frame = w.runtime.frame
  inside : ∀ shelf a, a < w.runtime.store.sizeOf shelf → a < after.runtime.store.sizeOf shelf
  objects : ∀ shelf a, a < w.runtime.store.sizeOf shelf → shelf ≠ .blob → shelf ≠ .trail →
    after.runtime.store.object shelf a = w.runtime.store.object shelf a
  trails : ∀ trail, ¬ own trail → w.Spares trail after
  blobs : ∀ a, a < w.runtime.store.sizeOf .blob →
    after.runtime.store.blobAt a = w.runtime.store.blobAt a ∨
      (∃ more, after.runtime.store.blobAt a =
        { w.runtime.store.blobAt a with data := (w.runtime.store.blobAt a).data ++ more }) ∧
      ∃ actions there, captures actions there ∧ ActionBatch.Extends host actions there a

namespace World.Intact

variable {host : Host η} {own other : Address → Prop} {captures more : Value → World η → Prop}
  {w mid after : World η}

theorem of_grew (grew : w.Grew after) : Intact host own captures w after where
  frame := grew.frame
  inside shelf a inside := (grew.store shelf a inside).1
  objects shelf a inside _ _ := (grew.store shelf a inside).2
  trails trail _ := grew.store.spares trail
  blobs a inside := .inl (Object.blob.inj (grew.store .blob a inside).2)

theorem trans (first : Intact host own captures w mid) (second : Intact host own captures mid after) :
    Intact host own captures w after where
  frame := second.frame.trans first.frame
  inside shelf a inside := second.inside shelf a (first.inside shelf a inside)
  objects shelf a inside blob trail :=
    (second.objects shelf a (first.inside shelf a inside) blob trail).trans
      (first.objects shelf a inside blob trail)
  trails trail apart := (first.trails trail apart).trans (second.trails trail apart)
  blobs a inside := by
    obtain same | ⟨⟨octets,ends⟩,given⟩ := first.blobs a inside
    · exact same ▸ second.blobs a (first.inside .blob a inside)
    · refine .inr ⟨?_,given⟩
      obtain same | ⟨⟨further,ended⟩,-⟩ := second.blobs a (first.inside .blob a inside)
      · exact ⟨octets,same.trans ends⟩
      · exact ⟨octets ++ further,by rw [ended,ends,List.append_assoc]⟩

theorem imp (intact : Intact host own captures w after)
    (weaker : ∀ actions there, captures actions there → more actions there) :
    Intact host own more w after :=
  { intact with
    blobs := fun a inside => (intact.blobs a inside).imp_right fun ⟨ends,actions,there,given,extends_⟩ =>
      ⟨ends,actions,there,weaker actions there given,extends_⟩ }

/-- Trails that have come since are nobody's. -/
theorem disown (intact : Intact host own captures w after)
    (theirs : ∀ trail, trail < w.runtime.store.trails.size → own trail → other trail) :
    Intact host other captures w after :=
  { intact with
    trails := fun trail apart present =>
      intact.trails trail (fun mine => apart (theirs trail present mine)) present }

theorem registry (intact : Intact host own captures w after) :
    after.runtime.registry = w.runtime.registry :=
  show after.runtime.frame.registry = w.runtime.frame.registry by rw [intact.frame]

theorem putTrail {trail : Address} (mine : own trail) (frames : List String) :
    Intact host own captures w
      { w with runtime.store := w.runtime.store.putTrail trail frames } := by
  have puts := w.runtime.store.putTrail_puts trail frames
  refine ⟨rfl,fun shelf a inside => ?_,fun shelf a _ _ off => puts.others shelf a (.inl off),
    fun other apart => ?_,fun a _ => .inl (Object.blob.inj (puts.others .blob a (.inl nofun)))⟩
  · rwa [puts.sizes]
  · have differ : other ≠ trail := fun same => apart (same ▸ mine)
    exact Store.putTrail_spares differ frames

end World.Intact

/-- Nothing waits for the end of a batch while none is open. -/
def World.Settled (w : World η) : Prop := w.depth = 0 → w.runtime.registry.pending = []

theorem World.Intact.settled {host : Host η} {own : Address → Prop}
    {captures : Value → World η → Prop} {w after : World η}
    (intact : Intact host own captures w after) (settled : w.Settled) : after.Settled := by
  unfold Settled World.depth at settled ⊢
  rw [intact.registry]
  exact settled

namespace ActionBatch

/-- Where a record puts octets at the end of a blob, that was the value. -/
theorem Stage.returned_of_added {stage : Stage} {a : Address} (some : stage.added a ≠ []) :
    stage.returned = .blob a := by
  unfold Stage.added at some
  split at some
  · by_cases held : stage.returned = .blob a
    · exact held
    · exact absurd (if_neg fun both => held both.2) some
  · exact absurd rfl some

theorem process_intact {host : Host η} {own : Address → Prop} {actions : Value} {w : World η}
    (given : actions ≠ .null) (settled : w.Settled) :
    World.Intact host own (fun taken there => taken = actions ∧ there = w) w
      (process host actions true w).2 := by
  cases ran : process host actions true w with
  | mk ending after =>
    obtain ⟨gained,-,-⟩ := process_gained given settled ran
    refine ⟨gained.frame,gained.inside,fun shelf a inside blob _ =>
      gained.objects shelf a inside blob,fun trail _ present => ?_,fun a inside => ?_⟩
    · exact ⟨gained.inside .trail trail present,
        Object.trail.inj (gained.objects .trail trail present nofun)⟩
    · have ends := gained.blobs a inside
      by_cases nothing : (capturing host actions w).flatMap (·.added a) = []
      · rw [nothing,List.append_nil] at ends
        exact .inl ends
      · refine .inr ⟨⟨_,ends⟩,actions,w,⟨rfl,rfl⟩,?_⟩
        simp only [List.flatMap_eq_nil_iff,not_forall] at nothing
        obtain ⟨stage,member,some⟩ := nothing
        obtain ⟨before,rest,reached⟩ := List.append_of_mem member
        exact ⟨before,stage,rest,reached,some,
          capturing_taken reached (Stage.returned_of_added some) inside⟩

end ActionBatch

theorem Action.listIn?_list {s : Store} {answer actions : Value}
    (listed : listIn? s answer = some actions) : ∃ a, actions = .list a := by
  unfold listIn? at listed
  cases held : s.mapping? answer with
  | none =>
    rw [held] at listed
    cases listed
  | some d =>
    rw [held] at listed
    have isList := List.find?_some listed
    cases actions with
    | list a => exact ⟨a,rfl⟩
    | _ => cases isList

namespace Handler

/-- What shows on the way of a pure call: a step that is started, or a batch that is captured. -/
inductive Happening
  | step (step : Dict)
  | batch (actions : Value)

/-- The trail that a local handler runs on: the one of its call, or a new one. -/
def trailOf (given : Option Address) : Act Address := given.elim (Trail.make []) pure

/-- The run of the activity comes to this, and the world is then as given. -/
inductive Comes (host : Host η) (trail : Address) :
    Nat → Activity → World η → Happening → World η → Prop
  | started {fuel : Nat} {scope : Address} {step : Dict} {w : World η} :
      Comes host trail fuel (.step scope step) w (.step step) w
  | first {fuel : Nat} {scope : Address} {v : Value} {rest : List Value} {w there : World η}
      {what : Happening}
      (inside : Comes host trail fuel (.step scope (w.runtime.store.entries v)) w what there) :
      Comes host trail fuel (.steps scope (v :: rest)) w what there
  | later {fuel : Nat} {scope : Address} {v : Value} {rest : List Value} {w mid there : World η}
      {what : Happening}
      (ran : runStep host fuel scope trail (w.runtime.store.entries v) w = (.done none,mid))
      (inside : Comes host trail fuel (.steps scope rest) mid what there) :
      Comes host trail fuel (.steps scope (v :: rest)) w what there
  | awaiting {fuel : Nat} {scope : Address} {step : Dict} {written arguments : Value}
      {path : String} {pending : Pending} {w mid made there : World η} {what : Happening}
      (leads : nesting step = .call written) (named : w.runtime.store.display written = path)
      (argued : (argumentsOf scope step : Run η Value) w = (.done arguments,mid))
      (starts : Gateway.start host (.str path) arguments (some trail) true
        (mid.entered trail (callFrame path)) = (.done pending,made))
      (inside : Comes host trail fuel (.call pending) made what there) :
      Comes host trail (fuel + 1) (.step scope step) w what there
  | captured {fuel : Nat} {pending : Pending} {answer actions : Value} {w mid : World η}
      (answered : answerOf host fuel pending w = (.done answer,mid))
      (listed : Action.listIn? mid.runtime.store answer = some actions) :
      Comes host trail (fuel + 1) (.call pending) w (.batch actions) mid
  | within {fuel : Nat} {node scope : Address} {name : String} {request : Request}
      {w mid made there : World η} {what : Happening}
      (rooted : (Scope.makeRoot : Run η Address) w = (.done scope,mid))
      (placed : (trailOf request.trail : Run η Address) mid = (.done trail,made))
      (inside : Comes host trail fuel (.localBlock node request.data scope name) made what there) :
      Comes host trail (fuel + 1) (.call (.localBlock node name request)) w what there
  | locally {fuel : Nat} {node scope running : Address} {data block : Value} {name : String}
      {w mid read there : World η} {what : Happening}
      (binds : (Scope.makeSpecialChild scope (Dict.put [] "params" data)
        (.described ("local handler " ++ name)) : Run η Address) w = (.done running,mid))
      (parsed : localSteps node (mid.entered trail (localFrame name)) = (.done block,read))
      (inside : Comes host trail fuel (.steps running (read.runtime.store.members block)) read
        what there) :
      Comes host trail (fuel + 1) (.localBlock node data scope name) w what there

/-- The step has effects of its own: it writes, fires, sweeps or applies actions, or its call is not
pure or goes into a location. -/
def Effectful (s : Store) (step : Dict) : Prop :=
  match nesting step with
  | .event => True
  | .call _ => s.isTrue (step.field "pure") = false ∨ step.field "into" ≠ .null
  | .nothing => step.field? "return" = none ∧
    (step.field? "set" ≠ none ∨ step.field? "invalidate" ≠ none ∨ step.field? "actions" ≠ none)

/-- From this world the run leaves all there was intact, or it comes to a step with effects and has
left all intact until then. -/
def Guarded (host : Host η) (own : Address → Prop) (happens : Happening → World η → Prop)
    (run : Run η α) (w : World η) : Prop :=
  World.Intact host own (happens <| .batch ·) w (run w).2 ∨
    ∃ step there, happens (.step step) there ∧
      World.Intact host own (happens <| .batch ·) w there ∧ Effectful there.runtime.store step

namespace Guarded

variable {host : Host η} {own : Address → Prop} {happens inner : Happening → World η → Prop}
  {w : World η}

theorem imp {run : Run η α} (guarded : Guarded host own inner run w)
    (weaker : ∀ what there, inner what there → happens what there) :
    Guarded host own happens run w := by
  obtain intact | ⟨step,there,come,intact,effect⟩ := guarded
  · exact .inl (intact.imp fun _ _ => weaker _ _)
  · exact .inr ⟨step,there,weaker _ _ come,intact.imp fun _ _ => weaker _ _,effect⟩

theorem of_grows {run : Run η α} (grows : Step.Keeps World.Grew run) :
    Guarded host own happens run w := .inl (.of_grew (grows w))

theorem congr {run other : Run η α} (guarded : Guarded host own happens other w)
    (same : run w = other w) : Guarded host own happens run w := by
  unfold Guarded at guarded ⊢
  rwa [same]

theorem exhaust : Guarded host own happens (Step.exhaust : Run η α) w := of_grows .exhaust

theorem pure (x : α) : Guarded host own happens (Pure.pure x : Run η α) w := of_grows (.pure x)

/-- What is done later need be guarded only in worlds that are intact. -/
theorem bind {first : Run η α} {next : α → Run η β} (guarded : Guarded host own happens first w)
    (later : ∀ x mid, first w = (.done x,mid) → World.Intact host own (happens <| .batch ·) w mid →
      Guarded host own happens (next x) mid) :
    Guarded host own happens (first >>= next) w := by
  obtain intact | early := guarded
  · unfold Guarded
    rw [Step.bind_run]
    cases ran : first w with
    | mk ending mid =>
      rw [ran] at intact
      cases ending with
      | done x =>
        obtain onward | ⟨step,there,come,onward,effect⟩ := later x mid ran intact
        · exact .inl (intact.trans onward)
        · exact .inr ⟨step,there,come,intact.trans onward,effect⟩
      | raised failure => exact .inl intact
      | exhausted => exact .inl intact
  · exact .inr early

theorem look {next : World η → Run η α} (guarded : Guarded host own happens (next w) w) :
    Guarded host own happens (Step.read >>= next) w := guarded

theorem framed {trail : Address} (mine : own trail) {frame : String} {step : Run η α}
    (guarded : Guarded host own happens step (w.entered trail frame)) :
    Guarded host own happens (Handler.framed trail frame step) w := by
  refine bind (.inl (.putTrail mine _)) fun _ mid entered _ => ?_
  cases entered
  refine bind guarded fun x mid _ _ => ?_
  exact bind (.inl (.putTrail mine _)) fun _ _ _ _ => pure _

theorem disown {other : Address → Prop} {run : Run η α} (guarded : Guarded host own happens run w)
    (theirs : ∀ trail, trail < w.runtime.store.trails.size → own trail → other trail) :
    Guarded host other happens run w := by
  obtain intact | ⟨step,there,come,intact,effect⟩ := guarded
  · exact .inl (intact.disown theirs)
  · exact .inr ⟨step,there,come,intact.disown theirs,effect⟩

end Guarded

/-- A step that neither has effects nor leads on only answers. -/
theorem runStep_grows {host : Host η} {s : Store} {step : Dict} (fuel : Nat) (scope trail : Address)
    (leads : nesting step = .nothing) (idle : ¬ Effectful s step) :
    Step.Keeps World.Grew (runStep host (fuel + 1) scope trail step) := by
  have argument (v : Value) : Step.Keeps World.Grew (Block.argument scope v : Run η Value) :=
    .of_only (Block.argument_onlyGrows scope v)
  unfold Effectful at idle
  rw [leads] at idle
  dsimp only at idle
  unfold runStep
  refine .bind .read fun w => ?_
  dsimp only
  split
  · exact .bind (argument _) fun _ => .pure _
  split
  · next returns _ _ sets => exact absurd ⟨returns,.inl (by simp [sets])⟩ idle
  next returns _ sets =>
  split
  · next fires => simp [nesting,returns,sets,fires] at leads
  next fires =>
  split
  · next calls => simp [nesting,returns,sets,fires,calls] at leads
  split
  · next sweeps => exact absurd ⟨returns,.inr (.inl (by simp [sweeps]))⟩ idle
  split
  · next applies => exact absurd ⟨returns,.inr (.inr (by simp [applies]))⟩ idle
  split
  · exact .bind (argument _) fun _ => .bind (.of_only (Journal.log_onlyGrows _)) fun _ => .pure _
  · exact .pure _

/-- What is guarded on a trail of the run's own, up to some depth of nesting. -/
structure RunsGuarded (host : Host η) (own : Address → Prop) (trail : Address) (fuel : Nat) :
    Prop where
  runStep : ∀ scope step (w : World η), w.Settled →
    Guarded host own (Comes host trail fuel (.step scope step) w)
      (runStep host fuel scope trail step) w
  settle : ∀ pending (w : World η), w.Settled → pending.request.isPure = true →
    pending.request.trail = some trail →
    Guarded host own (Comes host trail fuel (.call pending) w) (settle host fuel pending) w
  runLocal : ∀ node data scope name (w : World η), w.Settled →
    Guarded host own (Comes host trail fuel (.localBlock node data scope name) w)
      (runLocal host fuel node data scope trail name) w

section Running

variable {host : Host η} {own : Address → Prop} {trail : Address} (harmless : host.Harmless)
  (mine : own trail) {fuel : Nat} (inner : RunsGuarded host own trail fuel)
include harmless mine inner

omit harmless mine in
theorem runBlock_guarded (scope : Address) (block : Value) (w : World η) (settled : w.Settled) :
    Guarded host own (Comes host trail fuel (.steps scope (w.runtime.store.members block)) w)
      (runBlock (runStep host fuel scope trail) block) w := by
  refine .look ?_
  generalize w.runtime.store.members block = items
  induction items generalizing w with
  | nil => exact .pure _
  | cons v rest ih =>
    refine .look (.bind ((inner.runStep _ _ w settled).imp fun _ _ => .first)
      fun result mid ran intact => ?_)
    cases result with
    | some returned => exact .pure _
    | none => exact (ih mid (intact.settled settled)).imp fun _ _ => .later ran

theorem runStep_guarded (scope : Address) (step : Dict) (w : World η) (settled : w.Settled) :
    Guarded host own (Comes host trail (fuel + 1) (.step scope step) w)
      (runStep host (fuel + 1) scope trail step) w := by
  by_cases effect : Effectful w.runtime.store step
  · exact .inr ⟨step,w,.started,.of_grew (.refl w.runtime),effect⟩
  cases leads : nesting step with
  | nothing => exact .of_grows (runStep_grows fuel scope trail leads effect)
  | event =>
    unfold Effectful at effect
    rw [leads] at effect
    exact absurd trivial effect
  | call written =>
    unfold Effectful at effect
    rw [leads] at effect
    simp only [not_or,Bool.not_eq_false,not_not] at effect
    obtain ⟨isPure,nowhere⟩ := effect
    refine .congr ?_ (runStep_call fuel scope trail leads w)
    rw [isPure]
    have argues := World.Grew.of_only (η := η) (argumentsOf_onlyGrows scope step)
    refine .bind (.bind (.of_grows argues) fun arguments mid argued intact => .framed mine
      (.bind (.of_grows (harmless.start _ _ _ _)) fun pending made starts onward => ?_))
        fun v mid _ _ => ?_
    · obtain ⟨_,_,asks⟩ := Gateway.start_request starts
      have entered : (mid.entered trail (callFrame (w.runtime.store.display written))).Settled :=
        intact.settled settled
      refine (inner.settle pending made (onward.settled entered) ?_ ?_).imp fun _ _ =>
        .awaiting leads rfl argued starts
      · rw [asks]
      · rw [asks]
    · refine .bind (.of_grows fun u => ?_) fun _ _ _ _ => .pure _
      have same : (storeInto scope step v : Run η Unit) u = (.done (),u) := by
        unfold storeInto
        rw [nowhere]
        rfl
      rw [same]
      exact .refl u.runtime

omit inner in
theorem answerOf_guarded (inner : RunsGuarded host own trail fuel) (pending : Pending)
    (w : World η) (settled : w.Settled) (placed : pending.request.trail = some trail ∨
      pending.request.trail = none ∧ w.runtime.store.trails.size = trail) :
    Guarded host own (Comes host trail (fuel + 1) (.call pending) w)
      (answerOf host fuel pending) w := by
  cases pending with
  | custom token request => exact .of_grows (harmless.answer _ _)
  | fetch plan request => exact .of_grows (harmless.perform _)
  | localBlock node name request =>
    have takes : answerOf host fuel (.localBlock node name request) = (do
        let scope ← Scope.makeRoot
        let trail ← trailOf request.trail
        runLocal host fuel node request.data scope trail name : Run η Value) := by
      obtain ⟨path,data,given,isPure⟩ := request
      cases given <;> rfl
    rw [takes]
    refine .bind (.of_grows (.of_only Scope.makeRoot_onlyGrows)) fun scope mid rooted intact =>
      .bind (.of_grows (.of_only ?_)) fun running made given onward => ?_
    · unfold trailOf
      cases request.trail with
      | some trail => exact .pure trail
      | none => exact .make fun s => s.newTrail_adds []
    · have same : running = trail := by
        cases rooted
        obtain held | ⟨held,new⟩ := placed
        · rw [show request.trail = some trail from held] at given
          cases given
          rfl
        · rw [show request.trail = none from held] at given
          cases given
          exact new
      subst same
      exact (inner.runLocal _ _ _ _ made (onward.settled (intact.settled settled))).imp
        fun _ _ => .within rooted given

theorem settle_guarded (pending : Pending) (w : World η) (settled : w.Settled)
    (isPure : pending.request.isPure = true) (placed : pending.request.trail = some trail ∨
      pending.request.trail = none ∧ w.runtime.store.trails.size = trail) :
    Guarded host own (Comes host trail (fuel + 1) (.call pending) w)
      (settle host (fuel + 1) pending) w := by
  rw [settle_eq]
  refine .bind (answerOf_guarded harmless mine inner pending w settled placed)
    fun answer mid answered intact => ?_
  refine .look ?_
  cases listed : Action.listIn? mid.runtime.store answer with
  | none => exact .pure _
  | some actions =>
    rw [isPure]
    refine .inl ((ActionBatch.process_intact ?_ (intact.settled settled)).imp ?_)
    · rintro rfl
      exact absurd (Action.listIn?_list listed) nofun
    · rintro _ _ ⟨rfl,rfl⟩
      exact .captured answered listed

omit harmless in
theorem runLocal_guarded (node : Address) (data : Value) (scope : Address) (name : String)
    (w : World η) (settled : w.Settled) :
    Guarded host own (Comes host trail (fuel + 1) (.localBlock node data scope name) w)
      (runLocal host (fuel + 1) node data scope trail name) w := by
  have reads : Step.Keeps World.Grew (localSteps node : Run η Value) :=
    .bind .read fun _ => .bind (.of_only (.ofExcept _)) fun text =>
      .of_only (Block.read_onlyGrows text)
  unfold runLocal
  refine .bind (.of_grows (.of_only (Scope.makeSpecialChild_onlyGrows _ _ _)))
    fun running mid binds intact => .framed mine ?_
  rw [localSteps_bind]
  refine .bind (.of_grows reads) fun block read parsed onward => ?_
  have entered : (mid.entered trail (localFrame name)).Settled := intact.settled settled
  exact (runBlock_guarded inner running block read (onward.settled entered)).imp
    fun _ _ => .locally binds parsed

omit inner

theorem runsGuarded : ∀ fuel, RunsGuarded host own trail fuel
  | 0 => ⟨fun _ _ _ _ => .exhaust,fun _ _ _ _ _ => .exhaust,fun _ _ _ _ _ _ => .exhaust⟩
  | fuel + 1 => by
    have inner := runsGuarded fuel
    exact ⟨runStep_guarded harmless mine inner,fun pending w settled isPure placed =>
      settle_guarded harmless mine inner pending w settled isPure (.inl placed),
      runLocal_guarded mine inner⟩

end Running

/-- Only a local handler comes to steps. -/
theorem Comes.of_call {host : Host η} {trail : Address} {fuel : Nat} {pending : Pending}
    {w there : World η} {step : Dict} (comes : Comes host trail fuel (.call pending) w (.step step) there) :
    ∃ node name request, pending = .localBlock node name request := by
  cases comes with
  | within => exact ⟨_,_,_,rfl⟩

end Handler

theorem Gateway.start_local {host : Host η} {path arguments : Value} {trail : Option Address}
    {isPure : Bool} {w after : World η} {node : Address} {name : String} {request : Request}
    (ran : start host path arguments trail isPure w = (.done (.localBlock node name request),after)) :
    ∃ found, readPath w.runtime.store path = .ok found ∧
      w.runtime.modules.lookup found.namespace_ = some .localBlocks := by
  obtain ⟨found,_,_,reads,routes,-,serves⟩ := start_checked ran
  cases serves with
  | localBlock => exact ⟨found,reads,routes⟩

namespace Call
open Handler (Guarded Happening Comes)

/-- A call for data, made and awaited. -/
def data (host : Host η) (fuel : Nat) (path arguments : Value) (trail : Option Address) :
    Run η CallResult := do
  let call ← start host path arguments trail true
  await host fuel call

/-- The call for data is made and its run comes to this. -/
def Sees (host : Host η) (fuel : Nat) (path arguments : Value) (trail : Option Address) (w : World η)
    (what : Happening) (there : World η) : Prop :=
  ∃ pending made running, Gateway.start host path arguments trail true w = (.done pending,made) ∧
    Comes host running fuel (.call pending) made what there

variable {host : Host η} (harmless : host.Harmless)
include harmless

theorem await_guarded {own : Address → Prop} {happens : Happening → World η → Prop} (fuel : Nat)
    (call : Call) {w : World η}
    (settles : Guarded host own happens (Handler.settle host fuel call.pending) w) :
    Guarded host own happens (await host fuel call) w := by
  have attempted : Guarded host own happens
      (Step.attempt (Handler.settle host fuel call.pending)) w := by
    have same : (Step.attempt (Handler.settle host fuel call.pending) w).2 =
        (Handler.settle host fuel call.pending w).2 := by
      unfold Step.attempt
      split <;> rename_i ran <;> rw [ran]
    unfold Guarded at settles ⊢
    rwa [same]
  refine .bind attempted fun result mid _ _ => ?_
  cases result with
  | ok v => exact .pure _
  | error failure =>
    exact .bind (.of_grows (.of_only (Report.make_onlyGrows _))) fun report _ _ _ =>
      .bind (.of_grows (harmless.deliver report)) fun _ _ _ _ => .pure _

theorem data_guarded (fuel : Nat) (path arguments : Value) (trail : Option Address) {w : World η}
    (settled : w.Settled) :
    Guarded host (trail = some ·) (Sees host fuel path arguments trail w)
      (data host fuel path arguments trail) w := by
  -- a call without a trail gets one that was not there when it was made
  let own (a : Address) : Prop := trail = some a ∨ w.runtime.store.trails.size ≤ a
  have starts : Step.Keeps World.Grew (start host path arguments trail true) :=
    .bind (harmless.start _ _ _ _) fun _ => .bind .read fun _ => .pure _
  suffices guarded : Guarded host own (Sees host fuel path arguments trail w)
      (data host fuel path arguments trail) w from
    guarded.disown fun a present mine => mine.resolve_right (Nat.not_le.mpr present)
  refine .bind (.of_grows starts) fun call mid ran intact => ?_
  obtain ⟨pending,_,starts,ran⟩ := Step.done_of_bind ran
  cases ran
  obtain ⟨_,_,asks⟩ := Gateway.start_request starts
  let running := trail.getD mid.runtime.store.trails.size
  have mine : own running := by
    cases trail with
    | some a => exact .inl rfl
    | none =>
      exact .inr (Nat.le_of_not_lt fun less => Nat.lt_irrefl _ (intact.inside .trail _ less))
  have placed : pending.request.trail = some running ∨
      pending.request.trail = none ∧ mid.runtime.store.trails.size = running := by
    rw [asks]
    cases trail with
    | some a => exact .inl rfl
    | none => exact .inr ⟨rfl,rfl⟩
  have settles : Guarded host own (Comes host running fuel (.call pending) mid)
      (Handler.settle host fuel pending) mid := by
    cases fuel with
    | zero => exact .exhaust
    | succ fuel =>
      exact Handler.settle_guarded harmless mine (Handler.runsGuarded harmless mine fuel) pending mid
        (intact.settled settled) (by rw [asks]) placed
  exact await_guarded harmless fuel _ (settles.imp fun what there comes =>
    ⟨pending,mid,running,starts,comes⟩)

omit harmless

/-- A page with a module that answers two actions: one is on the state, the other gives a value. -/
def asked : World Unit where
  runtime := { Page.initial with
    store := { Page.initial.store with
      lists := ⟨#[[.dict 3,.dict 4]]⟩
      dicts := ⟨#[[],[],Dict.put [] "actions" (.list 0),
        Dict.put (Dict.put (Dict.put [] "type" (.str "setdata")) "selector" (.str "$state.a"))
          "data" (.int 5),
        Dict.put (Dict.put (Dict.put [] "type" (.str "setdata")) "selector" (.str "@rtn"))
          "data" (.int 7)]⟩ }
    modules := [("default",.custom 0)] }
  host := ()

def answering : Host Unit := { (Host.idle : Host Unit) with answer := fun _ _ => return .dict 2 }

theorem answering_harmless : answering.Harmless where
  accept _ _ := .pure _
  answer _ _ := .pure _
  csrfHeaders := .pure _
  adjust _ _ w := ⟨rfl,fun _ _ inside => ⟨inside,.inl rfl⟩⟩
  send _ := .pure _
  pause _ := .pure _
  report _ given := by cases given

/-- A page whose document declares a local handler that writes the state. -/
def declaring : World Unit where
  runtime := { Page.initial with
    store := { Page.initial.store with
      nodes := ⟨#[⟨.str "root",[],[1],.null,.null⟩,
        ⟨.str "define-handler",Dict.put [] "name" (.str "/@local/x"),[2],.null,.null⟩,
        ⟨.str "#text",[],[],.null,.str "- set: $state.a\n  value: 1"⟩]⟩ }
    document := some 0 }
  host := ()

end Call
end PageRuntime
