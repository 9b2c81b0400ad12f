import PageRuntime.Proofs.BatchClosing
import PageRuntime.Proofs.LikeNodes
import PageRuntime.Proofs.LikeSetops

/-! Worlds that are alike: their runtimes are, and their hosts are in related states. Records, sweeps and the
closing of a batch go on alike in them if what the host runs does. -/
namespace PageRuntime
open PageRuntime.Act (Follows)

variable {η α β γ δ : Type}

/-- How the states of two hosts are related, given which objects are paired. -/
abbrev Likewise (η : Type) := Link → η → η → Prop

/-- States that are related stay so as more objects are paired. -/
def Likewise.Lasts (same : Likewise η) : Prop :=
  ∀ link more h k, link.Le more → same link h k → same more h k

structure World.Twin (same : Likewise η) (link : Link) (w other : World η) : Prop where
  runtime : w.runtime.Twin link other.runtime
  host : same link w.host other.host

/-- Both worlds have gone on to worlds that are alike, changing nothing that was not paired. -/
structure World.Onward (same : Likewise η) (link : Link) (w other after otherAfter : World η) :
    Prop where
  runtime : w.runtime.Onward link other.runtime after.runtime otherAfter.runtime
  host : same (link.extend w.runtime.store other.runtime.store after.runtime.store) after.host
    otherAfter.host

variable {same : Likewise η} {link : Link} {w other mid otherMid after otherAfter : World η}

theorem World.Onward.twin (onward : World.Onward same link w other after otherAfter) :
    after.Twin same (link.extend w.runtime.store other.runtime.store after.runtime.store)
      otherAfter := ⟨onward.runtime.twin,onward.host⟩

theorem World.Onward.trans (first : World.Onward same link w other mid otherMid)
    (second : World.Onward same (link.extend w.runtime.store other.runtime.store mid.runtime.store) mid
      otherMid after otherAfter) : World.Onward same link w other after otherAfter where
  runtime := first.runtime.trans second.runtime
  host := by
    rw [← first.runtime.paced.extend second.runtime.paced]
    exact second.host

theorem World.Onward.of_runtime (lasts : same.Lasts) (twin : w.Twin same link other)
    (runtime : w.runtime.Onward link other.runtime after.runtime otherAfter.runtime)
    (host : after.host = w.host) (otherHost : otherAfter.host = other.host) :
    World.Onward same link w other after otherAfter where
  runtime := runtime
  host := by
    rw [host,otherHost]
    exact lasts _ _ _ _ (link.le_extend _ _ _) twin.host

namespace Run

/-- Whichever way one run ends, so does the other, in worlds that are alike. -/
def Matches (same : Likewise η) (link : Link) (w other : World η) (rel : Link → α → β → Prop)
    (run : Run η α) (otherRun : Run η β) : Prop :=
  ∀ ending after, run w = (ending,after) → ∃ otherEnding otherAfter,
    otherRun other = (otherEnding,otherAfter) ∧ World.Onward same link w other after otherAfter ∧
      ending.Alike (rel (link.extend w.runtime.store other.runtime.store after.runtime.store))
        (link.extend w.runtime.store other.runtime.store after.runtime.store .failure) otherEnding

/-- If one run ends with a value then so does the other, with a related one, in worlds that are alike. -/
def Follows (same : Likewise η) (link : Link) (w other : World η) (rel : Link → α → β → Prop)
    (run : Run η α) (otherRun : Run η β) : Prop :=
  ∀ x after, run w = (.done x,after) → ∃ y otherAfter, otherRun other = (.done y,otherAfter) ∧
    World.Onward same link w other after otherAfter ∧
      rel (link.extend w.runtime.store other.runtime.store after.runtime.store) x y

namespace Follows

variable {rel : Link → α → β → Prop} {relNext : Link → γ → δ → Prop} {run : Run η α}
  {otherRun : Run η β}

theorem of_matches (matched : Matches same link w other rel run otherRun) :
    Follows same link w other rel run otherRun := by
  intro x after ran
  obtain ⟨_,otherAfter,otherRan,onward,ends⟩ := matched _ after ran
  cases ends with
  | done related => exact ⟨_,otherAfter,otherRan,onward,related⟩

theorem bind {next : α → Run η γ} {otherNext : β → Run η δ}
    (first : Follows same link w other rel run otherRun)
    (later : ∀ mid otherMid x y, World.Onward same link w other mid otherMid →
      rel (link.extend w.runtime.store other.runtime.store mid.runtime.store) x y →
      Follows same (link.extend w.runtime.store other.runtime.store mid.runtime.store) mid otherMid
        relNext (next x) (otherNext y)) :
    Follows same link w other relNext (run >>= next) (otherRun >>= otherNext) := by
  intro z after ran
  obtain ⟨x,mid,ranFirst,ranNext⟩ := Step.done_of_bind ran
  obtain ⟨y,otherMid,otherFirst,onward,related⟩ := first x mid ranFirst
  obtain ⟨v,otherAfter,otherRan,further,relatedNext⟩ :=
    later mid otherMid x y onward related z after ranNext
  refine ⟨v,otherAfter,(Step.bind_done otherFirst).trans otherRan,onward.trans further,?_⟩
  rw [← onward.runtime.paced.extend further.runtime.paced]
  exact relatedNext

/-- A failure that is caught is met on both sides. -/
theorem attempt_bind {next : Except Address α → Run η γ} {otherNext : Except Address β → Run η δ}
    (first : Matches same link w other rel run otherRun)
    (value : ∀ mid otherMid x y, World.Onward same link w other mid otherMid →
      rel (link.extend w.runtime.store other.runtime.store mid.runtime.store) x y →
      Follows same (link.extend w.runtime.store other.runtime.store mid.runtime.store) mid otherMid
        relNext (next (.ok x)) (otherNext (.ok y)))
    (failed : ∀ mid otherMid f g, World.Onward same link w other mid otherMid →
      link.extend w.runtime.store other.runtime.store mid.runtime.store .failure f g →
      Follows same (link.extend w.runtime.store other.runtime.store mid.runtime.store) mid otherMid
        relNext (next (.error f)) (otherNext (.error g))) :
    Follows same link w other relNext (Step.attempt run >>= next)
      (Step.attempt otherRun >>= otherNext) := by
  intro z after ran
  cases began : run w with
  | mk result mid =>
    obtain ⟨otherResult,otherMid,otherFirst,onward,ends⟩ := first result mid began
    have goesOn {x : Except Address α} {y : Except Address β}
        (later : Follows same (link.extend w.runtime.store other.runtime.store mid.runtime.store) mid
          otherMid relNext (next x) (otherNext y)) (here : Step.attempt run w = (.done x,mid))
        (there : Step.attempt otherRun other = (.done y,otherMid)) :
        ∃ y otherAfter, (Step.attempt otherRun >>= otherNext) other = (.done y,otherAfter) ∧
          World.Onward same link w other after otherAfter ∧
            relNext (link.extend w.runtime.store other.runtime.store after.runtime.store) z y := by
      rw [Step.bind_done here] at ran
      obtain ⟨v,otherAfter,otherRan,further,related⟩ := later z after ran
      refine ⟨v,otherAfter,(Step.bind_done there).trans otherRan,onward.trans further,?_⟩
      rw [← onward.runtime.paced.extend further.runtime.paced]
      exact related
    cases ends with
    | done related =>
      exact goesOn (value mid otherMid _ _ onward related) (Step.attempt_done began)
        (Step.attempt_done otherFirst)
    | raised linked =>
      exact goesOn (failed mid otherMid _ _ onward linked) (Step.attempt_raised began)
        (Step.attempt_raised otherFirst)
    | exhausted =>
      rw [Step.bind_exhausted (Step.attempt_exhausted began)] at ran
      cases ran

/-- A run that goes on alike from a closed world leaves a closed world. -/
theorem closed {run : Run η α} {rel : Link → α → α → Prop}
    (follows : Follows same w.runtime.store.identity w w rel run run) {x : α}
    (ran : run w = (.done x,after)) : after.Twin same after.runtime.store.identity after ∧
      rel after.runtime.store.identity x x := by
  obtain ⟨y,otherAfter,otherRan,onward,related⟩ := follows x after ran
  obtain ⟨again,rfl⟩ := Prod.mk.inj (ran.symm.trans otherRan)
  obtain rfl := Outcome.done.inj again
  have twin := onward.twin
  have whole : w.runtime.store.identity.extend w.runtime.store w.runtime.store after.runtime.store =
      after.runtime.store.identity := Store.identity_extend fun shelf => by
    obtain ⟨n,size,-⟩ := onward.runtime.paced shelf
    omega
  rw [whole] at related twin
  exact ⟨twin,related⟩

theorem fail (fault : Fault) (otherRun : Run η β) :
    Follows same link w other rel ((Act.fail fault : Act α) : Run η α) otherRun := by
  rintro x after ⟨⟩

theorem read {next : World η → Run η γ} {otherNext : World η → Run η δ}
    (later : Follows same link w other relNext (next w) (otherNext other)) :
    Follows same link w other relNext (Step.read >>= next) (Step.read >>= otherNext) := later

/-- Results that are the same are used where they are found. -/
theorem bind_ofExcept {result : Except Fault α} {otherResult : Except Fault β} {next : α → Run η γ}
    {otherNext : β → Run η δ} (yields : Yields (rel link) result otherResult)
    (later : ∀ x y, rel link x y → Follows same link w other relNext (next x) (otherNext y)) :
    Follows same link w other relNext ((Act.ofExcept result : Run η α) >>= next)
      ((Act.ofExcept otherResult : Run η β) >>= otherNext) := by
  cases result with
  | error fault => exact fail fault _
  | ok x =>
    obtain ⟨y,rfl,related⟩ := yields x rfl
    exact later x y related

variable (lasts : same.Lasts) (twin : w.Twin same link other)
include lasts twin

/-- What the runtimes do alone leaves the hosts as they are. -/
theorem lift {act : Act α} {otherAct : Act β}
    (follows : Act.Follows link w.runtime other.runtime rel act otherAct) :
    Follows same link w other rel (act : Run η α) (otherAct : Run η β) := by
  intro x after ran
  obtain ⟨ran,host⟩ := Run.of_ofAct ran
  obtain ⟨y,otherAfter,otherRan,onward,related⟩ := follows x _ ran
  exact ⟨y,_,Run.ofAct_run otherRan,.of_runtime lasts twin onward host rfl,related⟩

theorem pure {x : α} {y : β} (related : rel link x y) :
    Follows same link w other rel (Pure.pure x) (Pure.pure y) := by
  rintro _ _ ⟨⟩
  refine ⟨y,other,rfl,.of_runtime lasts twin (.refl twin.runtime) rfl rfl,?_⟩
  rw [link.extend_of_sizes fun _ => rfl]
  exact related

end Follows
end Run

/-- What the host runs for refreshes and for markup goes on alike in worlds that are alike. -/
structure Host.EvenHanded (host : Host η) (same : Likewise η) : Prop where
  lasts : same.Lasts
  refresh : ∀ token link w other, w.Twin same link other →
    Run.Matches same link w other (fun _ _ _ => True) (host.refresh token) (host.refresh token)
  parse : ∀ parse, host.parseMarkup = some parse → ∀ text link w other, w.Twin same link other →
    Run.Matches same link w other Node.Linked (parse text) (parse text)

theorem Runtime.Alike.registry {r otherR : Runtime} (alike : r.Alike link otherR) :
    otherR.registry = r.registry :=
  show otherR.surroundings.registry = r.surroundings.registry by rw [alike.surroundings]

theorem Runtime.Twin.registry {r otherR : Runtime} (twin : r.Twin link otherR)
    (f : Registry → Registry) : ({ r with registry := f r.registry } : Runtime).Twin link
      { otherR with registry := f otherR.registry } := by
  have same : ({ otherR.surroundings with registry := f r.registry } : Runtime) =
      { r.surroundings with registry := f r.registry } := by rw [twin.alike.surroundings]
  refine ⟨⟨twin.alike.store,twin.alike.roots,twin.alike.document,?_⟩,twin.handles⟩
  rw [twin.alike.registry]
  exact same

/-- What is logged makes no difference. -/
theorem Journal.logFailure_follows {r otherR : Runtime} (twin : r.Twin link otherR)
    (text otherText : String) (failure otherFailure : Address) :
    Act.Follows link r otherR (fun _ _ _ => True) (logFailure text failure)
      (logFailure otherText otherFailure) := by
  intro x after ran
  rw [logFailure_run] at ran
  cases ran
  exact ⟨(),_,logFailure_run _ _ _,.of_stores rfl rfl (twin.journal _ _),trivial⟩

open PageRuntime.Run (Follows)

namespace Sweep

variable (lasts : same.Lasts) (twin : w.Twin same link other)
include lasts twin

theorem change_follows (f : Registry → Registry) : Follows same link w other (fun _ _ _ => True)
    (change f : Run η Unit) (change f : Run η Unit) := by
  refine .lift lasts twin ?_
  rintro _ _ ⟨⟩
  exact ⟨(),_,rfl,.of_stores rfl rfl (twin.runtime.registry f),trivial⟩

/-- Inside a batch a sweep only notes what it selects. -/
theorem run_follows (host : Host η) (wanted : String → Bool) (inside : 0 < w.depth) :
    Follows same link w other (fun _ _ _ => True) (run host wanted) (run host wanted) := by
  have registry := twin.runtime.alike.registry
  have otherInside : 0 < other.depth := by
    rw [World.depth,registry]
    exact inside
  intro x after ran
  rw [run_inside host wanted inside] at ran
  cases ran
  obtain ⟨_,_,otherRan,onward,-⟩ := change_follows lasts twin (·.use (.sweep wanted)) () _ rfl
  exact ⟨_,_,run_inside host wanted otherInside,by cases otherRan; exact onward,trivial⟩

theorem refreshFailed_follows (registration : Registration) (failure otherFailure : Address) :
    Follows same link w other (fun _ _ _ => True) (refreshFailed registration failure : Run η Unit)
      (refreshFailed registration otherFailure : Run η Unit) := by
  exact .lift lasts twin (.store (Journal.logFailure_follows twin.runtime _ _ _ _))

end Sweep

theorem Document.put_follows {r otherR : Runtime} {a b : Address} (twin : r.Twin link otherR)
    (linked : link .node a b) : Act.Follows link r otherR (fun _ _ _ => True) (put (some a))
      (put (some b)) := by
  rintro x after ⟨⟩
  exact ⟨(),_,rfl,.of_stores rfl rfl ⟨⟨twin.alike.store,twin.alike.roots,.some linked,
    twin.alike.surroundings⟩,twin.handles⟩,trivial⟩

section Hosted

variable {host : Host η} (even : host.EvenHanded same) (twin : w.Twin same link other)
include even twin

namespace Sweep

theorem refresh_follows (registration : Registration) : Follows same link w other (fun _ _ _ => True)
    (refresh host registration) (refresh host registration) := by
  refine .read ?_
  rw [twin.runtime.alike.registry]
  dsimp only
  split
  · exact .pure even.lasts twin trivial
  · split
    · exact change_follows even.lasts twin _
    · refine .attempt_bind (even.refresh _ link w other twin) (fun mid otherMid _ _ onward _ => ?_)
        fun mid otherMid f g onward _ => ?_
      · exact .pure even.lasts onward.twin trivial
      · exact refreshFailed_follows even.lasts onward.twin registration f g

theorem refreshAll_follows (waiting : List Registration) : Follows same link w other
    (fun _ _ _ => True) (refreshAll host waiting) (refreshAll host waiting) := by
  induction waiting generalizing link w other with
  | nil => exact .pure even.lasts twin trivial
  | cons registration waiting ih =>
    exact .bind (refresh_follows even twin registration) fun mid otherMid _ _ onward _ => ih onward.twin

theorem leave_follows : Follows same link w other (fun _ _ _ => True) (leave host) (leave host) := by
  refine .bind (change_follows even.lasts twin _) fun mid otherMid _ _ onward _ => .read ?_
  rw [onward.runtime.twin.alike.registry]
  dsimp only
  split
  · refine .bind (change_follows even.lasts onward.twin _) fun last otherLast _ _ further _ => ?_
    exact refreshAll_follows even further.twin _
  · exact .pure even.lasts onward.twin trivial

end Sweep

theorem Document.replace_follows {payload otherPayload : Value} (alike : payload.Alike link otherPayload) :
    Follows same link w other (fun _ _ _ => True) (replace host payload) (replace host otherPayload) := by
  have formed (mapping : payload.isMapping = otherPayload.isMapping) : Follows same link w other Node.Linked
      (if payload.isMapping then Node.ofValue payload else do
        let s := (← Step.read).runtime.store
        Act.fail (α := Address) (.badDocument (s.typeName payload)))
      (if otherPayload.isMapping then Node.ofValue otherPayload else do
        let s := (← Step.read).runtime.store
        Act.fail (α := Address) (.badDocument (s.typeName otherPayload))) := by
    rw [← mapping]
    split
    · exact .lift even.lasts twin (Node.ofValue_follows twin.runtime alike)
    · exact .read (.fail _ _)
  have read : Follows same link w other Node.Linked (ofPayload host payload)
      (ofPayload host otherPayload) := by
    unfold ofPayload
    cases alike with
    | node linked => exact .pure even.lasts twin linked
    | str text =>
      dsimp only
      cases given : host.parseMarkup with
      | some parse => exact .of_matches (even.parse parse given text link w other twin)
      | none => exact .fail _ _
    | _ => exact formed rfl
  refine .bind read fun mid otherMid a b onward linked => ?_
  exact .lift even.lasts onward.twin (put_follows onward.runtime.twin linked)

namespace ActionBatch

variable (inside : 0 < w.depth)
include inside

theorem sweep_follows {action otherAction : Action} (alike : action.Alike link otherAction) :
    Follows same link w other (fun _ _ _ => True) (sweep host action) (sweep host otherAction) := by
  have swept (wanted : String → Bool) : Follows same link w other (fun _ _ _ => True)
      (Sweep.run host wanted) (Sweep.run host wanted) :=
    Sweep.run_follows even.lasts twin host wanted inside
  unfold sweep
  rw [alike.selector]
  dsimp only
  split
  · exact .bind (swept _) fun _ _ _ _ onward _ => .pure even.lasts onward.twin trivial
  · have chosen : Follows same link w other (fun _ _ _ => True)
        (Sweep.invalidatePattern host (action.selector.getD ""))
        (Sweep.invalidatePattern host (action.selector.getD "")) := by
      unfold Sweep.invalidatePattern
      split
      · exact swept _
      · exact .fail _ _
    exact .bind chosen fun _ _ _ _ onward _ => .pure even.lasts onward.twin trivial

variable {scope otherScope : Address} (linked : link .scope scope otherScope)
include linked

theorem apply_follows {action otherAction : Action} (alike : action.Alike link otherAction) :
    Follows same link w other (fun _ _ _ => True) (apply host scope action)
      (apply host otherScope otherAction) := by
  unfold apply
  rw [alike.kind]
  cases action.kind with
  | setData => exact .lift even.lasts twin (applyData_completes alike twin.runtime linked)
  | blob => exact .lift even.lasts twin (applyBlob_completes alike twin.runtime linked)
  | extendBlob => exact .lift even.lasts twin (extendBlob_completes alike twin.runtime linked)
  | invalidate => exact sweep_follows even twin inside alike
  | html => exact Document.replace_follows even twin alike.data

/-- A record that is applied in one world is applied in the other. -/
theorem attemptRecord_follows {record otherRecord returned otherReturned : Value}
    (alike : record.Alike link otherRecord) (before : returned.Alike link otherReturned)
    (captureOnly : Bool) : Follows same link w other Value.Alike
      (attemptRecord host scope captureOnly record returned)
      (attemptRecord host otherScope captureOnly otherRecord otherReturned) := by
  refine .read (.bind_ofExcept (Action.ofRecord_yields twin.runtime.alike.store alike) ?_)
  intro action otherAction decoded
  rw [decoded.kind,decoded.selector]
  split
  · exact .lift even.lasts twin (capture_follows decoded twin.runtime before)
  · split
    · exact .pure even.lasts twin before
    · refine .bind (apply_follows even twin inside linked decoded) fun _ _ _ _ onward _ => ?_
      exact .pure even.lasts onward.twin (before.mono (link.le_extend _ _ _))

end ActionBatch
end Hosted

end PageRuntime
