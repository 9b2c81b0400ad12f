import PageRuntime.Proofs.FailedActions
import PageRuntime.Proofs.SharedParts

/-! Actions within a region. If what an action hands over is of the region, and the host stays there,
then so does the action, applied or failed, and so do the refreshes that follow it. -/
namespace PageRuntime

variable {η α β : Type}

/-- As `Act.Stays`, for steps that the host may take part in. -/
def Run.Stays (region : Region) (has : Region → α → Prop) (w : World η) (run : Run η α) : Prop :=
  ∀ ending after, run w = (ending,after) → ∃ wider,
    Runtime.Stays region wider w.runtime after.runtime ∧ ∀ x, ending = .done x → has wider x

/-- The run stays in the region, whatever comes of it. -/
abbrev Run.Remains (region : Region) (w : World η) (run : Run η α) : Prop :=
  Run.Stays region (fun _ _ => True) w run

/-- The refreshes and the markup parser of the host can get at nothing outside the region: they stay in
every region that includes it, if the runtime keeps to that. -/
structure Host.StaysIn (region : Region) (host : Host η) : Prop where
  refresh : ∀ wider w token, (∀ shelf a, region shelf a → wider shelf a) → w.runtime.KeepsTo wider →
    Run.Remains wider w (host.refresh token)
  parse : ∀ parse, host.parseMarkup = some parse → ∀ wider w text,
    (∀ shelf a, region shelf a → wider shelf a) → w.runtime.KeepsTo wider →
      Run.Stays wider (fun region document => region .node document) w (parse text)

theorem Host.StaysIn.mono {host : Host η} {region wider : Region} (stays : host.StaysIn region)
    (gains : ∀ shelf a, region shelf a → wider shelf a) : host.StaysIn wider where
  refresh widest w token more :=
    stays.refresh widest w token fun shelf a held => more shelf a (gains shelf a held)
  parse parse given_ widest w text more :=
    stays.parse parse given_ widest w text fun shelf a held => more shelf a (gains shelf a held)

namespace Run.Stays

variable {region : Region} {w : World η} {has : Region → α → Prop} {hasNext : Region → β → Prop}

theorem pure (keeps : w.runtime.KeepsTo region) {x : α} (here : has region x) :
    Run.Stays region has w (Pure.pure x) := by
  rintro _ _ ⟨⟩
  refine ⟨region,.refl keeps,?_⟩
  rintro _ ⟨⟩
  exact here

theorem done (keeps : w.runtime.KeepsTo region) (x : α) : Run.Remains region w (Pure.pure x) :=
  pure keeps trivial

theorem lift {act : Act α} (stays : Act.Stays region has w.runtime act) :
    Run.Stays region has w (act : Run η α) := by
  intro ending after ran
  exact stays ending after.runtime (Run.of_ofAct ran).1

theorem read {next : World η → Run η β} (later : Run.Stays region hasNext w (next w)) :
    Run.Stays region hasNext w (Step.read >>= next) := later

theorem bind {run : Run η α} {next : α → Run η β} (first : Run.Stays region has w run)
    (later : ∀ mid wider x, Runtime.Stays region wider w.runtime mid.runtime → has wider x →
      Run.Stays wider hasNext mid (next x)) : Run.Stays region hasNext w (run >>= next) := by
  intro ending after ran
  rw [Step.bind_run] at ran
  cases began : run w with
  | mk result mid =>
    obtain ⟨wider,stays,here⟩ := first result mid began
    rw [began] at ran
    cases result with
    | done x =>
      obtain ⟨widest,further,there⟩ := later mid wider x stays (here x rfl) ending after ran
      exact ⟨widest,stays.trans further,there⟩
    | raised failure =>
      cases ran
      exact ⟨wider,stays,nofun⟩
    | exhausted =>
      cases ran
      exact ⟨wider,stays,nofun⟩

theorem attempt {run : Run η α} (stays : Run.Stays region has w run) :
    Run.Stays region (fun region result => ∀ x, result = .ok x → has region x) w
      (Step.attempt run) := by
  intro ending after ran
  unfold Step.attempt at ran
  cases began : run w with
  | mk result mid =>
    obtain ⟨wider,stays,here⟩ := stays result mid began
    rw [began] at ran
    refine ⟨wider,?_⟩
    cases result with
    | done y =>
      cases ran
      refine ⟨stays,?_⟩
      rintro _ ⟨⟩ x ⟨⟩
      exact here y rfl
    | raised failure =>
      cases ran
      refine ⟨stays,?_⟩
      rintro _ ⟨⟩ x ⟨⟩
    | exhausted =>
      cases ran
      exact ⟨stays,nofun⟩

/-- Changes of the registry are of no concern to a region. -/
theorem change (keeps : w.runtime.KeepsTo region) (change : Registry → Registry) :
    Run.Remains region w (Sweep.change change : Run η Unit) := by
  rintro _ _ ⟨⟩
  exact ⟨region,.of_store ⟨keeps.store,keeps.roots,keeps.document,rfl⟩ rfl,fun _ _ => trivial⟩

end Run.Stays

open Run (Remains)
open Run.Stays (lift read bind done)

variable {region : Region} {w : World η} {host : Host η}

theorem Journal.logFailure_stays {r : Runtime} (keeps : r.KeepsTo region) (text : String)
    (failure : Address) : Act.Remains region r (logFailure text failure) := by
  intro ending after ran
  rw [logFailure_run] at ran
  cases ran
  exact ⟨region,.of_store ⟨keeps.store,keeps.roots,keeps.document,rfl⟩ rfl,fun _ _ => trivial⟩

section Host

variable (stays : host.StaysIn region) (keeps : w.runtime.KeepsTo region)
include stays keeps

namespace Sweep

theorem refresh_stays (registration : Registration) :
    Remains region w (refresh host registration) := by
  refine read ?_
  dsimp only
  split
  · exact done keeps ()
  · split
    · exact .change keeps _
    · have attempted := (stays.refresh region w registration.callback (fun _ _ => id) keeps).attempt
      refine bind attempted fun mid wider result further _ => ?_
      cases result with
      | ok _ => exact done further.keeps ()
      | error failure => exact lift (.store (Journal.logFailure_stays further.keeps _ failure))

theorem refreshAll_stays (waiting : List Registration) :
    Remains region w (refreshAll host waiting) := by
  induction waiting generalizing region w with
  | nil => exact done keeps ()
  | cons registration rest ih =>
    exact bind (refresh_stays stays keeps registration) fun mid wider _ further _ =>
      ih (stays.mono further.gains) further.keeps

theorem run_stays (wanted : String → Bool) : Remains region w (run host wanted) := by
  refine read ?_
  dsimp only
  split
  · exact bind (.change keeps _) fun mid wider _ further _ => done further.keeps _
  · exact bind (refreshAll_stays stays keeps _) fun mid wider _ further _ => done further.keeps _

theorem leave_stays : Remains region w (leave host) := by
  refine bind (.change keeps _) fun mid wider _ further _ => read ?_
  dsimp only
  split
  · exact bind (.change further.keeps _) fun last widest _ onward _ =>
      refreshAll_stays ((stays.mono further.gains).mono onward.gains) onward.keeps _
  · exact done further.keeps ()

end Sweep

theorem Document.replace_stays {payload : Value} (held : payload.In region) :
    Remains region w (replace host payload) := by
  have made : Run.Stays region (fun region document => region .node document) w
      (ofPayload host payload) := by
    unfold ofPayload
    split
    · exact .pure keeps (held.spot rfl)
    · split
      · next parse given_ => exact stays.parse parse given_ region w _ (fun _ _ => id) keeps
      · exact lift (.fail keeps _)
    · split
      · exact lift (Node.ofValue_stays keeps held)
      · exact read (lift (.fail keeps _))
  refine bind made fun mid wider document further inside => ?_
  rintro _ _ ⟨⟩
  have keeps := further.keeps
  exact ⟨wider,.of_store ⟨keeps.store,keeps.roots,.some ⟨rfl,inside⟩,rfl⟩ rfl,fun _ _ => trivial⟩

end Host

/-- What an action of the kind hands over, if it is applied, is of the region. -/
def ActionKind.Gives (s : Store) (region : Region) (data mediaType : Value) : ActionKind → Prop
  | .setData => s.Lends region data
  | .blob => mediaType.In region
  | .html => data.In region
  | .extendBlob | .invalidate => True

theorem ActionKind.Gives.spared {wider : Region} {r after : Runtime}
    (spares : Runtime.SparesRest region wider r after) {data mediaType : Value} {kind : ActionKind}
    (gives : kind.Gives r.store region data mediaType) : kind.Gives after.store wider data mediaType := by
  cases kind with
  | setData => exact spares.lends gives
  | blob => exact spares.held gives
  | html => exact spares.held gives
  | extendBlob => trivial
  | invalidate => trivial

namespace ActionBatch
open PageRuntime.Reference (Target)

section Acts

variable {r : Runtime} (keeps : r.KeepsTo region) {scope : Address} (inside : region .scope scope)
  (action : Action)
include keeps inside

omit inside in
/-- An action fails before anything if it names no location, and goes on there otherwise. -/
theorem target_stays {next : Target → Act Unit}
    (later : ∀ path, Act.Remains region r (next (.place scope path))) :
    Act.Remains region r (target scope action >>= next) := by
  unfold target
  cases Path.read (action.selector.getD "") with
  | ok path => exact later path
  | error fault =>
    intro ending after ran
    have failed : (ending,after) = (Act.fail fault : Act Unit) r := ran.symm
    exact Act.Stays.fail keeps fault ending after failed.symm

theorem applyData_stays (lends : r.store.Lends region action.data) :
    Act.Remains region r (applyData scope action) :=
  target_stays keeps action fun path =>
    .bind (copyOf_stays keeps lends) fun _ _ _ stays held =>
      Setop.applyNamed_stays stays.keeps (stays.gains _ _ inside) path held action.setop

theorem applyBlob_stays (held : action.mediaType.In region) :
    Act.Remains region r (applyBlob scope action) :=
  target_stays keeps action fun path =>
    .bind (Blob.make_stays keeps held _) fun _ _ _ stays held =>
      Target.set_stays stays.keeps (stays.gains _ _ inside) path held

theorem extendBlob_stays : Act.Remains region r (extendBlob scope action) := by
  refine target_stays keeps action fun path => ?_
  refine .bind (Target.get_stays keeps inside path) fun mid wider found stays held => ?_
  cases held with
  | blob linked => exact Blob.extend_stays stays.keeps linked.2 _
  | _ => exact .fail stays.keeps _

end Acts

section Runs

variable (stays : host.StaysIn region) (keeps : w.runtime.KeepsTo region)
include stays keeps

theorem sweep_stays (action : Action) : Remains region w (sweep host action) := by
  unfold sweep
  dsimp only
  split
  · exact bind (Sweep.run_stays stays keeps _) fun mid wider _ further _ => done further.keeps ()
  · have swept : Remains region w
        (Sweep.invalidatePattern host (action.selector.getD "")) := by
      unfold Sweep.invalidatePattern
      split
      · exact Sweep.run_stays stays keeps _
      · exact lift (.fail keeps _)
    exact bind swept fun mid wider _ further _ => done further.keeps ()

theorem apply_stays {scope : Address} (inside : region .scope scope) {action : Action}
    (gives : action.kind.Gives w.runtime.store region action.data action.mediaType) :
    Remains region w (apply host scope action) := by
  unfold apply
  cases kind : action.kind with
  | setData =>
    rw [kind] at gives
    exact lift (applyData_stays keeps inside action gives)
  | blob =>
    rw [kind] at gives
    exact lift (applyBlob_stays keeps inside action gives)
  | extendBlob => exact lift (extendBlob_stays keeps inside action)
  | invalidate => exact sweep_stays stays keeps action
  | html =>
    rw [kind] at gives
    exact Document.replace_stays stays keeps gives

end Runs

theorem failed_stays {r : Runtime} (keeps : r.KeepsTo region) (index : Nat) (record : Value)
    (failure : Address) : Act.Remains region r (failed index record failure) := by
  refine .read (.bind (.ofAny keeps _) fun mid wider kind further _ => ?_)
  split
  · rintro _ _ ⟨⟩
    exact ⟨wider,.refl further.keeps,nofun⟩
  · exact Journal.logFailure_stays further.keeps _ _

/-- The record does not build the value of a batch, and what its action hands over is of the region. -/
def Outer (s : Store) (region : Region) (record : Value) : Prop :=
  ∀ action, Action.ofRecord s record = .ok action →
    (action.kind.canReturn && action.selector == some Action.returnSelector) = false ∧
      action.kind.Gives s region action.data action.mediaType

section Records

variable (stays : host.StaysIn region) (keeps : w.runtime.KeepsTo region) {scope : Address}
  (inside : region .scope scope) {record returned : Value}
  (outer : Outer w.runtime.store region record) {captureOnly : Bool}
include stays keeps inside outer

theorem attemptRecord_stays : Run.Stays region (fun _ v => v = returned) w
    (attemptRecord host scope captureOnly record returned) := by
  have decodes : Act.Stays region
      (fun _ action => Action.ofRecord w.runtime.store record = .ok action) w.runtime
        (Act.ofExcept (Action.ofRecord w.runtime.store record)) := .ofExcept keeps fun _ => id
  refine .read (bind (lift decodes) fun mid wider action further decoded => ?_)
  obtain ⟨idle,gives⟩ := outer action decoded
  rw [idle,if_neg Bool.false_ne_true]
  split
  · exact .pure further.keeps rfl
  · refine bind (apply_stays (stays.mono further.gains) further.keeps (further.gains _ _ inside)
      (gives.spared further.spares)) fun last widest _ onward _ => ?_
    exact .pure onward.keeps rfl

end Records

/-- If an attempted record stays in the region without a value of its own, then so does what is done
about it if it fails. -/
theorem processRecord_stays {scope : Address} {record returned : Value} {captureOnly : Bool}
    (attempted : Run.Stays region (fun _ v => v = returned) w
      (attemptRecord host scope captureOnly record returned)) (index : Nat) :
    Run.Stays region (fun _ v => v = returned) w
      (processRecord host scope captureOnly index record returned) := by
  refine bind attempted.attempt fun mid wider result further here => ?_
  cases result with
  | ok v => exact .pure further.keeps (here v rfl)
  | error failure =>
    exact bind (lift (failed_stays further.keeps index record failure))
      fun last widest _ onward _ => .pure onward.keeps rfl

end ActionBatch
end PageRuntime
