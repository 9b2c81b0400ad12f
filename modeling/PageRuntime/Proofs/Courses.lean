import PageRuntime.Proofs.AttemptFrames
import PageRuntime.Proofs.CaptureOnly

/-! The courses of batches. The records of a batch take their turns one after the other, each in the world
that the turns before it have left. A turn is an attempt at its record, and what is done about it if it
fails. -/
namespace PageRuntime

theorem List.of_drop_eq_cons {α : Type} {xs rest : List α} {n : Nat} {x : α}
    (ahead : xs.drop n = x :: rest) : xs[n]? = some x ∧ xs.drop (n + 1) = rest :=
  ⟨by rw [← List.head?_drop,ahead,List.head?_cons],by rw [← List.tail_drop,ahead,List.tail_cons]⟩

variable {η : Type}

/-- The world with a failure logged. -/
def World.logging (w : World η) (text : String) (failure : Address) : World η :=
  { w with runtime.journal := w.runtime.journal ++ Journal.added w.runtime text failure }

theorem World.logging_logged (w : World η) (text : String) (failure : Address) :
    (w.logging text failure).runtime.logged = w.runtime.logged ++
      [" ".intercalate [text,w.runtime.store.summary (.failure failure)]] := by
  simp only [Runtime.logged,logging,Journal.added,Array.toList_append,List.filterMap_append]
  congr 1
  cases w.runtime.debugEnabled <;> rfl

namespace ActionBatch

/-- A record whose turn it is, with the value of the batch before it and the world that it meets. -/
structure Turn (η : Type) where
  index : Nat
  record : Value
  returned : Value
  world : World η

namespace Turn

variable (host : Host η) (scope : Address) (captureOnly : Bool) (turn : Turn η)

/-- The failure that the attempt at the record ends with, if it fails. -/
def failure? : Option Address :=
  match (attemptRecord host scope captureOnly turn.record turn.returned turn.world).1 with
  | .raised failure => some failure
  | _ => none

/-- The world that the attempt at the record leaves. -/
def left : World η := (attemptRecord host scope captureOnly turn.record turn.returned turn.world).2

def applied : Bool := (turn.failure? host scope captureOnly).isNone

/-- The kind of the failing record is something that cannot be looked up, so that no severity is found for
it. -/
def Stops : Prop := ∃ failure fault, turn.failure? host scope captureOnly = some failure ∧
  severityKind (turn.left host scope captureOnly).runtime.store
    (writtenIn (turn.left host scope captureOnly).runtime.store turn.record) = .error fault

/-- What is logged of the turn if its record fails. -/
def log? : Option String :=
  (turn.failure? host scope captureOnly).map fun failure =>
    let s := (turn.left host scope captureOnly).runtime.store
    " ".intercalate [skippedText s turn.index turn.record,s.summary (.failure failure)]

/-- The write of the failing record has retargeted a handle. -/
def Retargets : Prop := turn.applied host scope captureOnly = false ∧
  turn.world.runtime.Retargets (turn.left host scope captureOnly).runtime

end Turn

section

variable (host : Host η) (scope : Address) (captureOnly : Bool) (next : Nat → Store → Option Value)

/-- The turns from an index on, up to where no record is due any more or a turn ends the batch. -/
inductive Course : Nat → Value → World η → List (Turn η) → Outcome Value → World η → Prop
  | close {index : Nat} {returned : Value} {w : World η} (none : next index w.runtime.store = none) :
      Course index returned w [] (.done returned) w
  | on {index : Nat} {record returned passed : Value} {w mid after : World η} {turns : List (Turn η)}
      {ending : Outcome Value} (due : next index w.runtime.store = some record)
      (ran : processRecord host scope captureOnly index record returned w = (.done passed,mid))
      (rest : Course (index + 1) passed mid turns ending after) :
      Course index returned w (⟨index,record,returned,w⟩ :: turns) ending after
  | halted {index : Nat} {record returned : Value} {w after : World η} {failure : Address}
      (due : next index w.runtime.store = some record)
      (ran : processRecord host scope captureOnly index record returned w = (.raised failure,after)) :
      Course index returned w [⟨index,record,returned,w⟩] (.raised failure) after

end

/-- The record that is due at an index: an item of a list as it is by then, or of another value as it was
from the start. -/
def due? (actions : Value) (records : List Value) (index : Nat) (s : Store) : Option Value :=
  match actions with
  | .list a => (s.listAt a)[index]?
  | _ => records[index]?

variable {host : Host η} {scope : Address} {captureOnly : Bool} {next : Nat → Store → Option Value}
  {index : Nat} {returned : Value} {w after : World η} {ending : Outcome Value} {turns : List (Turn η)}

theorem course_step {record : Value} (due : next index w.runtime.store = some record)
    {later : Value → Run η Value}
    (ran : (processRecord host scope captureOnly index record returned >>= later) w = (ending,after))
    (finished : ending ≠ .exhausted)
    (onwards : ∀ passed mid, later passed mid = (ending,after) →
      ∃ turns, Course host scope captureOnly next (index + 1) passed mid turns ending after) :
    ∃ turns, Course host scope captureOnly next index returned w turns ending after := by
  rw [Step.bind_run] at ran
  cases processed : processRecord host scope captureOnly index record returned w with
  | mk result mid =>
    rw [processed] at ran
    cases result with
    | done passed =>
      obtain ⟨turns,rest⟩ := onwards passed mid ran
      exact ⟨_,.on due processed rest⟩
    | raised failure =>
      cases ran
      exact ⟨_,.halted due processed⟩
    | exhausted =>
      cases ran
      exact absurd rfl finished

theorem processAll_course {all records : List Value} (here : all.drop index = records)
    (ran : processAll host scope captureOnly index records returned w = (ending,after))
    (finished : ending ≠ .exhausted) :
    ∃ turns, Course host scope captureOnly (fun i _ => all[i]?) index returned w turns ending after := by
  induction records generalizing index returned w with
  | nil =>
    cases ran
    exact ⟨[],.close (List.getElem?_eq_none (List.drop_eq_nil_iff.mp here))⟩
  | cons record rest ih =>
    obtain ⟨due,later⟩ := List.of_drop_eq_cons here
    exact course_step due ran finished fun passed mid ran => ih later ran

theorem processLive_course {list : Address} {fuel : Nat}
    (ran : processLive host scope captureOnly list fuel index returned w = (ending,after))
    (finished : ending ≠ .exhausted) :
    ∃ turns, Course host scope captureOnly (fun i s => (s.listAt list)[i]?) index returned w turns ending
      after := by
  induction fuel generalizing index returned w with
  | zero =>
    cases ran
    exact absurd rfl finished
  | succ fuel ih =>
    rw [processLive,Step.bind_done (Step.read_run w)] at ran
    cases due : (w.runtime.store.listAt list)[index]? with
    | none =>
      rw [due] at ran
      cases ran
      exact ⟨[],.close due⟩
    | some record =>
      rw [due] at ran
      exact course_step due ran finished fun passed mid ran => ih ran

/-- The records of a batch take their turns, unless the batch runs out of fuel. -/
theorem processItems_course {actions : Value} {records : List Value}
    (listed : w.runtime.store.itemsOf actions = .ok records)
    (ran : processItems host scope captureOnly actions w = (ending,after))
    (finished : ending ≠ .exhausted) :
    ∃ turns, Course host scope captureOnly (due? actions records) 0 .null w turns ending after := by
  rw [processItems,Step.bind_done (Step.read_run w)] at ran
  have taken (ran : ((Act.ofExcept (w.runtime.store.itemsOf actions) : Run η (List Value)) >>= fun records =>
      processAll host scope captureOnly 0 records .null) w = (ending,after)) :
      ∃ turns, Course host scope captureOnly (fun i _ => records[i]?) 0 .null w turns ending after := by
    rw [listed,Step.bind_done (Run.ofAct_run (Act.ofExcept_ok records w.runtime))] at ran
    exact processAll_course rfl ran finished
  cases actions with
  | list a => exact processLive_course ran finished
  | _ => exact taken ran

namespace Course

theorem processAll {all : List Value}
    (course : Course host scope captureOnly (fun i _ => all[i]?) index returned w turns ending after) :
    processAll host scope captureOnly index (all.drop index) returned w = (ending,after) := by
  induction course with
  | close none =>
    rw [List.drop_eq_nil_of_le (List.getElem?_eq_none_iff.mp none)]
    rfl
  | on due ran _ ih =>
    obtain ⟨inside,rfl⟩ := List.getElem?_eq_some_iff.mp due
    rw [List.drop_eq_getElem_cons inside]
    exact (Step.bind_done ran).trans ih
  | halted due ran =>
    obtain ⟨inside,rfl⟩ := List.getElem?_eq_some_iff.mp due
    rw [List.drop_eq_getElem_cons inside]
    exact Step.bind_raised ran

theorem processLive {list : Address} {fuel : Nat} (enough : turns.length < fuel)
    (course : Course host scope captureOnly (fun i s => (s.listAt list)[i]?) index returned w turns ending
      after) : processLive host scope captureOnly list fuel index returned w = (ending,after) := by
  induction course generalizing fuel with
  | @close index returned w none =>
    obtain ⟨fuel,rfl⟩ := Nat.exists_eq_add_one_of_ne_zero (Nat.ne_of_gt enough)
    rw [ActionBatch.processLive,Step.bind_done (Step.read_run w),none]
    rfl
  | @on index record returned passed w mid after turns ending due ran _ ih =>
    obtain ⟨fuel,rfl⟩ := Nat.exists_eq_add_one_of_ne_zero (Nat.ne_zero_of_lt enough)
    rw [ActionBatch.processLive,Step.bind_done (Step.read_run w),due]
    exact (Step.bind_done ran).trans (ih (Nat.lt_of_succ_lt_succ enough))
  | @halted index record returned w after failure due ran =>
    obtain ⟨fuel,rfl⟩ := Nat.exists_eq_add_one_of_ne_zero (Nat.ne_zero_of_lt enough)
    rw [ActionBatch.processLive,Step.bind_done (Step.read_run w),due]
    exact Step.bind_raised ran

/-- The turns that the records of a batch can take are those that they take in it. -/
theorem processItems {actions : Value} {records : List Value}
    (listed : w.runtime.store.itemsOf actions = .ok records) (enough : turns.length ≤ records.length)
    (course : Course host scope captureOnly (due? actions records) 0 .null w turns ending after) :
    processItems host scope captureOnly actions w = (ending,after) := by
  rw [ActionBatch.processItems,Step.bind_done (Step.read_run w)]
  have taken (course : Course host scope captureOnly (fun i _ => records[i]?) 0 .null w turns ending after) :
      ((Act.ofExcept (w.runtime.store.itemsOf actions) : Run η (List Value)) >>= fun records =>
        ActionBatch.processAll host scope captureOnly 0 records .null) w = (ending,after) := by
    rw [listed,Step.bind_done (Run.ofAct_run (Act.ofExcept_ok records w.runtime))]
    exact course.processAll
  cases actions with
  | list a =>
    obtain rfl : w.runtime.store.listAt a = records := Except.ok.inj listed
    exact course.processLive (Nat.lt_of_le_of_lt enough (by unfold growthLimit; omega))
  | _ => exact taken course

end Course

/-! What a turn leads to. -/
section

variable {record passed : Value} {mid : World η} {failure : Address}

/-- A turn that the batch goes on after has applied its record, or has logged why not. -/
theorem processRecord_done
    (ran : processRecord host scope captureOnly index record returned w = (.done passed,mid)) :
    attemptRecord host scope captureOnly record returned w = (.done passed,mid) ∨
      ∃ failure left kind, attemptRecord host scope captureOnly record returned w = (.raised failure,left) ∧
        severityKind left.runtime.store (writtenIn left.runtime.store record) = .ok kind ∧
          passed = returned ∧
            mid = left.logging (skippedText left.runtime.store index record) failure := by
  cases attempted : attemptRecord host scope captureOnly record returned w with
  | mk result left =>
    cases result with
    | done x =>
      rw [processRecord,Step.bind_done (Step.attempt_done attempted)] at ran
      cases ran
      exact .inl rfl
    | raised failure =>
      rw [processRecord,Step.bind_done (Step.attempt_raised attempted)] at ran
      obtain ⟨_,last,handled,ended⟩ := Step.done_of_bind ran
      cases ended
      obtain ⟨handled,host⟩ := Run.of_ofAct handled
      rw [failed_run] at handled
      cases known : severityKind left.runtime.store (writtenIn left.runtime.store record) with
      | error fault =>
        rw [known] at handled
        cases handled
      | ok kind =>
        rw [known] at handled
        dsimp only at handled
        split at handled
        · cases handled
        · refine .inr ⟨failure,left,kind,rfl,known,rfl,?_⟩
          cases mid
          cases left
          cases handled
          cases host
          rfl
    | exhausted =>
      rw [processRecord,Step.bind_exhausted (Step.attempt_exhausted attempted)] at ran
      cases ran

/-- Where every severity is to log, a turn ends the batch only if no severity is found. -/
theorem processRecord_raised (quiet : ∀ failure left,
      attemptRecord host scope captureOnly record returned w = (.raised failure,left) →
        ∀ kind, left.runtime.settings.severityOf kind = .log)
    (ran : processRecord host scope captureOnly index record returned w = (.raised failure,after)) :
    ∃ failure left fault, attemptRecord host scope captureOnly record returned w = (.raised failure,left) ∧
      severityKind left.runtime.store (writtenIn left.runtime.store record) = .error fault := by
  cases attempted : attemptRecord host scope captureOnly record returned w with
  | mk result left =>
    cases result with
    | done x =>
      rw [processRecord,Step.bind_done (Step.attempt_done attempted)] at ran
      cases ran
    | raised other =>
      rw [processRecord,Step.bind_done (Step.attempt_raised attempted)] at ran
      obtain handled | ⟨_,last,-,ended⟩ := Step.raised_of_bind ran
      · obtain ⟨handled,-⟩ := Run.of_ofAct handled
        rw [failed_run] at handled
        cases known : severityKind left.runtime.store (writtenIn left.runtime.store record) with
        | error fault => exact ⟨other,left,fault,rfl,known⟩
        | ok kind =>
          rw [known] at handled
          dsimp only at handled
          rw [quiet other left attempted kind] at handled
          cases handled
      · cases ended
    | exhausted =>
      rw [processRecord,Step.bind_exhausted (Step.attempt_exhausted attempted)] at ran
      cases ran

end

end ActionBatch
end PageRuntime
