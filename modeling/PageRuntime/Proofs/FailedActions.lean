import PageRuntime.Proofs.Filling
import PageRuntime.Proofs.LikeActions
import PageRuntime.Proofs.RefreshDeferral

/-! Failing actions. An action does all that can fail before its one write, so a record that fails
leaves everything as it was, unless that write fails after it has retargeted a handle. -/
namespace PageRuntime

namespace Runtime.Extends
open PageRuntime.Act (Follows)

variable {base r : Runtime} (within : base.Extends r)
include within

/-- A step that only makes what is alike leaves a closed runtime that has grown. -/
theorem made {act : Act Value} (only : act.OnlyGrows)
    (follows : Follows r.store.identity r r Value.Alike act act) {v : Value} {mid : Runtime}
    (ran : act r = (.done v,mid)) : base.Extends mid ∧ r.Grew mid ∧ v.Present mid.store := by
  obtain ⟨closed,present⟩ := Follows.closed act follows ran
  have growth := only.of_run ran
  exact ⟨within.grew growth closed,growth,present⟩

/-- What follows such a step fails as it does from where the step has led. -/
theorem bind_fell {act : Act Value} (only : act.OnlyGrows)
    (follows : Follows r.store.identity r r Value.Alike act act) {next : Value → Act Unit}
    {failure : Address} {after : Runtime}
    (later : ∀ v mid, base.Extends mid → r.Grew mid → v.Present mid.store →
      next v mid = (.raised failure,after) → base.Fell after)
    (ran : (act >>= next) r = (.raised failure,after)) : base.Fell after := by
  obtain failed | ⟨v,mid,done,onwards⟩ := Step.raised_of_bind ran
  · exact .inl (within.growth.trans (only.of_run failed))
  · obtain ⟨whole,growth,present⟩ := within.made only follows done
    exact later v mid whole growth present onwards

end Runtime.Extends

namespace Reference

theorem dropMember_quiet (container : Spot) (key : Segment) (r after : Runtime) (failure : Address) :
    dropMember container key r ≠ (.raised failure,after) := by
  intro ran
  rw [dropMember,Step.bind_done (Act.store_run r)] at ran
  cases container with
  | bindings scope => cases ran
  | items values => cases ran
  | value v =>
    cases v with
    | list a =>
      cases key with
      | field name => cases ran
      | index place =>
        dsimp only at ran
        cases placed : placeOf? (r.store.listAt a).length place with
        | some place => rw [placed] at ran; cases ran
        | none => rw [placed] at ran; cases ran
    | _ => cases ran

/-- Nothing is deleted before it is clear where. -/
theorem deletePath_grew {scope : Address} {path : Path} {locked : Bool} {r after : Runtime}
    {failure : Address} (ran : deletePath scope path locked r = (.raised failure,after)) :
    r.Grew after := by
  unfold deletePath at ran
  obtain failed | ⟨shut,mid,asked,onwards⟩ := Step.raised_of_bind ran
  · exact (isLocked_onlyGrows path locked).of_run failed
  · obtain rfl := isLocked_still asked
    split at onwards
    · cases onwards
    · cases keys : path.segments.getLast? with
      | none =>
        rw [keys] at onwards
        cases onwards
      | some last =>
        rw [keys] at onwards
        dsimp only [deleteLast] at onwards
        obtain failed | ⟨start,mid,rooted,onwards⟩ := Step.raised_of_bind onwards
        · exact (root_onlyGrows scope path).of_run failed
        · have grew := (root_onlyGrows scope path).of_run rooted
          rw [Step.bind_done (Step.read_run mid)] at onwards
          obtain failed | ⟨container,last,walked,onwards⟩ := Step.raised_of_bind onwards
          · exact grew.trans ((Act.OnlyGrows.ofExcept _).of_run failed)
          · have grew := grew.trans ((Act.OnlyGrows.ofExcept _).of_run walked)
            obtain failed | ⟨held,_,_,dropped⟩ := Step.raised_of_bind onwards
            · exact grew.trans ((settle_onlyGrows container).of_run failed)
            · exact absurd dropped (dropMember_quiet _ _ _ _ _)

namespace Target

variable {scope : Address} {path : Path}

theorem get_onlyGrows : (place scope path).get.OnlyGrows :=
  .bind .read fun _ => .bind (.ofExcept _) Spot.realize_onlyGrows

variable {base r after : Runtime} (within : base.Extends r)
  (linked : base.store.identity .scope scope scope)
include within linked

theorem placed : (place scope path).Alike r.store.identity (place scope path) :=
  .place (within.growth.store.identity _ _ _ linked) path

theorem set_fell {v : Value} (present : v.Present r.store) {failure : Address}
    (ran : (place scope path).set v r = (.raised failure,after)) : base.Fell after :=
  setPathValue_fell (setWithin_steady _) within present linked path false ran

/-- What follows a reading of the location fails as it does from where that has led. -/
theorem get_bind_fell {next : Value → Act Unit} {failure : Address}
    (later : ∀ v mid, base.Extends mid → r.Grew mid → v.Present mid.store →
      next v mid = (.raised failure,after) → base.Fell after)
    (ran : ((place scope path).get >>= next) r = (.raised failure,after)) : base.Fell after :=
  within.bind_fell get_onlyGrows (get_matches (placed within linked) within.closed.twin).follows later ran

end Target
end Reference

namespace Setop
open PageRuntime.Reference (Target)

variable {scope : Address} {path : Path} {base r after : Runtime} (within : base.Extends r)
  (linked : base.store.identity .scope scope scope) {v : Value} (present : v.Present r.store)
  {failure : Address}
include within linked present

theorem addItem_fell (setop : Setop)
    (ran : addItem (.place scope path) setop v r = (.raised failure,after)) : base.Fell after := by
  refine Target.get_bind_fell within linked (fun current mid whole growth held onwards => ?_) ran
  have present := present.grew growth.store
  have stores {items : List Value} (all : Values.Alike mid.store.identity items items)
      (ran : (do let made ← Act.make (·.newList items); (Target.place scope path).set made) mid =
        (.raised failure,after)) : base.Fell after :=
    whole.bind_fell (.make fun s => s.newList_adds _) (.newList whole.closed.twin all)
      (fun made last further _ listed stored => Target.set_fell further linked listed stored) ran
  have added {items : List Value} (all : Values.Alike mid.store.identity items items) :
      Values.Alike mid.store.identity (if setop == .append then items ++ [v] else v :: items)
        (if setop == .append then items ++ [v] else v :: items) := by
    split
    · exact List.rel_append all (.cons present .nil)
    · exact .cons present all
  rw [Step.bind_done (Act.store_run mid)] at onwards
  cases held with
  | null => exact stores (.cons present .nil) onwards
  | list inside => exact stores (added (whole.closed.store.listAt inside)) onwards
  | tuple inside => exact stores (added (whole.closed.store.tupleAt inside)) onwards
  | _ => exact .inl (whole.growth.trans ((Act.OnlyGrows.fail _).of_run onwards))

theorem mergeEntries_fell
    (ran : mergeEntries (.place scope path) v r = (.raised failure,after)) : base.Fell after := by
  refine Target.get_bind_fell within linked (fun current mid whole growth held onwards => ?_) ran
  have present := present.grew growth.store
  have fails (fault : Fault) (ran : (Act.fail fault : Act Unit) mid = (.raised failure,after)) :
      base.Fell after := .inl (whole.growth.trans ((Act.OnlyGrows.fail _).of_run ran))
  have added := whole.closed.store.mapping? present
  rw [Step.bind_done (Act.store_run mid)] at onwards
  revert onwards added
  generalize mid.store.mapping? v = entries
  intro onwards added
  have merges {d more : Dict} (all : d.Alike mid.store.identity d)
      (added : more.Alike mid.store.identity more)
      (ran : (do let made ← Act.make (·.newDict (Dict.update d more))
                 (Target.place scope path).set made) mid = (.raised failure,after)) :
      base.Fell after :=
    whole.bind_fell (.make fun s => s.newDict_adds _)
      (.newDict whole.closed.twin (Dict.update_alike whole.closed.store.paired all added))
      (fun made last further _ entered stored => Target.set_fell further linked entered stored) ran
  cases added with
  | none =>
    cases held with
    | null => exact Target.set_fell whole linked present onwards
    | _ => exact fails _ onwards
  | some added =>
    cases held with
    | null => exact Target.set_fell whole linked present onwards
    | dict inside => exact merges (whole.closed.store.dictAt inside) added onwards
    | frozen inside => exact merges (whole.closed.store.frozenAt inside) added onwards
    | _ => exact fails _ onwards

theorem apply_fell (setop : Setop)
    (ran : setop.apply (.place scope path) v r = (.raised failure,after)) : base.Fell after := by
  cases setop with
  | set => exact Target.set_fell within linked present ran
  | setUnless =>
    refine Target.get_bind_fell within linked (fun current mid whole growth _ onwards => ?_) ran
    split at onwards
    · exact Target.set_fell whole linked (present.grew growth.store) onwards
    · cases onwards
  | append => exact addItem_fell within linked present .append ran
  | prepend => exact addItem_fell within linked present .prepend ran
  | merge => exact mergeEntries_fell within linked present ran
  | delete => exact .inl (within.growth.trans (Reference.deletePath_grew ran))

theorem applyNamed_fell (named : Value)
    (ran : applyNamed named (.place scope path) v r = (.raised failure,after)) :
    base.Fell after := by
  have unknown {r after : Runtime} {fault : Store → Fault}
      (ran : (Act.store >>= fun s => Act.fail (fault s) : Act Unit) r = (.raised failure,after)) :
      r.Grew after := (Act.OnlyGrows.bind .store fun s => .fail (fault s)).of_run ran
  unfold applyNamed at ran
  cases named with
  | str name =>
    dsimp only at ran
    cases known : ofName? name with
    | none =>
      rw [known] at ran
      exact .inl (within.growth.trans (unknown ran))
    | some setop =>
      rw [known] at ran
      exact apply_fell within linked present setop ran
  | _ => exact .inl (within.growth.trans (unknown ran))

end Setop

namespace Blob

theorem make_onlyGrows (mediaType base64 : Value) : (make mediaType base64).OnlyGrows :=
  .bind .store fun _ => .bind (.ofExcept _) fun _ => .make fun s => s.newBlob_adds _

/-- The octets are read before the blob is extended. -/
theorem extend_grew {a : Address} {base64 : Value} {r after : Runtime} {failure : Address}
    (ran : extend a base64 r = (.raised failure,after)) : r.Grew after := by
  rw [extend,Step.bind_done (Act.store_run r)] at ran
  obtain failed | ⟨more,mid,-,extended⟩ := Step.raised_of_bind ran
  · exact (Act.OnlyGrows.ofExcept _).of_run failed
  · cases extended

end Blob

theorem Node.ofValue_onlyGrows (v : Value) : (ofValue v).OnlyGrows :=
  ofValue_keeps Act.OnlyGrows.fail (fun _ => Act.OnlyGrows.make fun s => s.newNode_adds _) v

namespace ActionBatch
open PageRuntime.Reference (Target)

theorem copyOf_grew {v : Value} {r after : Runtime} {failure : Address}
    (ran : copyOf v r = (.raised failure,after)) : r.Grew after := by
  rw [copyOf,Step.bind_done (Act.store_run r)] at ran
  obtain failed | ⟨copied,mid,-,stored⟩ := Step.raised_of_bind ran
  · exact (Act.OnlyGrows.ofExcept _).of_run failed
  · cases stored

/-- A copy that is made leaves a closed runtime that has grown. -/
theorem copyOf_made {v copied : Value} {r after : Runtime} (closed : r.Closed)
    (present : v.Present r.store) (ran : copyOf v r = (.done copied,after)) :
    r.Extends after ∧ copied.Present after.store := by
  obtain ⟨afterClosed,made⟩ := Act.Follows.closed _ (copyOf_follows closed.twin present) ran
  refine ⟨⟨closed,?_,afterClosed⟩,made⟩
  rw [copyOf,Step.bind_done (Act.store_run r)] at ran
  obtain ⟨⟨result,s⟩,mid,copies,stored⟩ := Step.done_of_bind ran
  obtain ⟨copies,rfl⟩ := Act.ofExcept_done copies
  obtain ⟨_,_,-,gained,-⟩ := Store.deepCopy_matches closed.store present _ _ copies
  cases stored
  exact ⟨gained.grew,rfl⟩

variable {action : Action} {scope : Address}

theorem target_onlyGrows : (target scope action).OnlyGrows :=
  .bind (.ofExcept _) fun _ => .pure _

theorem target_done {r mid : Runtime} {place : Target}
    (ran : target scope action r = (.done place,mid)) : mid = r ∧ ∃ path, place = .place scope path := by
  obtain ⟨path,last,read,placed⟩ := Step.done_of_bind ran
  obtain ⟨-,rfl⟩ := Act.ofExcept_done read
  cases placed
  exact ⟨rfl,path,rfl⟩

theorem capture_grew {returned : Value} {r after : Runtime} {failure : Address}
    (ran : capture action returned r = (.raised failure,after)) : r.Grew after := by
  unfold capture at ran
  cases kind : action.kind with
  | setData => rw [kind] at ran; cases ran
  | blob => rw [kind] at ran; exact (Blob.make_onlyGrows _ _).of_run ran
  | extendBlob =>
    rw [kind] at ran
    cases returned with
    | blob a =>
      obtain failed | ⟨_,mid,-,ended⟩ := Step.raised_of_bind ran
      · exact Blob.extend_grew failed
      · cases ended
    | _ => exact (Act.OnlyGrows.fail _).of_run ran
  | invalidate => rw [kind] at ran; cases ran
  | html => rw [kind] at ran; cases ran

section Applying

variable {r after : Runtime} (closed : r.Closed) (same : action.Alike r.store.identity action)
  (linked : r.store.identity .scope scope scope) {failure : Address}
include closed same linked

theorem applyData_fell (ran : applyData scope action r = (.raised failure,after)) : r.Fell after := by
  obtain failed | ⟨place,mid,found,onwards⟩ := Step.raised_of_bind ran
  · exact .inl (target_onlyGrows.of_run failed)
  · obtain ⟨rfl,path,rfl⟩ := target_done found
    obtain failed | ⟨data,last,copied,onwards⟩ := Step.raised_of_bind onwards
    · exact .inl (copyOf_grew failed)
    · obtain ⟨within,present⟩ := copyOf_made closed same.data copied
      exact Setop.applyNamed_fell within linked present action.setop onwards

theorem applyBlob_fell (ran : applyBlob scope action r = (.raised failure,after)) : r.Fell after := by
  obtain failed | ⟨place,mid,found,onwards⟩ := Step.raised_of_bind ran
  · exact .inl (target_onlyGrows.of_run failed)
  · obtain ⟨rfl,path,rfl⟩ := target_done found
    refine closed.extends.bind_fell (Blob.make_onlyGrows _ _)
      (Blob.make_follows closed.twin same.mediaType same.base64) ?_ onwards
    intro blob last within _ present stored
    exact Target.set_fell within linked present stored

theorem extendBlob_fell (ran : extendBlob scope action r = (.raised failure,after)) :
    r.Fell after := by
  obtain failed | ⟨place,mid,found,onwards⟩ := Step.raised_of_bind ran
  · exact .inl (target_onlyGrows.of_run failed)
  · obtain ⟨rfl,path,rfl⟩ := target_done found
    refine Target.get_bind_fell closed.extends linked (fun found last within _ _ onwards => ?_) onwards
    cases found with
    | blob a => exact .inl (within.growth.trans (Blob.extend_grew onwards))
    | _ => exact .inl (within.growth.trans ((Act.OnlyGrows.fail _).of_run onwards))

end Applying
end ActionBatch

variable {η α : Type}

/-- A markup parser that fails has at most made objects and logged. -/
def Host.ParserFailsCleanly (host : Host η) : Prop :=
  ∀ parse, host.parseMarkup = some parse → ∀ text w failure after,
    parse text w = (.raised failure,after) → w.runtime.Grew after.runtime

theorem Sweep.run_quiet (host : Host η) (wanted : String → Bool) (w after : World η)
    (failure : Address) : run host wanted w ≠ (.raised failure,after) := by
  intro ran
  rw [run,Step.bind_done (Step.read_run w)] at ran
  dsimp only at ran
  split at ran
  · cases ran
  · obtain failed | ⟨_,mid,-,ended⟩ := Step.raised_of_bind ran
    · exact refreshAll_quiet host _ _ _ _ failed
    · cases ended

namespace Document

/-- A document is not replaced if its markup is not read, its plain form makes no node, or it is neither. -/
theorem replace_raised {host : Host η} {payload : Value} {w after : World η} {failure : Address}
    (ran : replace host payload w = (.raised failure,after)) :
    (∃ parse text, host.parseMarkup = some parse ∧ parse text w = (.raised failure,after)) ∨
      Node.ofValue payload w.runtime = (.raised failure,after.runtime) ∨
        ∃ fault, (Act.fail fault : Act Address) w.runtime = (.raised failure,after.runtime) := by
  obtain failed | ⟨document,mid,-,put⟩ := Step.raised_of_bind ran
  · unfold ofPayload at failed
    cases payload with
    | node a => cases failed
    | str text =>
      dsimp only at failed
      cases given : host.parseMarkup with
      | none =>
        rw [given] at failed
        exact .inr (.inr ⟨_,(Run.of_ofAct failed).1⟩)
      | some parse =>
        rw [given] at failed
        exact .inl ⟨parse,text,rfl,failed⟩
    | _ =>
      dsimp only at failed
      split at failed
      · exact .inr (.inl (Run.of_ofAct failed).1)
      · exact .inr (.inr ⟨_,(Run.of_ofAct failed).1⟩)
  · cases put

theorem replace_grew {host : Host η} (clean : host.ParserFailsCleanly) {payload : Value}
    {w after : World η} {failure : Address}
    (ran : replace host payload w = (.raised failure,after)) : w.runtime.Grew after.runtime := by
  obtain ⟨parse,text,given,failed⟩ | failed | ⟨fault,failed⟩ := replace_raised ran
  · exact clean parse given text w failure after failed
  · exact (Node.ofValue_onlyGrows payload).of_run failed
  · exact (Act.OnlyGrows.fail fault).of_run failed

end Document

namespace ActionBatch

variable {host : Host η} {w after : World η} {failure : Address}

/-- A sweep fails only where its pattern is none. -/
theorem sweep_raised {action : Action} (ran : sweep host action w = (.raised failure,after)) :
    ∃ fault, (Act.fail fault : Act Nat) w.runtime = (.raised failure,after.runtime) := by
  unfold sweep at ran
  split at ran
  · obtain failed | ⟨_,mid,-,ended⟩ := Step.raised_of_bind ran
    · exact absurd failed (Sweep.run_quiet host _ w after failure)
    · cases ended
  · obtain failed | ⟨_,mid,-,ended⟩ := Step.raised_of_bind ran
    · unfold Sweep.invalidatePattern at failed
      cases read : Text.Pattern.read? (action.selector.getD "") with
      | some pattern =>
        rw [read] at failed
        exact absurd failed (Sweep.run_quiet host _ w after failure)
      | none =>
        rw [read] at failed
        exact ⟨_,(Run.of_ofAct failed).1⟩
    · cases ended

theorem sweep_grew {action : Action} (ran : sweep host action w = (.raised failure,after)) :
    w.runtime.Grew after.runtime := by
  obtain ⟨fault,failed⟩ := sweep_raised ran
  exact (Act.OnlyGrows.fail fault).of_run failed

theorem apply_fell (clean : host.ParserFailsCleanly) (closed : w.runtime.Closed) {scope : Address}
    (linked : w.runtime.store.identity .scope scope scope) {action : Action}
    (same : action.Alike w.runtime.store.identity action)
    (ran : apply host scope action w = (.raised failure,after)) : w.runtime.Fell after.runtime := by
  unfold apply at ran
  cases kind : action.kind with
  | setData =>
    rw [kind] at ran
    exact applyData_fell closed same linked (Run.of_ofAct ran).1
  | blob =>
    rw [kind] at ran
    exact applyBlob_fell closed same linked (Run.of_ofAct ran).1
  | extendBlob =>
    rw [kind] at ran
    exact extendBlob_fell closed same linked (Run.of_ofAct ran).1
  | invalidate =>
    rw [kind] at ran
    exact .inl (sweep_grew ran)
  | html =>
    rw [kind] at ran
    exact .inl (Document.replace_grew clean ran)

/-- An attempt at a record fails if it is malformed, or if what it asks for fails. -/
theorem attemptRecord_raised {scope : Address} {record returned : Value} {captureOnly : Bool}
    (ran : attemptRecord host scope captureOnly record returned w = (.raised failure,after)) :
    (∃ fault, (Act.fail fault : Act Action) w.runtime = (.raised failure,after.runtime)) ∨
      ∃ action, Action.ofRecord w.runtime.store record = .ok action ∧
        (capture action returned w.runtime = (.raised failure,after.runtime) ∨
          apply host scope action w = (.raised failure,after)) := by
  rw [attemptRecord,Step.bind_done (Step.read_run w)] at ran
  cases normal : Action.ofRecord w.runtime.store record with
  | error fault =>
    rw [normal] at ran
    obtain failed | ⟨_,mid,none,-⟩ := Step.raised_of_bind ran
    · exact .inl ⟨fault,(Run.of_ofAct failed).1⟩
    · cases none
  | ok action =>
    rw [normal,Step.bind_done (Run.ofAct_run (Act.ofExcept_ok action w.runtime))] at ran
    refine .inr ⟨action,rfl,?_⟩
    split at ran
    · exact .inl (Run.of_ofAct ran).1
    · split at ran
      · cases ran
      · obtain failed | ⟨_,last,-,ended⟩ := Step.raised_of_bind ran
        · exact .inr failed
        · cases ended

/-- A record that fails leaves everything as it was, or its write has retargeted a handle. -/
theorem attemptRecord_fell (clean : host.ParserFailsCleanly) (closed : w.runtime.Closed)
    {scope : Address} (inside : scope < w.runtime.store.scopes.size) {record returned : Value}
    (present : record.Present w.runtime.store) {captureOnly : Bool}
    (ran : attemptRecord host scope captureOnly record returned w = (.raised failure,after)) :
    w.runtime.Fell after.runtime := by
  obtain ⟨fault,failed⟩ | ⟨action,normal,failed⟩ := attemptRecord_raised ran
  · exact .inl ((Act.OnlyGrows.fail fault).of_run failed)
  · obtain ⟨_,again,same⟩ := Action.ofRecord_yields closed.store present action normal
    obtain rfl := Except.ok.inj (normal.symm.trans again)
    obtain failed | failed := failed
    · exact .inl (capture_grew failed)
    · exact apply_fell clean closed ⟨rfl,inside⟩ same failed

/-- What a failing record says its kind is. -/
def writtenIn (s : Store) (record : Value) : Value :=
  ((s.mapping? record).map Action.writtenKind).getD .null

/-- What is logged of a failing record ahead of the failure itself. -/
def skippedText (s : Store) (index : Nat) (record : Value) : String :=
  "Skipping action #" ++ toString index ++ " (" ++ s.display (writtenIn s record) ++ "):"

theorem failed_run (index : Nat) (record : Value) (failure : Address) (r : Runtime) :
    failed index record failure r =
      match severityKind r.store (writtenIn r.store record) with
      | .error fault => (Act.fail fault : Act Unit) r
      | .ok kind =>
        if r.settings.severityOf kind == .raise then (.raised failure,r)
        else (.done (),{ r with
          journal := r.journal ++ Journal.added r (skippedText r.store index record) failure }) := by
  have logs := Journal.logFailure_run (skippedText r.store index record) failure r
  have run : failed index record failure r =
      (Act.ofExcept (severityKind r.store (writtenIn r.store record)) >>= fun kind =>
        if r.settings.severityOf kind == .raise then Step.raise failure
        else Journal.logFailure (skippedText r.store index record) failure) r := rfl
  rw [run]
  cases severityKind r.store (writtenIn r.store record) with
  | error fault => rfl
  | ok kind =>
    rw [Act.ofExcept_ok_bind]
    dsimp only
    split
    · rfl
    · exact logs

theorem failed_grew {index : Nat} {record : Value} {r after : Runtime} {ending : Outcome Unit}
    (ran : failed index record failure r = (ending,after)) :
    r.Grew after ∧ (ending = .done () ∨ ∃ failure, ending = .raised failure) := by
  rw [failed_run] at ran
  split at ran
  · cases ran
    exact ⟨(Act.OnlyGrows.fail _ : Act.OnlyGrows (α := Unit) _).of_run rfl,.inr ⟨_,rfl⟩⟩
  · split at ran
    · cases ran
      exact ⟨.refl r,.inr ⟨failure,rfl⟩⟩
    · cases ran
      exact ⟨⟨.refl _,rfl⟩,.inl rfl⟩

/-- A record that fails leaves the data roots, every object, the document and the registry as they
were just if its write has retargeted no handle. What is done about the failure then changes nothing
more, and the batch goes on with the value it had. -/
theorem attemptRecord_failed (clean : host.ParserFailsCleanly) (closed : w.runtime.Closed)
    {scope : Address} (inside : scope < w.runtime.store.scopes.size) {record returned : Value}
    (present : record.Present w.runtime.store) {captureOnly : Bool}
    (ran : attemptRecord host scope captureOnly record returned w = (.raised failure,after)) :
    (w.runtime.Grew after.runtime ↔ ¬ w.runtime.Retargets after.runtime) ∧
      ∀ index ending last, processRecord host scope captureOnly index record returned w =
        (ending,last) → after.runtime.Grew last.runtime ∧
          (ending = .done returned ∨ ∃ failure, ending = .raised failure) := by
  refine ⟨Runtime.Fell.grew_iff closed (attemptRecord_fell clean closed inside present ran),?_⟩
  intro index ending last processed
  have attempted : Step.attempt (attemptRecord host scope captureOnly record returned) w =
      (.done (.error failure),after) := by
    unfold Step.attempt
    rw [ran]
  rw [processRecord,Step.bind_done attempted] at processed
  cases handled : failed index record failure after.runtime with
  | mk result left =>
    obtain ⟨grew,ends⟩ := failed_grew handled
    have lifted : (failed index record failure : Run η Unit) after =
        (result,{ after with runtime := left }) :=
      congrArg (fun ended : Outcome Unit × Runtime => (ended.1,{ after with runtime := ended.2 })) handled
    obtain rfl | ⟨other,rfl⟩ := ends
    · dsimp only at processed
      rw [Step.bind_done lifted] at processed
      cases processed
      exact ⟨grew,.inl rfl⟩
    · dsimp only at processed
      rw [Step.bind_raised lifted] at processed
      cases processed
      exact ⟨grew,.inr ⟨other,rfl⟩⟩

/-- The record of an action that sets a location to one. -/
def setting (selector : String) : Dict :=
  Dict.put (Dict.put (Dict.put [] "type" (.str "setdata")) "selector" (.str selector)) "data" (.int 1)

theorem setting_present (selector : String) (link : Link) :
    Dict.Alike link (setting selector) (setting selector) :=
  .cons ⟨Key.text_alike link _,.str _,.str _⟩
    (.cons ⟨Key.text_alike link _,.str _,.str _⟩ (.cons ⟨Key.text_alike link _,.str _,.int 1⟩ .nil))

/-- A page whose state holds a number, and a record that writes below the number. -/
def numbered : World (List (Option Address)) where
  runtime :=
    let entries : Dict := [⟨.text "a",.str "a",.int 5⟩]
    let held := { Page.initial with store := (Page.initial.store.newDict entries).2 }.setRoot "state" (.dict 2)
    (Scope.makeRoot { held with store := (held.store.newDict (setting "$state.a.b")).2 }).2
  host := []

theorem numbered_closed : numbered.runtime.Closed := by
  have entry : Dict.Alike Page.initial.store.identity [⟨.text "a",.str "a",.int 5⟩]
      [⟨.text "a",.str "a",.int 5⟩] := .cons ⟨Key.text_alike _ "a",.str "a",.int 5⟩ .nil
  have held := (Runtime.Closed.initial.newDict entry).setRoot "state" (.dict ⟨rfl,Nat.lt_succ_self 2⟩)
  exact (held.newDict (setting_present "$state.a.b" _)).makeRoot

/-- A write below a number fails and leaves the page as it was. -/
theorem attemptRecord_failed_numbered : ∃ failure after last,
    attemptRecord noting 0 false (.dict 3) .null numbered = (.raised failure,after) ∧
      processRecord noting 0 false 0 (.dict 3) .null numbered = (.done .null,last) ∧
      numbered.runtime.Grew after.runtime ∧ after.runtime.Grew last.runtime := by
  have clean : noting.ParserFailsCleanly := by
    rintro parse ⟨⟩
  have ran : attemptRecord noting 0 false (.dict 3) .null numbered =
      (.raised 0,(attemptRecord noting 0 false (.dict 3) .null numbered).2) := rfl
  have processed : processRecord noting 0 false 0 (.dict 3) .null numbered =
      (.done .null,(processRecord noting 0 false 0 (.dict 3) .null numbered).2) := rfl
  obtain ⟨unchanged,goesOn⟩ := attemptRecord_failed clean numbered_closed
    (show 0 < numbered.runtime.store.scopes.size from Nat.zero_lt_one) (.dict ⟨rfl,by decide⟩) ran
  obtain ⟨grew,-⟩ := goesOn 0 _ _ processed
  refine ⟨_,_,_,ran,processed,unchanged.mpr fun retargets => ?_,grew⟩
  obtain ⟨-,-,-,inside,-⟩ := retargets
  exact absurd inside (Nat.not_lt_zero _)

/-- A page whose state holds a list and a reference that counts its items from the end. The first
item of the list is a reference to the place after its last. -/
def retargeting : World (List (Option Address)) where
  runtime := { Page.initial with
    store := { Page.initial.store with
      lists := ⟨#[[.ref 0,.int 5]]⟩
      handles := ⟨#[.path 0 ⟨⟨.state,0⟩,[.field "l",.index 2]⟩ false,
        .path 0 ⟨⟨.state,0⟩,[.field "l",.index (-2)]⟩ false]⟩
      scopes := ⟨#[⟨none,.null,0,false,some "root",[],none,.null,.none⟩]⟩
      dicts := ⟨#[[],Dict.put (Dict.put [] "l" (.list 0)) "q" (.ref 1),setting "$state.q.z"]⟩ } }
  host := []

/-- A write through that reference fails after the list has become longer. -/
theorem attemptRecord_changes_retargeting : ∃ failure after,
    attemptRecord noting 0 false (.dict 2) .null retargeting = (.raised failure,after) ∧
      after.runtime.rootValue? "state" = some (.dict 1) ∧
      (after.runtime.store.dictAt 1).field "l" = .list 0 ∧
      retargeting.runtime.store.listAt 0 = [.ref 0,.int 5] ∧
      (after.runtime.store.listAt 0).length = 3 ∧ ¬ retargeting.runtime.Grew after.runtime := by
  let after := (attemptRecord noting 0 false (.dict 2) .null retargeting).2
  have root : after.runtime.rootValue? "state" = some (.dict 1) := by decide +kernel
  have entry : (after.runtime.store.dictAt 1).field "l" = .list 0 := by decide +kernel
  have longer : (after.runtime.store.listAt 0).length = 3 := by decide +kernel
  refine ⟨0,after,rfl,root,entry,rfl,longer,fun grew => ?_⟩
  have same : after.runtime.store.listAt 0 = retargeting.runtime.store.listAt 0 :=
    Object.items.inj (grew.store .list 0 Nat.zero_lt_one).2
  rw [same] at longer
  cases longer

end ActionBatch
end PageRuntime
