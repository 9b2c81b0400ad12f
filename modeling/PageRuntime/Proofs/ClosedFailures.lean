import PageRuntime.Proofs.FailedActions
import PageRuntime.Proofs.LikeWorlds

/-! Actions that fail leave a closed runtime closed: whatever they have made or written before they failed
holds objects of the store. -/
namespace PageRuntime
open PageRuntime.Act (Follows)

variable {α β : Type}

/-- If the step fails, it leaves a closed runtime. -/
def Act.Closes (r : Runtime) (act : Act α) : Prop :=
  ∀ failure after, act r = (.raised failure,after) → after.Closed

namespace Act.Closes

variable {r : Runtime} (closed : r.Closed)

theorem pure (x : α) : Closes r (Pure.pure x) := by
  rintro failure after ⟨⟩

theorem of_matches {act : Act α} {rel : Link → α → α → Prop}
    (same : Matches r.store.identity r r rel act act) : Closes r act :=
  fun _ _ ran => same.closed act ran

/-- What comes after a step that ends with a value starts from a closed runtime that has all that there
was. -/
theorem bind {act : Act α} {next : α → Act β} {rel : Link → α → α → Prop}
    (follows : Follows r.store.identity r r rel act act) (stays : Closes r act)
    (later : ∀ mid x, mid.Closed → r.store.identity.Le mid.store.identity →
      rel mid.store.identity x x → Closes mid (next x)) : Closes r (act >>= next) := by
  intro failure after ran
  obtain failed | ⟨x,mid,done,onwards⟩ := Step.raised_of_bind ran
  · exact stays failure after failed
  · obtain ⟨closed,related⟩ := follows.closed act done
    obtain ⟨_,_,_,onward,-⟩ := follows x mid done
    refine later mid x closed (fun shelf _ _ linked => ⟨linked.1,?_⟩) related failure after onwards
    exact Nat.lt_of_lt_of_le linked.2 (onward.wider shelf)

theorem store {next : Store → Act β} (later : Closes r (next r.store)) :
    Closes r (Act.store >>= next) := later

include closed

theorem fail (fault : Fault) : Closes r (Act.fail fault : Act α) :=
  of_matches (.fail closed.twin fault : Matches _ _ _ (fun _ _ _ => True) _ _)

theorem bind_ofExcept {result : Except Fault α} {next : α → Act β}
    (later : ∀ x, result = .ok x → Closes r (next x)) : Closes r (Act.ofExcept result >>= next) := by
  cases result with
  | ok x => exact later x rfl
  | error fault => exact fail closed fault

end Act.Closes

open PageRuntime.Act (Closes)

namespace Node

/-- Nodes are made one after the other, each from a closed runtime. -/
theorem children_closed {fuel : Nat} {r : Runtime} (closed : r.Closed) {children : List Value}
    (present : Values.Alike r.store.identity children children) {nodes : List Address} {mid : Runtime}
    (made : children.mapM (ofValueWithin fuel) r = (.done nodes,mid)) : mid.Closed := by
  have steps : Follows r.store.identity r r (fun link => List.Forall₂ (Linked link))
      (children.mapM (ofValueWithin fuel)) (children.mapM (ofValueWithin fuel)) :=
    .mapM Linked.mono (ofValueWithin_onlyGrows fuel) (ofValueWithin_onlyGrows fuel)
      (fun _ _ _ _ _ later twin one =>
        ofValueWithin_follows twin (one.mono later.le) (.inl (Nat.le_refl _)))
      present ⟨.refl _,.refl _,.refl _,closed.store⟩ closed.twin
  exact (steps.closed _ made).1

theorem children_closes {fuel : Nat} (inner : ∀ {v : Value} {r : Runtime}, r.Closed →
      v.Present r.store → Closes r (ofValueWithin fuel v)) {children : List Value} {r : Runtime}
    (closed : r.Closed) (present : Values.Alike r.store.identity children children) :
    Closes r (children.mapM (ofValueWithin fuel)) := by
  induction children generalizing r with
  | nil => exact .pure []
  | cons child children ih =>
    obtain ⟨first,rest⟩ := List.forall₂_cons.mp present
    rw [List.mapM_cons]
    refine .bind (ofValueWithin_follows closed.twin first (.inl (Nat.le_refl _))) (inner closed first)
      fun mid _ midClosed wider _ failure after ran => ?_
    obtain failed | ⟨nodes,last,-,made⟩ := Step.raised_of_bind ran
    · exact ih midClosed (Values.Alike.mono wider rest) failure after failed
    · cases made

theorem assemble_closes {fuel : Nat} (inner : ∀ {v : Value} {r : Runtime}, r.Closed →
      v.Present r.store → Closes r (ofValueWithin fuel v)) {r : Runtime} (closed : r.Closed)
    (s : Store) (d : Dict) {children : List Value}
    (present : Values.Alike r.store.identity children children) :
    Closes r (assemble fuel s d children) := by
  intro failure after ran
  obtain failed | ⟨nodes,mid,made,onwards⟩ := Step.raised_of_bind ran
  · exact children_closes inner closed present failure after failed
  · refine Closes.bind_ofExcept (children_closed closed present made) (fun attrs _ => ?_) failure after onwards
    rintro failure after ⟨⟩

theorem ofValueWithin_closes (fuel : Nat) : ∀ {v : Value} {r : Runtime}, r.Closed →
    v.Present r.store → Closes r (ofValueWithin fuel v) := by
  induction fuel with
  | zero => exact fun closed _ => .fail closed _
  | succ fuel ih =>
    intro v r closed present
    obtain ⟨a,rfl⟩ | form := Classical.em (∃ a, v = .node a)
    · exact .pure a
    · rw [ofValueWithin]
      · refine Closes.store (.bind_ofExcept closed fun named _ => ?_)
        split
        · exact .fail closed _
        · have entries := closed.store.mapping? present
          cases mapping : r.store.mapping? v with
          | none => exact .fail closed _
          | some d =>
            rw [mapping] at entries
            cases entries with
            | some entries =>
              refine .bind_ofExcept closed fun children listed => ?_
              obtain ⟨_,again,inputs⟩ := listedChildren_yields closed.store entries children listed
              obtain rfl := Except.ok.inj (listed.symm.trans again)
              exact assemble_closes ih closed r.store d inputs
      · exact fun a same => form ⟨a,same⟩

theorem ofValue_closes {v : Value} {r : Runtime} (closed : r.Closed) (present : v.Present r.store) :
    Closes r (ofValue v) := .store (ofValueWithin_closes _ closed present)

end Node

theorem Blob.make_closes {r : Runtime} (closed : r.Closed) (mediaType base64 : Value) :
    Closes r (make mediaType base64) :=
  .store (.bind_ofExcept closed fun data _ => by
    rintro failure after ⟨⟩)

theorem Blob.extend_closes {r : Runtime} (closed : r.Closed) (a : Address) (base64 : Value) :
    Closes r (extend a base64) :=
  .store (.bind_ofExcept closed fun data _ => by
    rintro failure after ⟨⟩)

open PageRuntime.Reference (Target)

theorem Setop.applyNamed_closes {r : Runtime} {target : Target}
    (there : target.Alike r.store.identity target) (closed : r.Closed) {v : Value}
    (present : v.Present r.store) (setop : Value) : Closes r (applyNamed setop target v) := by
  have unknown (fault : Store → Fault) :
      Closes r (Act.store >>= fun s => Act.fail (fault s) : Act Unit) := .store (.fail closed _)
  unfold applyNamed
  cases setop with
  | str name =>
    dsimp only
    cases ofName? name with
    | none => exact unknown _
    | some known => exact .of_matches (apply_endsAlike there closed.twin present known)
  | _ => exact unknown _

namespace ActionBatch

theorem copyOf_closes {r : Runtime} (closed : r.Closed) (v : Value) : Closes r (copyOf v) :=
  .store (.bind_ofExcept closed fun copied _ => by
    rintro failure after ⟨⟩)

section Applying

variable {r : Runtime} (closed : r.Closed) {action : Action}
  (same : action.Alike r.store.identity action)
include closed same

theorem capture_closes {returned : Value} (present : returned.Present r.store) :
    Closes r (capture action returned) := by
  unfold capture
  cases action.kind with
  | setData => exact .pure _
  | blob => exact Blob.make_closes closed _ _
  | extendBlob =>
    cases present with
    | blob linked =>
      exact .bind (Blob.extend_completes closed.twin linked same.base64)
        (Blob.extend_closes closed _ _) fun _ _ _ _ _ => .pure _
    | _ => exact .fail closed _
  | invalidate => exact .pure _
  | html => exact .pure _

variable {scope : Address} (linked : r.store.identity .scope scope scope)
include linked

omit same linked in
theorem target_closes : Closes r (target scope action) := .bind_ofExcept closed fun _ _ => .pure _

theorem applyData_closes : Closes r (applyData scope action) := by
  refine .bind (target_follows same closed.twin linked) (target_closes closed) ?_
  intro mid place closed wider there
  refine .bind (copyOf_follows closed.twin (same.data.mono wider)) (copyOf_closes closed _) ?_
  intro last data closed further copied
  exact Setop.applyNamed_closes (there.mono further) closed copied _

theorem applyBlob_closes : Closes r (applyBlob scope action) := by
  refine .bind (target_follows same closed.twin linked) (target_closes closed) ?_
  intro mid place closed wider there
  refine .bind (Blob.make_follows closed.twin (same.mediaType.mono wider) (same.base64.mono wider))
    (Blob.make_closes closed _ _) ?_
  intro last blob closed further made
  exact .of_matches (Target.set_endsAlike (there.mono further) closed.twin made)

theorem extendBlob_closes : Closes r (extendBlob scope action) := by
  refine .bind (target_follows same closed.twin linked) (target_closes closed) ?_
  intro mid place closed wider there
  have got := Target.get_matches there closed.twin
  refine .bind got.follows (.of_matches got) fun last found closed further met => ?_
  split
  · exact Blob.extend_closes closed _ _
  · exact .fail closed _

end Applying
end ActionBatch

variable {η : Type} {host : Host η} {same : Likewise η} (even : host.EvenHanded same) {w after : World η}
  (twin : w.Twin same w.runtime.store.identity w)

theorem World.Twin.closed {w : World η} (twin : w.Twin same w.runtime.store.identity w) :
    w.runtime.Closed := twin.runtime.alike

include even twin

theorem Document.replace_closed {payload : Value} (present : payload.Present w.runtime.store)
    {failure : Address} (ran : replace host payload w = (.raised failure,after)) :
    after.runtime.Closed := by
  obtain ⟨parse,text,given,failed⟩ | failed | ⟨fault,failed⟩ := replace_raised ran
  · obtain ⟨_,otherAfter,otherRan,onward,-⟩ := even.parse parse given text _ w w twin _ _ failed
    obtain ⟨-,rfl⟩ := Prod.mk.inj (failed.symm.trans otherRan)
    exact onward.runtime.closed
  · exact Node.ofValue_closes twin.closed present failure _ failed
  · exact Closes.fail twin.closed fault failure _ failed

namespace ActionBatch

variable {scope : Address} (linked : w.runtime.store.identity .scope scope scope)
include linked

theorem apply_closed {action : Action} (decoded : action.Alike w.runtime.store.identity action)
    {failure : Address} (ran : apply host scope action w = (.raised failure,after)) :
    after.runtime.Closed := by
  have closes {act : Act Unit} (closes : Closes w.runtime act)
      (ran : (act : Run η Unit) w = (.raised failure,after)) : after.runtime.Closed :=
    closes failure _ (Run.of_ofAct ran).1
  unfold apply at ran
  cases kind : action.kind with
  | setData =>
    rw [kind] at ran
    exact closes (applyData_closes twin.closed decoded linked) ran
  | blob =>
    rw [kind] at ran
    exact closes (applyBlob_closes twin.closed decoded linked) ran
  | extendBlob =>
    rw [kind] at ran
    exact closes (extendBlob_closes twin.closed decoded linked) ran
  | invalidate =>
    rw [kind] at ran
    obtain ⟨fault,failed⟩ := sweep_raised ran
    exact Closes.fail twin.closed fault failure _ failed
  | html =>
    rw [kind] at ran
    exact Document.replace_closed even twin decoded.data ran

/-- An attempt at a record that fails leaves a closed runtime closed. -/
theorem attemptRecord_closed {record returned : Value} (present : record.Present w.runtime.store)
    (before : returned.Present w.runtime.store) {captureOnly : Bool} {failure : Address}
    (ran : attemptRecord host scope captureOnly record returned w = (.raised failure,after)) :
    after.runtime.Closed := by
  obtain ⟨fault,failed⟩ | ⟨action,normal,failed⟩ := attemptRecord_raised ran
  · exact Closes.fail twin.closed fault failure _ failed
  · obtain ⟨_,again,decoded⟩ := Action.ofRecord_yields twin.closed.store present action normal
    obtain rfl := Except.ok.inj (normal.symm.trans again)
    obtain failed | failed := failed
    · exact capture_closes twin.closed decoded before failure _ failed
    · exact apply_closed even twin linked decoded failed

end ActionBatch
end PageRuntime
