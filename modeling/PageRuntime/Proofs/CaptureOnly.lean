import PageRuntime.Proofs.BatchClosing
import PageRuntime.Proofs.FailedActions

/-! Batches that only capture. Such a batch builds its value from the payloads of its records; it
touches neither the data roots nor the document nor the registry and runs no refresh. Its value is
no copy, though: a blob of the page that one record gives as the value is extended in place by those
after it. -/
namespace PageRuntime

def Handle.values : Handle → List Value
  | .path scope _ _ => [.scope scope]
  | .sub parent _ => [.ref parent]
  | .locked inner => [.ref inner]
  | .cell value _ => [value]

def Scope.values (scope : Scope) : List Value :=
  [scope.data,.dict scope.specials,scope.component] ++ (scope.parent.map .scope).toList ++
    (scope.handlers.filterMap fun handler => handler.2.node).map .node

def Node.values (node : Node) : List Value :=
  [node.tag,node.style,node.text] ++ Dict.labels node.attrs ++ Dict.values node.attrs ++
    node.children.map .node

/-- The values that an object holds. -/
def Object.values : Object → List Value
  | .items values => values
  | .entries d => Dict.labels d ++ Dict.values d
  | .blob b => [b.mediaType]
  | .node n => n.values
  | .failure f => (f.cause.map .failure).toList ++ (f.trail.map .trail).toList
  | .report r => (r.failure.map .failure).toList ++ (r.trail.map .trail).toList
  | .trail _ => []
  | .handle h => h.values
  | .scope s => s.values
  | .context a => [.scope a]

namespace Runtime

/-- The objects of a runtime that can be reached from its data roots. -/
inductive Reaches (r : Runtime) : Shelf → Address → Prop
  | root {name : String} {v : Value} {shelf : Shelf} {a : Address} (member : (name,v) ∈ r.roots)
      (spot : v.spot? = some (shelf,a)) (inside : a < r.store.sizeOf shelf) : Reaches r shelf a
  | step {shelf other : Shelf} {a b : Address} {v : Value} (reached : Reaches r shelf a)
      (member : v ∈ (r.store.object shelf a).values) (spot : v.spot? = some (other,b))
      (inside : b < r.store.sizeOf other) : Reaches r other b

theorem Reaches.inside {r : Runtime} {shelf : Shelf} {a : Address} (reached : r.Reaches shelf a) :
    a < r.store.sizeOf shelf := by
  cases reached with
  | root _ _ inside => exact inside
  | step _ _ _ inside => exact inside

/-- Objects were made, octets put at the end of blobs and the journal continued. Nothing else has
changed. -/
structure Gained (added : Address → List UInt8) (r after : Runtime) : Prop where
  frame : after.frame = r.frame
  journal : ∃ entries, after.journal = r.journal ++ entries
  inside : ∀ shelf a, a < r.store.sizeOf shelf → a < after.store.sizeOf shelf
  objects : ∀ shelf a, a < r.store.sizeOf shelf → shelf ≠ .blob →
    after.store.object shelf a = r.store.object shelf a
  blobs : ∀ a, a < r.store.sizeOf .blob → after.store.blobAt a =
    { r.store.blobAt a with data := (r.store.blobAt a).data ++ added a }

namespace Gained

variable {r mid after : Runtime} {added more : Address → List UInt8}

theorem of_grew (grew : r.Grew after) (journal : ∃ entries, after.journal = r.journal ++ entries)
    (nothing : ∀ a, added a = []) : r.Gained added after where
  frame := grew.frame
  journal := journal
  inside shelf a inside := (grew.store shelf a inside).1
  objects shelf a inside _ := (grew.store shelf a inside).2
  blobs a inside := by
    rw [nothing,List.append_nil]
    exact Object.blob.inj (grew.store .blob a inside).2

theorem refl (r : Runtime) (nothing : ∀ a, added a = []) : r.Gained added r :=
  of_grew (.refl r) ⟨#[],(Array.append_empty ..).symm⟩ nothing

theorem trans (first : r.Gained added mid) (second : mid.Gained more after) :
    r.Gained (fun a => added a ++ more a) after where
  frame := second.frame.trans first.frame
  journal := by
    obtain ⟨entries,journal⟩ := first.journal
    obtain ⟨others,later⟩ := second.journal
    exact ⟨entries ++ others,by rw [later,journal,Array.append_assoc]⟩
  inside shelf a inside := second.inside shelf a (first.inside shelf a inside)
  objects shelf a inside other :=
    (second.objects shelf a (first.inside shelf a inside) other).trans
      (first.objects shelf a inside other)
  blobs a inside := by
    rw [second.blobs a (first.inside .blob a inside),first.blobs a inside]
    simp only [List.append_assoc]

theorem registry (gained : r.Gained added after) : after.registry = r.registry :=
  show after.frame.registry = r.frame.registry by rw [gained.frame]

/-- The registry may be another one all along. -/
theorem change (gained : r.Gained added after) (change : Registry → Registry) :
    ({ r with registry := change r.registry } : Runtime).Gained added
      { after with registry := change after.registry } where
  frame := congrArg (fun frame : Runtime => { frame with registry := change frame.registry })
    gained.frame
  journal := gained.journal
  inside := gained.inside
  objects := gained.objects
  blobs := gained.blobs

theorem listAt (gained : r.Gained added after) {a : Address} (inside : a < r.store.sizeOf .list) :
    after.store.listAt a = r.store.listAt a :=
  Object.items.inj (gained.objects .list a inside nofun)

theorem object_eq_iff (gained : r.Gained added after) {a : Address}
    (inside : a < r.store.sizeOf .blob) :
    after.store.object .blob a = r.store.object .blob a ↔ added a = [] := by
  have blob := gained.blobs a inside
  show Object.blob (after.store.blobAt a) = Object.blob (r.store.blobAt a) ↔ _
  rw [blob]
  constructor
  · intro same
    have data := congrArg Blob.data (Object.blob.inj same)
    exact List.append_right_eq_self.mp data
  · intro nothing
    rw [nothing,List.append_nil]

end Gained
end Runtime

theorem Act.fail_gained {α : Type} {added : Address → List UInt8} (nothing : ∀ a, added a = [])
    (fault : Fault) {r after : Runtime} {ending : Outcome α}
    (ran : (Act.fail fault : Act α) r = (ending,after)) :
    r.Gained added after ∧ ending ≠ .exhausted := by
  have grew := (Act.OnlyGrows.fail fault).of_run ran
  cases ran
  exact ⟨.of_grew grew ⟨#[],(Array.append_empty ..).symm⟩ nothing,nofun⟩

namespace ActionBatch

/-- A record of a batch that only captures, beside the value built before it and the runtime that it
meets. -/
structure Stage where
  record : Value
  returned : Value
  runtime : Runtime

namespace Stage

/-- The action of the record, if it builds the value of the batch. -/
def building? (stage : Stage) : Option Action :=
  match Action.ofRecord stage.runtime.store stage.record with
  | .ok action =>
    if action.kind.canReturn && action.selector == some Action.returnSelector then some action
    else none
  | .error _ => none

/-- The octets that the record puts at the end of a blob. -/
def added (stage : Stage) (a : Address) : List UInt8 :=
  match stage.building? with
  | some action =>
    if action.kind = .extendBlob ∧ stage.returned = .blob a then
      (Blob.octetsOf stage.runtime.store action.base64).toOption.getD []
    else []
  | none => []

/-- The record makes its payload the value of the batch. -/
def Takes (stage : Stage) (v : Value) : Prop :=
  ∃ action, stage.building? = some action ∧ action.kind = .setData ∧ action.data = v

end Stage

/-- What comes of a record: it has put its octets at the end of a blob, and its value is the one
before it, its payload or a new blob. -/
structure Stage.Leads (stage : Stage) (ending : Outcome Value) (after : Runtime) : Prop where
  gained : stage.runtime.Gained stage.added after
  ends : ending ≠ .exhausted
  value : ∀ v, ending = .done v → v = stage.returned ∨ stage.Takes v ∨
    ∃ a, v = .blob a ∧ stage.runtime.store.sizeOf .blob ≤ a

section Records

variable {record returned : Value} {r after : Runtime} {ending : Outcome Value}

theorem Stage.added_none {stage : Stage} (idle : stage.building? = none) (a : Address) :
    stage.added a = [] := by
  unfold Stage.added
  rw [idle]

theorem Stage.added_building {stage : Stage} {action : Action}
    (building : stage.building? = some action) (a : Address) :
    stage.added a = if action.kind = .extendBlob ∧ stage.returned = .blob a then
      (Blob.octetsOf stage.runtime.store action.base64).toOption.getD [] else [] := by
  unfold Stage.added
  rw [building]

theorem Stage.added_other {stage : Stage} {action : Action}
    (building : stage.building? = some action) (other : action.kind ≠ .extendBlob) (a : Address) :
    stage.added a = [] := by
  rw [stage.added_building building]
  exact if_neg fun both => other both.1

theorem extend_leads {action : Action} {a : Address}
    (building : (Stage.mk record (.blob a) r).building? = some action)
    (kind : action.kind = .extendBlob)
    (ran : capture action (.blob a) r = (ending,after)) :
    (Stage.mk record (.blob a) r).Leads ending after := by
  have added (b : Address) : (Stage.mk record (.blob a) r).added b =
      if a = b then (Blob.octetsOf r.store action.base64).toOption.getD [] else [] := by
    rw [Stage.added_building building]
    simp only [kind,true_and,Value.blob.injEq]
  unfold capture at ran
  rw [kind] at ran
  dsimp only at ran
  rw [Blob.extend,bind_assoc,Step.bind_done (Act.store_run r)] at ran
  cases octets : Blob.octetsOf r.store action.base64 with
  | error fault =>
    rw [octets] at ran added
    have nothing (b : Address) : (Stage.mk record (.blob a) r).added b = [] := by
      rw [added]
      exact ite_self []
    obtain ⟨gained,ends⟩ := Act.fail_gained nothing fault ran
    cases ran
    exact ⟨gained,ends,by simp⟩
  | ok more =>
    rw [octets] at ran added
    cases ran
    have puts := r.store.putBlob_puts a
      { r.store.blobAt a with data := (r.store.blobAt a).data ++ more }
    refine ⟨⟨rfl,⟨#[],(Array.append_empty ..).symm⟩,fun shelf b inside => ?_,fun shelf b inside other => ?_,
      fun b inside => ?_⟩,by simp,?_⟩
    · rwa [puts.sizes]
    · exact puts.others shelf b (.inl other)
    · rw [added]
      by_cases here : a = b
      · subst here
        rw [if_pos rfl]
        exact Object.blob.inj (puts.object inside)
      · rw [if_neg here,List.append_nil]
        exact Object.blob.inj (puts.others .blob b (.inr (Ne.symm here)))
    · rintro v ⟨⟩
      exact .inl rfl

theorem capture_leads {action : Action}
    (building : (Stage.mk record returned r).building? = some action)
    (ran : capture action returned r = (ending,after)) :
    (Stage.mk record returned r).Leads ending after := by
  have keeps (nothing : ∀ a, (Stage.mk record returned r).added a = []) (v : Value)
      (ran : (Pure.pure v : Act Value) r = (ending,after)) (given : v = returned ∨
        (Stage.mk record returned r).Takes v) : (Stage.mk record returned r).Leads ending after := by
    cases ran
    refine ⟨.refl _ nothing,nofun,?_⟩
    rintro _ ⟨⟩
    exact given.imp_right .inl
  have fails (nothing : ∀ a, (Stage.mk record returned r).added a = []) (fault : Fault)
      (ran : (Act.fail fault : Act Value) r = (ending,after)) :
      (Stage.mk record returned r).Leads ending after := by
    obtain ⟨gained,ends⟩ := Act.fail_gained nothing fault ran
    cases ran
    exact ⟨gained,ends,nofun⟩
  cases kind : action.kind with
  | setData =>
    have nothing := Stage.added_other building (by rw [kind]; exact nofun)
    unfold capture at ran
    rw [kind] at ran
    exact keeps nothing _ ran (.inr ⟨action,building,kind,rfl⟩)
  | blob =>
    have nothing := Stage.added_other building (by rw [kind]; exact nofun)
    unfold capture at ran
    rw [kind] at ran
    dsimp only at ran
    rw [Blob.make,Step.bind_done (Act.store_run r)] at ran
    cases octets : Blob.octetsOf r.store action.base64 with
    | error fault =>
      rw [octets] at ran
      exact fails nothing fault ran
    | ok data =>
      rw [octets] at ran
      cases ran
      have grew : r.store.Grew (r.store.newBlob ⟨action.mediaType,data⟩).2 :=
        .of_adds (r.store.newBlob_adds _)
      refine ⟨.of_grew ⟨grew,rfl⟩ ⟨#[],(Array.append_empty ..).symm⟩ nothing,nofun,?_⟩
      rintro _ ⟨⟩
      exact .inr (.inr ⟨_,rfl,Nat.le_refl _⟩)
  | extendBlob =>
    cases returned with
    | blob a => exact extend_leads building kind ran
    | _ =>
      unfold capture at ran
      rw [kind] at ran
      refine fails (fun a => ?_) _ ran
      rw [Stage.added_building building]
      exact if_neg fun both => nomatch both.2
  | invalidate =>
    have nothing := Stage.added_other building (by rw [kind]; exact nofun)
    unfold capture at ran
    rw [kind] at ran
    exact keeps nothing _ ran (.inl rfl)
  | html =>
    have nothing := Stage.added_other building (by rw [kind]; exact nofun)
    unfold capture at ran
    rw [kind] at ran
    exact keeps nothing _ ran (.inl rfl)

end Records

variable {η : Type} {host : Host η} {scope : Address} {w after : World η} {ending : Outcome Value}

theorem attemptRecord_leads {record returned : Value}
    (ran : attemptRecord host scope true record returned w = (ending,after)) :
    (Stage.mk record returned w.runtime).Leads ending after.runtime ∧ after.host = w.host := by
  rw [attemptRecord,Step.bind_done (Step.read_run w)] at ran
  cases normal : Action.ofRecord w.runtime.store record with
  | error fault =>
    have idle : (Stage.mk record returned w.runtime).building? = none := by
      simp only [Stage.building?,normal]
    rw [normal] at ran
    cases ran
    obtain ⟨gained,ends⟩ := Act.fail_gained (Stage.added_none idle) fault (r := w.runtime) rfl
    exact ⟨⟨gained,ends,by simp⟩,rfl⟩
  | ok action =>
    have building : (Stage.mk record returned w.runtime).building? =
        if action.kind.canReturn && action.selector == some Action.returnSelector then some action
        else none := by
      simp only [Stage.building?,normal]
    rw [normal] at ran
    have ran : (if action.kind.canReturn && action.selector == some Action.returnSelector then
        (capture action returned : Run η Value) else return returned) w = (ending,after) := ran
    split at ran
    · next asked =>
      rw [if_pos asked] at building
      obtain ⟨ran,host⟩ := Run.of_ofAct ran
      exact ⟨capture_leads building ran,host⟩
    · next idle =>
      rw [if_neg idle] at building
      cases ran
      refine ⟨⟨.refl _ (Stage.added_none building),by simp,?_⟩,rfl⟩
      rintro _ ⟨⟩
      exact .inl rfl

theorem failed_gained {index : Nat} {record : Value} {failure : Address} {r after : Runtime}
    {ending : Outcome Unit} (ran : failed index record failure r = (ending,after)) :
    r.Gained (fun _ => []) after ∧ ending ≠ .exhausted := by
  rw [failed_run] at ran
  split at ran
  · exact Act.fail_gained (fun _ => rfl) _ ran
  · split at ran
    · cases ran
      exact ⟨.refl r fun _ => rfl,nofun⟩
    · cases ran
      exact ⟨.of_grew ⟨.refl _,rfl⟩ ⟨_,rfl⟩ fun _ => rfl,nofun⟩

theorem processRecord_leads {index : Nat} {record returned : Value}
    (ran : processRecord host scope true index record returned w = (ending,after)) :
    (Stage.mk record returned w.runtime).Leads ending after.runtime ∧ after.host = w.host := by
  rw [processRecord,Step.bind_run] at ran
  unfold Step.attempt at ran
  cases attempted : attemptRecord host scope true record returned w with
  | mk result mid =>
    obtain ⟨leads,untouched⟩ := attemptRecord_leads attempted
    rw [attempted] at ran
    cases result with
    | done v =>
      cases ran
      exact ⟨leads,untouched⟩
    | exhausted => exact absurd rfl leads.ends
    | raised failure =>
      dsimp only at ran
      cases handled : failed index record failure mid.runtime with
      | mk ended last =>
        obtain ⟨gained,ends⟩ := failed_gained handled
        have gained := leads.gained.trans gained
        simp only [List.append_nil] at gained
        have lifted := Run.ofAct_run handled
        cases ended with
        | done _ =>
          rw [Step.bind_done lifted] at ran
          cases ran
          refine ⟨⟨gained,by simp,?_⟩,untouched⟩
          rintro _ ⟨⟩
          exact .inl rfl
        | raised _ =>
          rw [Step.bind_raised lifted] at ran
          cases ran
          exact ⟨⟨gained,by simp,by simp⟩,untouched⟩
        | exhausted => exact absurd rfl ends

/-- The stages that a batch comes to, one for each record until one of them raises. -/
def stages (host : Host η) (scope : Address) : Nat → List Value → Value → World η → List Stage
  | _, [], _, _ => []
  | index, record :: rest, returned, w =>
    ⟨record,returned,w.runtime⟩ ::
      match processRecord host scope true index record returned w with
      | (.done returned, after) => stages host scope (index + 1) rest returned after
      | _ => []

theorem processAll_gained {index : Nat} {records : List Value} {returned : Value}
    (ran : processAll host scope true index records returned w = (ending,after)) :
    w.runtime.Gained (fun a => (stages host scope index records returned w).flatMap (·.added a))
      after.runtime ∧ after.host = w.host ∧ ending ≠ .exhausted := by
  induction records generalizing index returned w with
  | nil =>
    cases ran
    exact ⟨.refl _ fun _ => rfl,rfl,nofun⟩
  | cons record rest ih =>
    rw [processAll,Step.bind_run] at ran
    rw [stages]
    cases processed : processRecord host scope true index record returned w with
    | mk result mid =>
      obtain ⟨leads,untouched⟩ := processRecord_leads processed
      rw [processed] at ran
      cases result with
      | done v =>
        obtain ⟨gained,still,ends⟩ := ih ran
        exact ⟨leads.gained.trans gained,still.trans untouched,ends⟩
      | raised failure =>
        cases ran
        exact ⟨leads.gained.trans (.refl _ fun _ => rfl),untouched,nofun⟩
      | exhausted => exact absurd rfl leads.ends

/-- The blobs of the store come to be the value of a batch as payloads only. -/
theorem stages_taken {size index : Nat} {records : List Value} {returned : Value}
    (here : size ≤ w.runtime.store.sizeOf .blob) {before rest : List Stage} {stage : Stage}
    {a : Address} (reached : stages host scope index records returned w = before ++ stage :: rest)
    (extended : stage.returned = .blob a) (inside : a < size) :
    returned = .blob a ∨ ∃ taking ∈ before, taking.Takes (.blob a) := by
  induction records generalizing index returned w before with
  | nil => cases before <;> cases reached
  | cons record records ih =>
    rw [stages] at reached
    cases before with
    | nil =>
      cases (List.cons.inj reached).1
      exact .inl extended
    | cons first before =>
      obtain ⟨same,later⟩ := List.cons.inj reached
      subst same
      cases processed : processRecord host scope true index record returned w with
      | mk result mid =>
        obtain ⟨leads,-⟩ := processRecord_leads processed
        rw [processed] at later
        cases result with
        | done v =>
          have still : size ≤ mid.runtime.store.sizeOf .blob := by
            cases size with
            | zero => exact Nat.zero_le _
            | succ last => exact leads.gained.inside .blob last here
          obtain same | ⟨taking,member,takes⟩ := ih still later
          · obtain rfl | takes | ⟨b,rfl,outside⟩ := leads.value v rfl
            · exact .inl same
            · exact .inr ⟨_,List.mem_cons_self,same ▸ takes⟩
            · cases same
              exact absurd (Nat.lt_of_lt_of_le inside here) (Nat.not_lt.mpr outside)
          · exact .inr ⟨taking,List.mem_cons_of_mem _ member,takes⟩
        | raised failure => cases before <;> cases later
        | exhausted => exact absurd rfl leads.ends

/-- A list with items is one of the store. -/
theorem list_inside {s : Store} {a : Address} (some : s.listAt a ≠ []) : a < s.sizeOf .list := by
  refine Nat.lt_of_not_le fun outside => some ?_
  rw [Store.listAt,s.lists.get?_outside outside]
  rfl

/-- A batch that only captures leaves the list of its records as it is. -/
theorem processLive_all {list : Address} {fuel index : Nat} {returned : Value}
    (within : index ≤ (w.runtime.store.listAt list).length)
    (enough : (w.runtime.store.listAt list).length < fuel + index) :
    processLive host scope true list fuel index returned w =
      processAll host scope true index ((w.runtime.store.listAt list).drop index) returned w := by
  induction fuel generalizing index returned w with
  | zero => omega
  | succ fuel ih =>
    rw [processLive,Step.bind_done (Step.read_run w)]
    cases here : (w.runtime.store.listAt list)[index]? with
    | none =>
      rw [List.drop_eq_nil_of_le (List.getElem?_eq_none_iff.mp here)]
      rfl
    | some record =>
      obtain ⟨earlier,rfl⟩ := List.getElem?_eq_some_iff.mp here
      rw [List.drop_eq_getElem_cons earlier,processAll]
      dsimp only
      rw [Step.bind_run,Step.bind_run]
      cases processed : processRecord host scope true index (w.runtime.store.listAt list)[index]
          returned w with
      | mk result mid =>
        obtain ⟨leads,-⟩ := processRecord_leads processed
        cases result with
        | done v =>
          have same := leads.gained.listAt (list_inside (List.ne_nil_of_length_pos (Nat.zero_lt_of_lt earlier)))
          dsimp only at same ⊢
          rw [ih (by rw [same]; exact earlier) (by rw [same]; omega),same]
        | raised failure => rfl
        | exhausted => exact absurd rfl leads.ends

/-- The records that a batch takes from a value. -/
def recordsOf (s : Store) (actions : Value) : List Value := (s.itemsOf actions).toOption.getD []

theorem processItems_gained {actions : Value}
    (ran : processItems host scope true actions w = (ending,after)) :
    w.runtime.Gained (fun a =>
        (stages host scope 0 (recordsOf w.runtime.store actions) .null w).flatMap (·.added a))
      after.runtime ∧ after.host = w.host ∧ ending ≠ .exhausted := by
  have taken (ran : ((Act.ofExcept (w.runtime.store.itemsOf actions) : Run η (List Value)) >>=
        fun records => processAll host scope true 0 records .null) w = (ending,after)) :
      w.runtime.Gained (fun a =>
          (stages host scope 0 (recordsOf w.runtime.store actions) .null w).flatMap (·.added a))
        after.runtime ∧ after.host = w.host ∧ ending ≠ .exhausted := by
    unfold recordsOf
    cases listed : w.runtime.store.itemsOf actions with
    | ok records =>
      rw [listed] at ran
      exact processAll_gained ran
    | error fault =>
      rw [listed] at ran
      cases ran
      obtain ⟨gained,-⟩ := Act.fail_gained (α := List Value) (fun _ => rfl) fault (r := w.runtime) rfl
      exact ⟨gained,rfl,nofun⟩
  rw [processItems,Step.bind_done (Step.read_run w)] at ran
  cases actions with
  | list a =>
    dsimp only at ran
    rw [processLive_all (Nat.zero_le _) (by unfold growthLimit; omega)] at ran
    exact processAll_gained ran
  | _ => exact taken ran

/-- The world in which a batch comes to its first record. -/
def begun (w : World η) : World η :=
  Sweep.opened { w with runtime := (Scope.makeRoot w.runtime).2 }

/-- The stages of a batch that only captures. -/
def capturing (host : Host η) (actions : Value) (w : World η) : List Stage :=
  stages host w.runtime.store.scopes.size 0 (recordsOf (begun w).runtime.store actions) .null (begun w)

theorem makeRoot_gained (r : Runtime) : r.Gained (fun _ => []) (Scope.makeRoot r).2 :=
  .of_grew (Scope.makeRoot_onlyGrows r) ⟨#[],(Array.append_empty ..).symm⟩ fun _ => rfl

theorem process_begun {actions : Value} (given : actions ≠ .null) (captureOnly : Bool) :
    process host actions captureOnly w = Step.thenAlways
      (processItems host w.runtime.store.scopes.size captureOnly actions) (Sweep.leave host)
        (begun w) := by
  have listed : (actions == .null) = false := by simpa using given
  simp only [process,listed]
  rfl

/-- A batch whose records have left the registry alone closes without a refresh. -/
theorem leave_begun (host : Host η) (settled : w.depth = 0 → w.runtime.registry.pending = []) {mid : World η}
    (same : mid.runtime.registry = (begun w).runtime.registry) :
    Sweep.leave host mid = (.done (),{ mid with
      runtime.registry := { mid.runtime.registry with depth := mid.runtime.registry.depth - 1 } }) := by
  have idle : ((w.runtime.registry.depth + 1 - 1) == 0 && !w.runtime.registry.pending.isEmpty) =
      false := by
    cases depth : w.runtime.registry.depth with
    | zero =>
      rw [settled depth]
      rfl
    | succ => rfl
  rw [Sweep.leave_run,same]
  exact congrArg (fun waits : Bool => (if waits then _ else Pure.pure () : Run η Unit) _) idle

theorem process_gained {actions : Value} (given : actions ≠ .null)
    (settled : w.depth = 0 → w.runtime.registry.pending = [])
    (ran : process host actions true w = (ending,after)) :
    w.runtime.Gained (fun a => (capturing host actions w).flatMap (·.added a)) after.runtime ∧
      after.host = w.host ∧ ending ≠ .exhausted := by
  rw [process_begun given,Step.thenAlways] at ran
  cases passed : processItems host w.runtime.store.scopes.size true actions (begun w) with
  | mk result mid =>
    obtain ⟨gained,untouched,ends⟩ := processItems_gained passed
    have left := leave_begun host settled gained.registry
    have closed := gained.change fun registry => { registry with depth := registry.depth - 1 }
    have whole := (makeRoot_gained w.runtime).trans closed
    rw [passed] at ran
    cases result with
    | exhausted => exact absurd rfl ends
    | done v =>
      dsimp only at ran
      rw [left] at ran
      cases ran
      exact ⟨whole,untouched,by simp⟩
    | raised failure =>
      dsimp only at ran
      rw [left] at ran
      cases ran
      exact ⟨whole,untouched,by simp⟩

/-- What such a batch extends of the blobs that were there, one of its records has given before. -/
theorem capturing_taken {actions : Value} {before rest : List Stage} {stage : Stage} {a : Address}
    (reached : capturing host actions w = before ++ stage :: rest)
    (extended : stage.returned = .blob a) (inside : a < w.runtime.store.sizeOf .blob) :
    ∃ taking ∈ before, taking.Takes (.blob a) := by
  have here : w.runtime.store.sizeOf .blob ≤ (begun w).runtime.store.sizeOf .blob := Nat.le_refl _
  obtain new | taken := stages_taken here reached extended inside
  · cases new
  · exact taken

/-- A batch that only captures ends, runs no refresh and leaves the data roots, the document and the
registry as they were. All that it changes of what can be reached from the roots are blobs that a
record has given as the value of the batch and a later one has extended; without these, the objects
are as they were, and only then. -/
theorem process_only_extends (host : Host η) (actions : Value) {w : World η}
    (settled : w.depth = 0 → w.runtime.registry.pending = []) :
    ∃ ending after, process host actions true w = (ending,after) ∧ ending ≠ .exhausted ∧
      after.host = w.host ∧
      w.runtime.Gained (fun a => (capturing host actions w).flatMap (·.added a)) after.runtime ∧
      (∀ before stage rest a, capturing host actions w = before ++ stage :: rest →
        w.runtime.Reaches .blob a → stage.returned = .blob a →
          ∃ taking ∈ before, taking.Takes (.blob a)) ∧
      ((∀ shelf a, w.runtime.Reaches shelf a →
          after.runtime.store.object shelf a = w.runtime.store.object shelf a) ↔
        ∀ a, w.runtime.Reaches .blob a → ∀ stage ∈ capturing host actions w, stage.added a = []) := by
  have finds : ∃ ending after, process host actions true w = (ending,after) ∧ ending ≠ .exhausted ∧
      after.host = w.host ∧
      w.runtime.Gained (fun a => (capturing host actions w).flatMap (·.added a)) after.runtime := by
    by_cases given : actions = .null
    · subst given
      exact ⟨_,w,rfl,nofun,rfl,.refl _ fun _ => rfl⟩
    · obtain ⟨gained,untouched,ends⟩ := process_gained given settled rfl
      exact ⟨_,_,rfl,ends,untouched,gained⟩
  obtain ⟨ending,after,ran,ends,untouched,gained⟩ := finds
  refine ⟨ending,after,ran,ends,untouched,gained,?_,?_,?_⟩
  · exact fun before stage rest a reached held extended =>
      capturing_taken reached extended held.inside
  · intro same a held
    have nothing := (gained.object_eq_iff held.inside).mp (same .blob a held)
    exact List.flatMap_eq_nil_iff.mp nothing
  · intro nothing shelf a held
    by_cases blob : shelf = .blob
    · subst blob
      exact (gained.object_eq_iff held.inside).mpr (List.flatMap_eq_nil_iff.mpr (nothing a held))
    · exact gained.objects shelf a held.inside blob

/-- A page whose state holds a blob, and two records: one gives the blob as the value of the batch,
the other extends it. -/
def lent : World Unit where
  runtime := { Page.initial with
    store := { Page.initial.store with
      blobs := ⟨#[⟨.str "text/plain",[97]⟩]⟩
      dicts := ⟨#[[],Dict.put [] "b" (.blob 0),
        Dict.put (Dict.put (Dict.put [] "type" (.str "setdata")) "selector" (.str "@rtn"))
          "data" (.blob 0),
        Dict.put (Dict.put (Dict.put [] "type" (.str "blobext")) "selector" (.str "@rtn"))
          "blobbase64" (.str "Yg==")]⟩
      tuples := ⟨#[[.dict 2,.dict 3]]⟩ } }
  host := ()

theorem lent_reaches : lent.runtime.Reaches .blob 0 := by
  have state : ("state",Value.dict 1) ∈ lent.runtime.roots := by decide
  have root : lent.runtime.Reaches .dict 1 := .root state rfl (by decide)
  have member : Value.blob 0 ∈ (lent.runtime.store.object .dict 1).values := by decide
  exact .step root member rfl (by decide)

theorem process_only_extends_lent : ∃ ending after,
    process Host.idle (.tuple 0) true lent = (ending,after) ∧ ending ≠ .exhausted ∧
      (capturing Host.idle (.tuple 0) lent).map (·.added 0) = [[],[98]] ∧
      after.runtime.store.blobAt 0 = ⟨.str "text/plain",[97,98]⟩ := by
  obtain ⟨ending,after,ran,ends,-,gained,-⟩ := process_only_extends Host.idle (.tuple 0) (w := lent)
    fun _ => rfl
  have added : (capturing Host.idle (.tuple 0) lent).map (·.added 0) = [[],[98]] := by decide
  refine ⟨ending,after,ran,ends,added,?_⟩
  rw [gained.blobs 0 lent_reaches.inside,List.flatMap_def,added]
  rfl

/-- The value of a batch that only captures is no copy of the state. -/
theorem process_extends_lent : ∃ after,
    process Host.idle (.tuple 0) true lent = (.done (.blob 0),after) ∧
      lent.runtime.Reaches .blob 0 ∧ lent.runtime.store.blobAt 0 = ⟨.str "text/plain",[97]⟩ ∧
      after.runtime.store.blobAt 0 = ⟨.str "text/plain",[97,98]⟩ :=
  ⟨_,rfl,lent_reaches,rfl,by decide⟩

end ActionBatch
end PageRuntime
