import PageRuntime.Proofs.ReturnValues

/-! Batches that return the same. A batch that only captures returns just if every record that fails is
logged, so the records on the return selector alone make a batch that returns; and whatever else a batch
does, it returns what these build. -/
namespace PageRuntime

theorem Store.keyWithin_only (s : Store) (blobs : Table Blob) (failures : Table Failure) (fuel : Nat)
    (v : Value) : ({ s with blobs, failures } : Store).keyWithin fuel v = s.keyWithin fuel v := by
  induction fuel generalizing v with
  | zero => rfl
  | succ fuel ih =>
    have same : ({ s with blobs, failures } : Store).keyWithin fuel = s.keyWithin fuel := funext ih
    cases v with
    | tuple a =>
      rw [keyWithin,keyWithin,same]
      rfl
    | fset a =>
      rw [keyWithin,keyWithin,same]
      rfl
    | _ => rfl

theorem Store.Covers.of_inside {s : Store} {v : Value} (inside : ∀ w, s.Within v w → w.Inside s) :
    s.Covers (fun _ _ => True) v :=
  fun w within shelf a here => ⟨inside w within shelf a here,fun _ => trivial⟩

namespace ActionBatch

variable {η : Type} {host : Host η} {base r after : Runtime} {g : Gathered} {record v : Value}

/-- A batch that only captures has come to a value and to a page that differs from the one it began
with in blobs, failures and the journal alone. -/
structure Gathered.Alone (base : Runtime) (g : Gathered) (r : Runtime) (v : Value) : Prop where
  only : r = { base with
    store := { base.store with blobs := r.store.blobs, failures := r.store.failures }
    journal := r.journal }
  shows : g.Shows (fun _ _ => True) base r v

/-- The record builds nothing there, because it is not read as an action on the return selector or
because its action fails. -/
def Gathered.Fails (base : Runtime) (g : Gathered) (record : Value) : Prop :=
  (Stage.mk record .null (g.page base)).building?.bind (g.capture base) = none

/-- If the record fails it is logged. -/
def Logs (base : Runtime) (record : Value) : Prop :=
  ∃ kind, severityKind base.store (writtenIn base.store record) = .ok kind ∧
    (base.settings.severityOf kind == .raise) = false

/-- The records that fail while they build the value of a batch are logged. -/
def Passes (base : Runtime) : Gathered → List Value → Prop
  | _, [] => True
  | g, record :: rest => (g.Fails base record → Logs base record) ∧ Passes base (g.step base record) rest

/-- Whether a record is on the return selector: it is a mapping, names that selector, and is of a kind
that can build the value of a batch. -/
def onReturn (s : Store) (record : Value) : Bool :=
  (s.mapping? record).any fun d => ((Action.kindOf? s (Action.writtenKind d)).any (·.canReturn)) &&
    Action.either d "selector" "path" == .str Action.returnSelector

theorem capture_only {action : Action} {w : Value} (ran : capture action v r = (.done w,after)) :
    after = { r with store := { r.store with blobs := after.store.blobs } } := by
  unfold capture at ran
  cases kind : action.kind with
  | blob =>
    rw [kind] at ran
    dsimp only at ran
    rw [Blob.make,Step.bind_done (Act.store_run r)] at ran
    obtain ⟨data,mid,read,made⟩ := Step.done_of_bind ran
    obtain ⟨-,rfl⟩ := Act.ofExcept_done read
    cases made
    rfl
  | extendBlob =>
    rw [kind] at ran
    cases v with
    | blob a =>
      obtain ⟨_,mid,extended,ended⟩ := Step.done_of_bind ran
      cases ended
      rw [Blob.extend,Step.bind_done (Act.store_run r)] at extended
      obtain ⟨more,_,read,put⟩ := Step.done_of_bind extended
      obtain ⟨-,rfl⟩ := Act.ofExcept_done read
      cases put
      rfl
    | _ => cases ran
  | _ =>
    rw [kind] at ran
    cases ran
    rfl

theorem severityKind_only (alone : g.Alone base r v)
    (inside : ∀ w, base.store.Within record w → w.Inside base.store) :
    (severityKind r.store (writtenIn r.store record)).toOption =
      (severityKind base.store (writtenIn base.store record)).toOption := by
  have failures (a : Address) (inside : a < base.store.sizeOf .failure) :
      r.store.failureAt a = base.store.failureAt a :=
    Object.failure.inj (alone.shows.objects .failure a inside trivial)
  have store : r.store = { base.store with blobs := r.store.blobs, failures := r.store.failures } :=
    congrArg Runtime.store alone.only
  have written : writtenIn r.store record = writtenIn base.store record := by
    rw [store]
    cases record <;> rfl
  have key (w : Value) : r.store.key? w = base.store.key? w := by
    rw [store]
    exact Store.keyWithin_only _ _ _ _ _
  have kind : Action.kindOf? r.store (writtenIn base.store record) =
      Action.kindOf? base.store (writtenIn base.store record) := by
    refine Action.kindOf?_congr fun a here => failures a ?_
    unfold writtenIn at here
    cases mapping : base.store.mapping? record with
    | none =>
      rw [mapping] at here
      cases here
    | some d =>
      rw [mapping] at here
      have here : Action.either d "type" "kind" = .failure a := here
      exact Dict.either_inside mapping inside "type" "kind" .failure a (by rw [here]; rfl)
  rw [written]
  generalize writtenIn base.store record = named at kind
  unfold severityKind severityKind.kindOf?
  rw [kind]
  cases Action.kindOf? base.store named with
  | some kind => rfl
  | none =>
    cases named with
    | null => rfl
    | str text => rfl
    | _ =>
      dsimp only
      rw [key]
      split <;> rfl

/-- A record that is read as one that builds the value of a batch is on the return selector. -/
theorem onReturn_read {s t : Store} {action : Action} (read : Action.ofRecord t record = .ok action)
    (mapping : t.mapping? record = s.mapping? record)
    (kind : ∀ d, s.mapping? record = some d →
      Action.kindOf? t (Action.writtenKind d) = Action.kindOf? s (Action.writtenKind d)) :
    (action.kind.canReturn && action.selector == some Action.returnSelector) = onReturn s record := by
  obtain ⟨d,here,known,selector,-⟩ := Action.ofRecord_given read
  rw [mapping] at here
  rw [onReturn,here,Option.any_some,← kind d here,known,Option.any_some,selector,Action.selector_asked]

/-- A record beside the return selector builds nothing. -/
theorem Gathered.step_beside (beside : onReturn base.store record = false) : g.step base record = g := by
  refine Gathered.step_idle (Option.eq_none_iff_forall_ne_some.mpr fun action building => ?_)
  obtain ⟨read,asked⟩ := Stage.building_read building
  have known := onReturn_read read (Gathered.page_mapping? record) fun d _ =>
    Action.kindOf?_congr fun _ _ => rfl
  rw [asked,beside] at known
  cases known

theorem gathered_filter (records : List Value) :
    gathered base (records.filter (onReturn base.store)) = gathered base records := by
  unfold gathered
  generalize (⟨.held .null,base.store.blobs⟩ : Gathered) = g
  induction records generalizing g with
  | nil => rfl
  | cons record rest ih =>
    cases asked : onReturn base.store record with
    | true => rw [List.filter_cons_of_pos asked,List.foldl_cons,List.foldl_cons,ih]
    | false =>
      rw [List.filter_cons_of_neg (by rw [asked]; exact Bool.false_ne_true),List.foldl_cons,
        Gathered.step_beside asked,ih]

theorem Gathered.Fails.step {base : Runtime} {g : Gathered} {record : Value}
    (fails : g.Fails base record) : g.step base record = g := by
  unfold Gathered.Fails at fails
  unfold Gathered.step
  split
  · next known =>
    rw [known] at fails
    rw [show g.capture base _ = none from fails,Option.getD_none]
  · rfl

namespace Gathered.Alone

variable {u : World η} {scope : Address} {captureOnly : Bool} {index : Nat} {x : Value}

section Reading

variable (alone : g.Alone base r v)
include alone

theorem store : r.store = { base.store with blobs := r.store.blobs, failures := r.store.failures } :=
  congrArg Runtime.store alone.only

theorem mapping? (w : Value) : r.store.mapping? w = base.store.mapping? w := by
  rw [alone.store]
  cases w <;> rfl

theorem listAt (a : Address) : r.store.listAt a = base.store.listAt a := by
  rw [alone.store]
  rfl

variable (inside : ∀ w, base.store.Within record w → w.Inside base.store)
include inside

/-- What the record is read as builds the value of the batch just if the record is on the return
selector. -/
theorem decoded {action : Action} (read : Action.ofRecord r.store record = .ok action) :
    (action.kind.canReturn && action.selector == some Action.returnSelector) =
      onReturn base.store record := by
  refine onReturn_read read (alone.mapping? record) fun d mapping => ?_
  refine Action.kindOf?_congr fun a written => ?_
  have here : a < base.store.sizeOf .failure :=
    Dict.either_inside mapping inside "type" "kind" .failure a (by rw [← Action.writtenKind,written]; rfl)
  exact Object.failure.inj (alone.shows.objects .failure a here trivial)

omit inside in
theorem fail (fault : Fault) : g.Alone base
    { r with store := (r.store.newFailure ⟨fault,none,none⟩).2 } v := by
  have grew : r.store.Grew (r.store.newFailure ⟨fault,none,none⟩).2 :=
    .of_adds (r.store.newFailure_adds _)
  have shows := alone.shows
  refine ⟨?_,shows.size,fun shelf => ?_,fun shelf a here held => ?_,?_⟩
  · conv_lhs => rw [alone.only]
    rfl
  · exact Nat.le_trans (shows.sizes shelf) (grew.sizeOf_le shelf)
  · rw [(grew shelf a (Nat.lt_of_lt_of_le here (shows.sizes shelf))).2]
    exact shows.objects shelf a here held
  · exact shows.built.later (grew.sizeOf_le .blob) fun a _ there =>
      Object.blob.inj (grew .blob a there).2

omit inside in
theorem journal (entries : Array Entry) :
    g.Alone base { r with journal := r.journal ++ entries } v := by
  have shows := alone.shows
  refine ⟨?_,shows.size,shows.sizes,shows.objects,shows.built.later (Nat.le_refl _) fun _ _ _ => rfl⟩
  conv_lhs => rw [alone.only]

/-- A record that fails is logged, or failures of its kind are raised. -/
theorem failed (index : Nat) (failure : Address) :
    (Logs base record → ∃ mid, ActionBatch.failed index record failure r = (.done (),mid) ∧
      g.Alone base mid v) ∧
    ∀ after, ActionBatch.failed index record failure r = (.done (),after) → Logs base record := by
  have known := severityKind_only alone inside
  have settings : r.settings = base.settings := by
    conv_lhs => rw [alone.only]
  rw [failed_run]
  constructor
  · rintro ⟨kind,named,loud⟩
    rw [named] at known
    cases here : severityKind r.store (writtenIn r.store record) with
    | error fault =>
      rw [here] at known
      cases known
    | ok other =>
      rw [here] at known
      obtain rfl : other = kind := Option.some.inj known
      rw [← settings] at loud
      dsimp only
      rw [loud]
      exact ⟨_,rfl,alone.journal _⟩
  · intro after ran
    cases here : severityKind r.store (writtenIn r.store record) with
    | error fault =>
      rw [here] at ran
      cases ran
    | ok kind =>
      rw [here] at known ran
      cases there : severityKind base.store (writtenIn base.store record) with
      | error fault =>
        rw [there] at known
        cases known
      | ok other =>
        rw [there] at known
        obtain rfl : kind = other := Option.some.inj known
        refine ⟨kind,there,?_⟩
        dsimp only at ran
        rw [settings] at ran
        split at ran
        · cases ran
        · next quiet => exact Bool.eq_false_iff.mpr quiet

end Reading

section Runs

variable (alone : g.Alone base u.runtime v)
  (inside : ∀ w, base.store.Within record w → w.Inside base.store)
include alone inside

/-- A record on the return selector builds what it does in the page, or it fails. -/
theorem attempt (host : Host η) (scope : Address) (captureOnly : Bool)
    (asked : onReturn base.store record = true) :
    (g.Fails base record ∧ ∃ fault, attemptRecord host scope captureOnly record v u =
      ((Act.fail fault : Act Value) : Run η Value) u) ∨
    ∃ y mid, attemptRecord host scope captureOnly record v u = (.done y,{ u with runtime := mid }) ∧
      ¬ g.Fails base record ∧ (g.step base record).Alone base mid y := by
  have covers := Store.Covers.of_inside inside
  have same := alone.shows.building? covers
  cases building : (Stage.mk record v u.runtime).building? with
  | none =>
    left
    constructor
    · unfold Gathered.Fails
      rw [← same,building]
      rfl
    · cases read : Action.ofRecord u.runtime.store record with
      | error fault =>
        refine ⟨fault,?_⟩
        rw [attemptRecord,Step.bind_done (Step.read_run u),read]
        rfl
      | ok action =>
        have known := alone.decoded inside read
        unfold Stage.building? at building
        dsimp only at building
        rw [read] at building
        dsimp only at building
        rw [known,asked,if_pos rfl] at building
        cases building
  | some action =>
    rw [attemptRecord_building building]
    have known := same.symm.trans building
    obtain ⟨fault,failed,none,-⟩ | ⟨y,mid,captured,⟨after,some⟩,shows⟩ := alone.shows.step covers building
    · refine .inl ⟨?_,fault,?_⟩
      · unfold Gathered.Fails
        rw [known]
        exact none
      · rw [Run.ofAct_run failed]
        rfl
    · refine .inr ⟨y,mid,Run.ofAct_run captured,?_,?_,shows⟩
      · unfold Gathered.Fails
        rw [known,Option.bind_some,some]
        exact Option.some_ne_none after
      · have only := capture_only captured
        have failures : mid.store.failures = u.runtime.store.failures := by
          conv_lhs => rw [only]
        have journal : mid.journal = u.runtime.journal := by
          conv_lhs => rw [only]
        rw [failures,journal]
        conv_lhs => rw [only,alone.only]

/-- A record whose attempt fails is passed over if it is logged, and the batch goes on only then. -/
theorem failing (index : Nat) {fault : Fault} (attempts : attemptRecord host scope captureOnly record v u =
      ((Act.fail fault : Act Value) : Run η Value) u) :
    (Logs base record → ∃ mid, processRecord host scope captureOnly index record v u =
      (.done v,{ u with runtime := mid }) ∧ g.Alone base mid v) ∧
    ∀ x last, processRecord host scope captureOnly index record v u = (.done x,last) →
      Logs base record := by
  obtain ⟨logs,only⟩ := (alone.fail fault).failed inside index u.runtime.store.failures.size
  have raised : Step.attempt (attemptRecord host scope captureOnly record v) u = _ :=
    Step.attempt_raised (attempts.trans (Run.ofAct_run (Act.fail_run fault u.runtime)))
  rw [processRecord,Step.bind_done raised]
  constructor
  · intro logged
    obtain ⟨mid,ran,alone⟩ := logs logged
    exact ⟨mid,Step.bind_done (Run.ofAct_run ran),alone⟩
  · intro x last ran
    obtain ⟨_,mid,ran,-⟩ := Step.done_of_bind ran
    exact only _ (Run.of_ofAct ran).1

/-- A record on the return selector is passed if it is logged should it fail. -/
theorem passes (host : Host η) (scope : Address) (captureOnly : Bool) (index : Nat)
    (asked : onReturn base.store record = true) (logs : g.Fails base record → Logs base record) : ∃ y mid,
      processRecord host scope captureOnly index record v u = (.done y,{ u with runtime := mid }) ∧
        (g.step base record).Alone base mid y := by
  obtain ⟨fails,fault,attempts⟩ | ⟨y,mid,attempts,-,alone⟩ :=
    alone.attempt inside host scope captureOnly asked
  · obtain ⟨mid,ran,alone⟩ := (alone.failing inside index attempts).1 (logs fails)
    rw [fails.step]
    exact ⟨v,mid,ran,alone⟩
  · exact ⟨y,mid,by rw [processRecord,Step.bind_done (Step.attempt_done attempts)]; rfl,alone⟩

/-- A batch that only captures has passed a record. -/
theorem passed {last : World η}
    (ran : processRecord host scope true index record v u = (.done x,last)) :
    (onReturn base.store record = true → g.Fails base record → Logs base record) ∧
      (g.step base record).Alone base last.runtime x := by
  have failing {fault : Fault} (attempts : attemptRecord host scope true record v u =
      ((Act.fail fault : Act Value) : Run η Value) u) :
      Logs base record ∧ g.Alone base last.runtime x := by
    obtain ⟨logs,only⟩ := alone.failing inside index attempts
    have logged := only x last ran
    obtain ⟨mid,there,alone⟩ := logs logged
    rw [ran] at there
    obtain ⟨same,rfl⟩ := Prod.mk.inj there
    cases same
    exact ⟨logged,alone⟩
  cases asked : onReturn base.store record with
  | true =>
    obtain ⟨fails,fault,attempts⟩ | ⟨y,mid,attempts,succeeds,alone⟩ :=
      alone.attempt inside host scope true asked
    · obtain ⟨logged,alone⟩ := failing attempts
      rw [fails.step]
      exact ⟨fun _ _ => logged,alone⟩
    · rw [processRecord,Step.bind_done (Step.attempt_done attempts)] at ran
      cases ran
      exact ⟨fun _ fails => absurd fails succeeds,alone⟩
  | false =>
    refine ⟨fun asked => Bool.noConfusion asked,?_⟩
    rw [Gathered.step_beside asked]
    cases read : Action.ofRecord u.runtime.store record with
    | error fault =>
      have attempts : attemptRecord host scope true record v u =
          ((Act.fail fault : Act Value) : Run η Value) u := by
        rw [attemptRecord,Step.bind_done (Step.read_run u),read]
        rfl
      exact (failing attempts).2
    | ok action =>
      have attempts : attemptRecord host scope true record v u = (.done v,u) := by
        rw [attemptRecord,Step.bind_done (Step.read_run u),read]
        show (if action.kind.canReturn && action.selector == some Action.returnSelector then
          (ActionBatch.capture action v : Run η Value) else _) u = _
        rw [alone.decoded inside read,asked,if_neg Bool.false_ne_true]
        rfl
      rw [processRecord,Step.bind_done (Step.attempt_done attempts)] at ran
      cases ran
      exact alone

end Runs

theorem processAll_passed {records : List Value} (alone : g.Alone base u.runtime v)
    (inside : ∀ record ∈ records, ∀ w, base.store.Within record w → w.Inside base.store)
    {last : World η} (ran : processAll host scope true index records v u = (.done x,last)) :
    Passes base g (records.filter (onReturn base.store)) := by
  induction records generalizing g v u index with
  | nil => trivial
  | cons record rest ih =>
    obtain ⟨y,mid,processed,onwards⟩ := Step.done_of_bind ran
    have here := inside record List.mem_cons_self
    obtain ⟨logs,further⟩ := alone.passed here processed
    have later := ih further (fun other member => inside other (List.mem_cons_of_mem _ member)) onwards
    cases asked : onReturn base.store record with
    | true =>
      rw [List.filter_cons_of_pos asked]
      exact ⟨logs asked,later⟩
    | false =>
      rw [List.filter_cons_of_neg (by rw [asked]; exact Bool.false_ne_true)]
      rwa [Gathered.step_beside asked] at later

/-- Records on the return selector are passed, each of them logged if it fails. -/
theorem processAll_passes {records : List Value} (alone : g.Alone base u.runtime v)
    (inside : ∀ record ∈ records, ∀ w, base.store.Within record w → w.Inside base.store)
    (asked : ∀ record ∈ records, onReturn base.store record = true) (passes : Passes base g records) :
    ∃ y mid built, processAll host scope captureOnly index records v u =
      (.done y,{ u with runtime := mid }) ∧ Gathered.Alone base built mid y := by
  induction records generalizing g v u index with
  | nil => exact ⟨v,u.runtime,g,rfl,alone⟩
  | cons record rest ih =>
    obtain ⟨y,mid,ran,further⟩ := alone.passes (inside _ List.mem_cons_self) host scope captureOnly
      index (asked _ List.mem_cons_self) passes.1
    rw [processAll,Step.bind_done ran]
    exact ih (u := { u with runtime := mid }) further
      (fun other member => inside other (List.mem_cons_of_mem _ member))
      (fun other member => asked other (List.mem_cons_of_mem _ member)) passes.2

/-- So they are if they are looked up in a list. -/
theorem processLive_passes {list : Address} {fuel : Nat} (alone : g.Alone base u.runtime v)
    (inside : ∀ record ∈ base.store.listAt list, ∀ w, base.store.Within record w → w.Inside base.store)
    (asked : ∀ record ∈ base.store.listAt list, onReturn base.store record = true)
    (passes : Passes base g ((base.store.listAt list).drop index))
    (within : index ≤ (base.store.listAt list).length)
    (enough : (base.store.listAt list).length < fuel + index) :
    ∃ y mid built, processLive host scope captureOnly list fuel index v u =
      (.done y,{ u with runtime := mid }) ∧ Gathered.Alone base built mid y := by
  induction fuel generalizing g v u index with
  | zero => omega
  | succ fuel ih =>
    rw [processLive,Step.bind_done (Step.read_run u),alone.listAt]
    cases here : (base.store.listAt list)[index]? with
    | none => exact ⟨v,u.runtime,g,rfl,alone⟩
    | some record =>
      obtain ⟨earlier,rfl⟩ := List.getElem?_eq_some_iff.mp here
      rw [List.drop_eq_getElem_cons earlier] at passes
      obtain ⟨y,mid,ran,further⟩ := alone.passes (inside _ (List.getElem_mem earlier)) host scope
        captureOnly index (asked _ (List.getElem_mem earlier)) passes.1
      dsimp only
      rw [Step.bind_done ran]
      exact ih (u := { u with runtime := mid }) further passes.2 earlier (by omega)

end Gathered.Alone

/-- The value that a batch begins with. -/
def Gathered.none (base : Runtime) : Gathered := ⟨.held .null,base.store.blobs⟩

theorem Gathered.none_alone (base : Runtime) : (Gathered.none base).Alone base base .null :=
  ⟨rfl,rfl,fun _ => Nat.le_refl _,fun _ _ _ _ => rfl,.held (.null _ _)⟩

section Items

variable {u last : World η} {scope : Address} {x actions : Value}
  (inside : ∀ record ∈ recordsOf u.runtime.store actions, ∀ w, u.runtime.store.Within record w →
    w.Inside u.runtime.store)
include inside

theorem processItems_passed (ran : processItems host scope true actions u = (.done x,last)) :
    Passes u.runtime (.none u.runtime)
      ((recordsOf u.runtime.store actions).filter (onReturn u.runtime.store)) := by
  have alone := Gathered.none_alone u.runtime
  have taken (ran : ((Act.ofExcept (u.runtime.store.itemsOf actions) : Run η (List Value)) >>=
      fun records => processAll host scope true 0 records .null) u = (.done x,last)) :
      Passes u.runtime (.none u.runtime)
        ((recordsOf u.runtime.store actions).filter (onReturn u.runtime.store)) := by
    obtain ⟨records,_,took,onwards⟩ := Step.done_of_bind ran
    obtain ⟨listed,rfl⟩ := Run.ofExcept_done took
    have same : recordsOf u.runtime.store actions = records := by
      rw [recordsOf,listed]
      rfl
    rw [same] at inside ⊢
    exact alone.processAll_passed inside onwards
  rw [processItems,Step.bind_done (Step.read_run u)] at ran
  cases actions with
  | list a =>
    dsimp only at ran
    rw [processLive_all (Nat.zero_le _) (by unfold growthLimit; omega)] at ran
    exact alone.processAll_passed inside ran
  | _ => exact taken ran

theorem processItems_passes (host : Host η) (scope : Address) (captureOnly : Bool) {records : List Value}
    (listed : u.runtime.store.itemsOf actions = .ok records)
    (asked : ∀ record ∈ records, onReturn u.runtime.store record = true)
    (passes : Passes u.runtime (.none u.runtime) records) : ∃ y mid built,
      processItems host scope captureOnly actions u = (.done y,{ u with runtime := mid }) ∧
        Gathered.Alone u.runtime built mid y := by
  have alone := Gathered.none_alone u.runtime
  have same : recordsOf u.runtime.store actions = records := by
    rw [recordsOf,listed]
    rfl
  rw [same] at inside
  rw [processItems,Step.bind_done (Step.read_run u)]
  have taken : ∃ y mid built, ((Act.ofExcept (u.runtime.store.itemsOf actions) : Run η (List Value)) >>=
      fun records => processAll host scope captureOnly 0 records .null) u =
        (.done y,{ u with runtime := mid }) ∧ Gathered.Alone u.runtime built mid y := by
    rw [listed]
    exact alone.processAll_passes inside asked passes
  cases actions with
  | list a =>
    cases listed
    exact alone.processLive_passes inside asked passes (Nat.zero_le _) (by unfold growthLimit; omega)
  | _ => exact taken

end Items

/-- Two batches from one page return the same: a value of the page, with the same contents at every
depth, or two new blobs alike. -/
inductive SameReturn (base r other : Runtime) : Value → Value → Prop
  | held {v : Value} (parts : ∀ w, base.store.Within v w → w.Settled r.store other.store) :
      SameReturn base r other v v
  | made {a b : Address} (new : base.store.sizeOf .blob ≤ a) (newOther : base.store.sizeOf .blob ≤ b)
      (same : other.store.blobAt b = r.store.blobAt a) : SameReturn base r other (.blob a) (.blob b)

theorem Gathered.Stands.same {region now later : Region} {other : Runtime} {w : Value}
    (stands : g.Stands region now base r v) (there : g.Stands region later base other w) :
    SameReturn base r other v w := by
  have shows := stands.shows
  have showsThere := there.shows
  have is := shows.built
  have isThere := showsThere.built
  cases built : g.built with
  | held value =>
    rw [built] at is isThere
    cases is with
    | held covers =>
      cases isThere with
      | held _ =>
        refine .held fun u within shelf a here data => ?_
        obtain ⟨inside,spared⟩ := covers u within shelf a here
        exact (showsThere.objects shelf a inside (spared data)).trans
          (shows.objects shelf a inside (spared data)).symm
  | made b =>
    rw [built] at is isThere
    cases is with
    | made new _ same =>
      cases isThere with
      | made newThere _ sameThere => exact .made new newThere (sameThere.trans same.symm)

namespace Apart

variable {s t : Store} {region : Region} (apart : Apart s region record) (grew : s.Grew t)
include apart grew

/-- What lies within a record is there still when there is more. -/
theorem inside_later (u : Value) (within : t.Within record u) : u.Inside t := by
  have before : s.Within record u := within.of_settled fun inner within shelf a here _ =>
    (grew shelf a (apart.inside inner within shelf a here)).2
  exact fun shelf a here => (grew shelf a (apart.inside u before shelf a here)).1

theorem onReturn_later : onReturn t record = onReturn s record := by
  have settled : record.Settled s t := fun shelf a here _ =>
    (grew shelf a (apart.inside record .self shelf a here)).2
  unfold onReturn
  rw [settled.mapping?]
  cases mapping : s.mapping? record with
  | none => rfl
  | some d =>
    have kind : Action.kindOf? t (Action.writtenKind d) = Action.kindOf? s (Action.writtenKind d) := by
      refine Action.kindOf?_congr fun a written => ?_
      have here : a < s.sizeOf .failure :=
        Dict.either_inside mapping apart.inside "type" "kind" .failure a
          (by rw [← Action.writtenKind,written]; rfl)
      exact Object.failure.inj (grew .failure a here).2
    rw [Option.any_some,Option.any_some,kind]

end Apart

theorem begun_grew (w : World η) : w.runtime.store.Grew (begun w).runtime.store :=
  (Scope.makeRoot_onlyGrows w.runtime).store

section Batches

variable {w : World η} {region : Region} {actions chosen : Value} {captureOnly : Bool}

/-- A batch whose records have changed blobs and failures alone ends without a refresh. -/
theorem process_left (given : actions ≠ .null)
    (settled : w.depth = 0 → w.runtime.registry.pending = []) {r : Runtime} {y : Value}
    (ran : processItems host w.runtime.store.scopes.size captureOnly actions (begun w) =
      (.done y,{ begun w with runtime := r }))
    (alone : g.Alone (begun w).runtime r y) :
    ∃ after, process host actions captureOnly w = (.done y,after) := by
  have registry : r.registry = (begun w).runtime.registry := by
    conv_lhs => rw [alone.only]
  have left : Sweep.leave host { begun w with runtime := r } = _ := leave_begun host settled registry
  rw [process_begun given,Step.thenAlways,ran]
  dsimp only
  rw [left]
  exact ⟨_,rfl⟩

/-- The records of a batch that only captures pass there, whatever batch they are in. -/
theorem process_passes {one : World η} {x : Value} (separate : Separate w.runtime.store region actions)
    (captured : process host actions true w = (.done x,one)) :
    Passes (begun w).runtime (.none (begun w).runtime)
      ((recordsOf w.runtime.store actions).filter (onReturn w.runtime.store)) := by
  have grew := begun_grew w
  have same : recordsOf (begun w).runtime.store actions = recordsOf w.runtime.store actions := by
    rw [recordsOf,itemsOf_begun separate.inside,recordsOf]
  have inside : ∀ record ∈ recordsOf (begun w).runtime.store actions,
      ∀ u, (begun w).runtime.store.Within record u → u.Inside (begun w).runtime.store := by
    rw [same]
    exact fun record member => (separate.records record member).inside_later grew
  have filtered : (recordsOf w.runtime.store actions).filter (onReturn (begun w).runtime.store) =
      (recordsOf w.runtime.store actions).filter (onReturn w.runtime.store) :=
    List.filter_congr fun record member => (separate.records record member).onReturn_later grew
  rw [← filtered,← same]
  by_cases given_ : actions = .null
  · subst given_
    trivial
  · obtain ⟨mid,passed,-⟩ := process_ended given_ captured
    exact processItems_passed inside passed

/-- A batch that only captures, one that applies all its records, and one of its records on the return
selector alone return the same, if nothing that the others hand over has to do with these. -/
theorem process_returns_same {one two : World η} {x y : Value} (keeps : w.runtime.KeepsTo region)
    (stays : host.StaysIn region) (settled : w.depth = 0 → w.runtime.registry.pending = [])
    (separate : Separate w.runtime.store region actions) (inside : chosen.Inside w.runtime.store)
    (outside : ∀ a, chosen = .list a → ¬ region .list a)
    (listed : w.runtime.store.itemsOf chosen =
      .ok ((recordsOf w.runtime.store actions).filter (onReturn w.runtime.store)))
    (captured : process host actions true w = (.done x,one))
    (applied : process host actions false w = (.done y,two)) :
    SameReturn w.runtime one.runtime two.runtime x y ∧
      ∀ captureOnly, ∃ z three, process host chosen captureOnly w = (.done z,three) ∧
        SameReturn w.runtime one.runtime three.runtime x z := by
  obtain ⟨now,stands⟩ := process_stands keeps stays separate captured
  obtain ⟨later,standsToo⟩ := process_stands keeps stays separate applied
  refine ⟨stands.same standsToo,fun captureOnly => ?_⟩
  have given_ : chosen ≠ .null := by
    rintro rfl
    cases listed
  have grew := begun_grew w
  have same : recordsOf w.runtime.store chosen =
      (recordsOf w.runtime.store actions).filter (onReturn w.runtime.store) := by
    rw [recordsOf,listed]
    rfl
  have among (record : Value) (member : record ∈ recordsOf w.runtime.store chosen) :
      Apart w.runtime.store region record ∧ onReturn w.runtime.store record = true := by
    rw [same] at member
    obtain ⟨member,asked⟩ := List.mem_filter.mp member
    exact ⟨separate.records record member,asked⟩
  have alone : Separate w.runtime.store region chosen :=
    ⟨inside,outside,fun record member => (among record member).1⟩
  have listedThere : (begun w).runtime.store.itemsOf chosen =
      .ok (recordsOf w.runtime.store chosen) := by
    have there := itemsOf_begun inside
    rw [listed] at there
    rw [same]
    cases found : (begun w).runtime.store.itemsOf chosen with
    | ok records =>
      rw [found] at there
      exact congrArg Except.ok (Option.some.inj there)
    | error fault =>
      rw [found] at there
      cases there
  have insideThere : ∀ record ∈ recordsOf (begun w).runtime.store chosen,
      ∀ u, (begun w).runtime.store.Within record u → u.Inside (begun w).runtime.store := by
    rw [recordsOf,listedThere]
    exact fun record member => (among record member).1.inside_later grew
  have asked : ∀ record ∈ recordsOf w.runtime.store chosen,
      onReturn (begun w).runtime.store record = true := fun record member =>
    ((among record member).1.onReturn_later grew).trans (among record member).2
  obtain ⟨z,mid,built,ran,ended⟩ := processItems_passes insideThere host
    w.runtime.store.scopes.size captureOnly listedThere asked
      (same.symm ▸ process_passes separate captured)
  obtain ⟨three,returned⟩ := process_left given_ settled ran ended
  obtain ⟨last,standsThere⟩ := process_stands keeps stays alone returned
  rw [same,gathered_filter] at standsThere
  exact ⟨z,three,returned,stands.same standsThere⟩

end Batches
theorem idle_stays (region : Region) : (Host.idle : Host η).StaysIn region where
  refresh wider w _ _ keeps := Run.Stays.done keeps ()
  parse _ given_ := by cases given_

/-- What lies within a value whose parts are scalars. -/
theorem within_flat {s : Store} {v w : Value} (flat : ∀ u ∈ s.members v, u.spot? = none)
    (within : s.Within v w) : w = v ∨ w.spot? = none := by
  induction within with
  | self => exact .inl rfl
  | @member outer inner _ held ih =>
    obtain rfl | scalar := ih
    · exact .inr (flat inner held)
    · have none : s.members outer = [] := by
        cases outer <;> first | rfl | cases scalar
      rw [none] at held
      cases held

/-- A record that writes to the state. -/
def writing : Dict := [⟨.text "type",.str "type",.str "setdata"⟩,
  ⟨.text "selector",.str "selector",.str "$state.x"⟩,⟨.text "data",.str "data",.int 1⟩]

/-- A record that makes the value of the batch. -/
def making : Dict := [⟨.text "type",.str "type",.str "blob"⟩,
  ⟨.text "selector",.str "selector",.str "@rtn"⟩,⟨.text "mimetype",.str "mimetype",.str "text/plain"⟩,
  ⟨.text "blobbase64",.str "blobbase64",.str "YQ=="⟩]

/-- A page, both records, and the lists of both and of the second alone. -/
def posting : World Unit where
  runtime :=
    let page := Page.initial
    let page := { page with store := (page.store.newDict writing).2 }
    let page := { page with store := (page.store.newDict making).2 }
    let page := { page with store := (page.store.newList [.dict 2,.dict 3]).2 }
    { page with store := (page.store.newList [.dict 3]).2 }
  host := ()

/-- What was there before the records were made. -/
def beforePosting : Region := fun shelf a => a < Page.initial.store.sizeOf shelf

theorem posting_keeps : posting.runtime.KeepsTo beforePosting := by
  have initial : Page.initial.KeepsTo beforePosting := Runtime.Closed.initial
  have grew : Page.initial.store.Grew posting.runtime.store :=
    (Store.Grew.of_adds (Store.newDict_adds _ _)).trans ((Store.Grew.of_adds (Store.newDict_adds _ _)).trans
      ((Store.Grew.of_adds (Store.newList_adds _ _)).trans (Store.Grew.of_adds (Store.newList_adds _ _))))
  exact initial.grew ⟨grew,rfl⟩ nofun

/-- A record of scalars that is new. -/
theorem posting_within {a : Nat} (new : 2 ≤ a) (inside : a < 4) {w : Value}
    (within : posting.runtime.store.Within (.dict a) w) : w = .dict a ∨ w.spot? = none := by
  refine within_flat ?_ within
  obtain rfl | rfl : a = 2 ∨ a = 3 := by omega
  · decide +kernel
  · decide +kernel

theorem posting_inside {a : Nat} (new : 2 ≤ a) (inside : a < 4) {w : Value}
    (within : posting.runtime.store.Within (.dict a) w) : w.Inside posting.runtime.store := by
  intro shelf b here
  obtain rfl | scalar := posting_within new inside within
  · cases here
    exact inside
  · rw [scalar] at here
    cases here

theorem posting_writing : Apart posting.runtime.store beforePosting (.dict 2) where
  inside _ := posting_inside (Nat.le_refl 2) (by decide)
  outside := by
    rintro _ ⟨⟩
    exact Nat.lt_irrefl 2
  hands := by
    rintro _ kind ⟨⟩ known
    have named : Action.kindOf? posting.runtime.store (Action.writtenKind writing) = some .setData := by
      decide +kernel
    obtain rfl : ActionKind.setData = kind := Option.some.inj (named.symm.trans known)
    rw [if_neg (by decide +kernel)]
    have alone {w : Value} (within : posting.runtime.store.Within (.int 1) w) : w = .int 1 := by
      obtain same | ⟨_,held,-⟩ := within.first
      · exact same
      · cases held
    refine ⟨fun w within => ?_,fun w within _ => ?_,fun w d within mapping => ?_,fun a within => ?_⟩
    · rw [alone within]
      rintro _ _ ⟨⟩
    · rw [alone within]
      exact .int 1
    · rw [alone within] at mapping
      cases mapping
    · cases alone within

theorem posting_making : Apart posting.runtime.store beforePosting (.dict 3) where
  inside _ := posting_inside (by decide) (by decide)
  outside := by
    rintro _ ⟨⟩
    exact Nat.not_lt_of_le (by decide)
  hands := by
    rintro _ kind ⟨⟩ known
    have named : Action.kindOf? posting.runtime.store (Action.writtenKind making) = some .blob := by
      decide +kernel
    obtain rfl : ActionKind.blob = kind := Option.some.inj (named.symm.trans known)
    rw [if_pos (by decide +kernel)]
    intro w within shelf a here
    refine ⟨posting_inside (by decide) (by decide) within shelf a here,fun _ => .inl ?_⟩
    obtain rfl | scalar := posting_within (by decide) (by decide) within
    · cases here
      exact Nat.not_lt_of_le (by decide)
    · rw [scalar] at here
      cases here

theorem process_returns_same_posting :
    ∃ one two, process Host.idle (.list 0) true posting = (.done (.blob 0),one) ∧
      process Host.idle (.list 0) false posting = (.done (.blob 0),two) ∧
      SameReturn posting.runtime one.runtime two.runtime (.blob 0) (.blob 0) ∧
      ∀ captureOnly, ∃ z three, process Host.idle (.list 1) captureOnly posting = (.done z,three) ∧
        SameReturn posting.runtime one.runtime three.runtime (.blob 0) z := by
  have captures : (process Host.idle (.list 0) true posting).1 = .done (.blob 0) := by decide +kernel
  have applies : (process Host.idle (.list 0) false posting).1 = .done (.blob 0) := by decide +kernel
  obtain ⟨one,captured⟩ := Step.ended captures
  obtain ⟨two,applied⟩ := Step.ended applies
  have records : recordsOf posting.runtime.store (.list 0) = [.dict 2,.dict 3] := rfl
  have separate : Separate posting.runtime.store beforePosting (.list 0) := by
    refine ⟨?_,?_,?_⟩
    · rintro _ _ ⟨⟩
      decide
    · rintro _ ⟨⟩
      exact Nat.not_lt_zero 0
    · rw [records]
      rintro _ (_ | ⟨_,_ | ⟨_,⟨⟩⟩⟩)
      · exact posting_writing
      · exact posting_making
  have inside : (Value.list 1).Inside posting.runtime.store := by
    rintro _ _ ⟨⟩
    decide
  have listed : posting.runtime.store.itemsOf (.list 1) =
      .ok ((recordsOf posting.runtime.store (.list 0)).filter (onReturn posting.runtime.store)) := by
    decide +kernel
  have outside (a : Address) (list : Value.list 1 = .list a) : ¬ beforePosting .list a := by
    cases list
    exact Nat.not_lt_zero 1
  exact ⟨one,two,captured,applied,process_returns_same posting_keeps (idle_stays _) (fun _ => rfl) separate
    inside outside listed captured applied⟩

/-- A page whose state holds two records. The first one writes a selector into the second. -/
def selecting : World Unit where
  runtime := { Page.initial with store := { Page.initial.store with
    dicts := ⟨#[[],[⟨.text "l",.str "l",.list 0⟩],
      [⟨.text "type",.str "type",.str "setdata"⟩,
        ⟨.text "selector",.str "selector",.str "$state.l[1].selector"⟩,
        ⟨.text "data",.str "data",.str "@rtn"⟩],
      [⟨.text "type",.str "type",.str "setdata"⟩,⟨.text "selector",.str "selector",.str "$state.x"⟩,
        ⟨.text "data",.str "data",.int 7⟩]]⟩
    lists := ⟨#[[.dict 2,.dict 3]]⟩ } }
  host := ()

/-- A page with a scope that binds a blob, and three records. One puts a reference to the binding into
the state, one extends the blob that it leads to, and one gives that blob as the value of the batch. -/
def referring : World Unit where
  runtime := { Page.initial with store := { Page.initial.store with
    blobs := ⟨#[⟨.str "text/plain",[]⟩]⟩
    handles := ⟨#[.path 0 ⟨⟨.context,0⟩,[.field "x"]⟩ false]⟩
    scopes := ⟨#[⟨none,.null,2,false,none,[],none,.null,.none⟩]⟩
    dicts := ⟨#[[],[],[⟨.text "x",.str "x",.blob 0⟩],
      [⟨.text "type",.str "type",.str "setdata"⟩,⟨.text "selector",.str "selector",.str "$state.r"⟩,
        ⟨.text "data",.str "data",.ref 0⟩],
      [⟨.text "type",.str "type",.str "blobext"⟩,⟨.text "selector",.str "selector",.str "$state.r"⟩,
        ⟨.text "blobbase64",.str "blobbase64",.str "YQ=="⟩],
      [⟨.text "type",.str "type",.str "setdata"⟩,⟨.text "selector",.str "selector",.str "@rtn"⟩,
        ⟨.text "data",.str "data",.blob 0⟩]]⟩
    lists := ⟨#[[.dict 3,.dict 4,.dict 5]]⟩ } }
  host := ()

/-- The payloads share nothing with the data roots. Yet if the records themselves lie in the state, or
the state is given a reference, the value of the batch depends on what is written. -/
theorem process_returns_other :
    (process Host.idle (.list 0) true selecting).1 = .done .null ∧
    (process Host.idle (.list 0) false selecting).1 = .done (.int 7) ∧
    (process Host.idle (.list 0) true referring).1 = .done (.blob 0) ∧
    (process Host.idle (.list 0) false referring).1 = .done (.blob 0) ∧
    (process Host.idle (.list 0) true referring).2.runtime.store.blobAt 0 = ⟨.str "text/plain",[]⟩ ∧
    (process Host.idle (.list 0) false referring).2.runtime.store.blobAt 0 =
      ⟨.str "text/plain",[97]⟩ :=
  ⟨by decide +kernel,by decide +kernel,by decide +kernel,by decide +kernel,by decide +kernel,
    by decide +kernel⟩

end ActionBatch
end PageRuntime
