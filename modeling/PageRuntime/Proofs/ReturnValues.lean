import PageRuntime.Proofs.Confinement
import PageRuntime.Proofs.Gathering

/-! The values that batches return. If the records beside those on the return selector stay in a
region, and so does the host, a batch returns what the records on the return selector build of
themselves, whatever else it does. -/
namespace PageRuntime

/-- The objects that no step in the region changes. -/
def Region.spared (region : Region) : Region := fun shelf a => ¬ region shelf a ∨ shelf.isFixed = true

theorem Action.selector_asked (selector : Option String) :
    (Value.ofText? selector == .str returnSelector) = (selector == some returnSelector) := by
  cases selector with
  | none => rfl
  | some text => simp [Value.ofText?]

namespace ActionBatch

variable {η : Type} {host : Host η} {region now : Region} {base r after : Runtime} {g : Gathered}
  {record v : Value}

/-- The record is there and lies outside the region. If it is one that builds the value of a batch,
then all of it does; otherwise what its action hands over is of the region. -/
structure Apart (s : Store) (region : Region) (record : Value) : Prop where
  inside : ∀ w, s.Within record w → w.Inside s
  outside : ∀ a, record = .dict a → ¬ region .dict a
  hands : ∀ d kind, s.mapping? record = some d →
    Action.kindOf? s (Action.writtenKind d) = some kind →
      if kind.canReturn && Action.either d "selector" "path" == .str Action.returnSelector then
        s.Covers region.spared record
      else kind.Gives s region (d.field "data") (d.field "mimetype")

namespace Apart

variable {s : Store} (apart : Apart s region record)
include apart

/-- What the record is read as builds the value of the batch, or hands over only what is of the
region, wherever the record and the failures are as they were. -/
theorem decoded {t : Store} (mapping : t.mapping? record = s.mapping? record)
    (failures : ∀ a, a < s.sizeOf .failure → t.failureAt a = s.failureAt a) {action : Action}
    (read : Action.ofRecord t record = .ok action) :
    if action.kind.canReturn && action.selector == some Action.returnSelector then
      s.Covers region.spared record
    else action.kind.Gives s region action.data action.mediaType := by
  obtain ⟨d,given_,kind,selector,data,mediaType,-⟩ := Action.ofRecord_given read
  rw [mapping] at given_
  have same : Action.kindOf? t (Action.writtenKind d) = Action.kindOf? s (Action.writtenKind d) := by
    refine Action.kindOf?_congr fun a written => failures a ?_
    exact Dict.either_inside given_ apart.inside "type" "kind" .failure a
      (by rw [← Action.writtenKind,written]; rfl)
  have hands := apart.hands d action.kind given_ (same.symm.trans kind)
  rwa [selector,Action.selector_asked,← data,← mediaType] at hands

theorem covers {stage : Stage} (of : stage.record = record)
    (mapping : stage.runtime.store.mapping? record = s.mapping? record)
    (failures : ∀ a, a < s.sizeOf .failure → stage.runtime.store.failureAt a = s.failureAt a)
    {action : Action} (building : stage.building? = some action) :
    s.Covers region.spared record := by
  subst of
  obtain ⟨read,asked⟩ := Stage.building_read building
  have decoded := apart.decoded mapping failures read
  rwa [if_pos asked] at decoded

end Apart

namespace Apart

variable (apart : Apart base.store region record) (spares : base.SparesRest region now r)
include apart spares

theorem mapping? : r.store.mapping? record = base.store.mapping? record := by
  cases record with
  | dict a =>
    have inside := apart.inside _ .self .dict a rfl
    have same := spares.same .dict a inside (.inl (apart.outside a rfl)) nofun
    exact congrArg some (Object.entries.inj same)
  | frozen a =>
    have inside := apart.inside _ .self .frozen a rfl
    have same := spares.same .frozen a inside (.inr rfl) nofun
    exact congrArg some (Object.entries.inj same)
  | _ => rfl

omit apart in
theorem failures (a : Address) (inside : a < base.store.sizeOf .failure) :
    r.store.failureAt a = base.store.failureAt a :=
  Object.failure.inj (spares.same .failure a inside (.inr rfl) nofun)

/-- A record that builds nothing does nothing outside the region. -/
theorem outer (idle : (Stage.mk record v r).building? = none) : Outer r.store now record := by
  intro action read
  have idle : (action.kind.canReturn && action.selector == some Action.returnSelector) = false := by
    unfold Stage.building? at idle
    rw [read] at idle
    by_contra asked
    rw [Bool.not_eq_false] at asked
    dsimp only at idle
    rw [if_pos asked] at idle
    cases idle
  have decoded := apart.decoded (apart.mapping? spares) (failures spares) read
  rw [idle,if_neg Bool.false_ne_true] at decoded
  exact ⟨idle,decoded.spared spares⟩

end Apart

/-- The batch has come to a runtime where the region is another one, and to a value outside it that is
what the records have built. -/
structure Gathered.Stands (region now : Region) (base : Runtime) (g : Gathered) (r : Runtime)
    (v : Value) : Prop where
  spares : base.SparesRest region now r
  shows : g.Shows region.spared base r v
  outside : ∀ a, v = .blob a → ¬ now .blob a

namespace Gathered.Stands

variable (stands : g.Stands region now base r v)
include stands

/-- Steps in the region leave the value as it is. -/
theorem stays {wider : Region} (stays : r.Stays now wider after) :
    g.Stands region wider base after v := by
  have shows := stands.shows
  have sizes := shows.sizes
  refine ⟨stands.spares.trans stays.spares,⟨shows.size,?_,?_,?_⟩,?_⟩
  · exact fun shelf => Nat.le_trans (sizes shelf) (stays.sizes shelf)
  · intro shelf a within held
    have kept := held.imp_left (stands.spares.outside within)
    rw [stays.same shelf a (Nat.lt_of_lt_of_le within (sizes shelf)) kept]
    exact shows.objects shelf a within held
  · refine shows.built.later (stays.sizes .blob) fun a blob inside => ?_
    exact Object.blob.inj (stays.same .blob a inside (.inl (stands.outside a blob)))
  · exact fun a blob => stays.outside (shows.built.inside blob (sizes .blob)) (stands.outside a blob)

end Gathered.Stands

/-- What is captured lies outside the region, and the region has no part in it. -/
theorem capture_spares {action : Action} {w : Value} (keeps : r.KeepsTo now)
    (outside : ∀ a, v = .blob a → ¬ now .blob a)
    (handed : ∀ a, action.data = .blob a → ¬ now .blob a)
    (ran : capture action v r = (.done w,after)) :
    r.SparesRest now now after ∧ ∀ a, w = .blob a → ¬ now .blob a := by
  have same : r.SparesRest now now r := (Runtime.Stays.refl keeps).spares
  unfold capture at ran
  cases kind : action.kind with
  | setData =>
    rw [kind] at ran
    cases ran
    exact ⟨same,handed⟩
  | blob =>
    rw [kind] at ran
    dsimp only at ran
    rw [Blob.make,Step.bind_done (Act.store_run r)] at ran
    obtain ⟨data,mid,read,made⟩ := Step.done_of_bind ran
    obtain ⟨-,rfl⟩ := Act.ofExcept_done read
    cases made
    refine ⟨.newBlob keeps _,?_⟩
    rintro _ ⟨⟩ held
    exact Nat.lt_irrefl _ (keeps.inside held)
  | extendBlob =>
    rw [kind] at ran
    cases v with
    | blob a =>
      obtain ⟨_,mid,extended,ended⟩ := Step.done_of_bind ran
      cases ended
      rw [Blob.extend,Step.bind_done (Act.store_run r)] at extended
      obtain ⟨more,_,read,put⟩ := Step.done_of_bind extended
      obtain ⟨-,rfl⟩ := Act.ofExcept_done read
      cases put
      exact ⟨.putBlob keeps (outside a rfl) _,outside⟩
    | _ => cases ran
  | invalidate =>
    rw [kind] at ran
    cases ran
    exact ⟨same,outside⟩
  | html =>
    rw [kind] at ran
    cases ran
    exact ⟨same,outside⟩

/-- A record on the return selector builds what it does in the page, outside the region, or fails. -/
theorem Gathered.Stands.capture (stands : g.Stands region now base r v)
    (covers : base.store.Covers region.spared record) {action : Action}
    (building : (Stage.mk record v r).building? = some action) :
    (∃ fault, ActionBatch.capture action v r = (Act.fail fault : Act Value) r ∧
      g.step base record = g) ∨
    ∃ w mid, ActionBatch.capture action v r = (.done w,mid) ∧
      (g.step base record).Stands region now base mid w := by
  obtain ⟨fault,failed,-,idle⟩ | ⟨w,mid,ran,-,shows⟩ := stands.shows.step covers building
  · exact .inl ⟨fault,failed,idle⟩
  · have handed (a : Address) (blob : action.data = .blob a) : ¬ now .blob a := by
      obtain ⟨d,mapping,-,-,data,-,-⟩ := Action.ofRecord_given (Stage.building_read building).1
      rw [(stands.shows.settled covers .self).mapping?,page_mapping?] at mapping
      obtain none | held := Dict.field_member mapping "data"
      · cases (none.symm.trans data.symm).trans blob
      · obtain ⟨inside,spared⟩ := covers _ (.member .self held) .blob a (by rw [← data,blob]; rfl)
        exact stands.spares.outside inside ((spared rfl).resolve_right nofun)
    obtain ⟨spares,outside⟩ := capture_spares stands.spares.keeps stands.outside handed ran
    exact .inr ⟨w,mid,ran,stands.spares.trans spares,shows,outside⟩

theorem attemptRecord_building {w : World η} {scope : Address} {captureOnly : Bool} {action : Action}
    (building : (Stage.mk record v w.runtime).building? = some action) :
    attemptRecord host scope captureOnly record v w = (capture action v : Run η Value) w := by
  obtain ⟨read,asked⟩ := Stage.building_read building
  rw [attemptRecord,Step.bind_done (Step.read_run w)]
  dsimp only at read
  rw [read]
  show (if action.kind.canReturn && action.selector == some Action.returnSelector then
    (capture action v : Run η Value) else _) w = _
  rw [if_pos asked]

section Records

variable {w last : World η} {scope : Address} {captureOnly : Bool} {x : Value}

/-- After one more record the value is what was built with it. -/
theorem processRecord_stands (apart : Apart base.store region record) (stays : host.StaysIn now)
    (rooted : now .scope scope) (stands : g.Stands region now base w.runtime v) {index : Nat}
    (ran : processRecord host scope captureOnly index record v w = (.done x,last)) :
    ∃ wider, (∀ shelf a, now shelf a → wider shelf a) ∧
      (g.step base record).Stands region wider base last.runtime x := by
  have keeps := stands.spares.keeps
  have passed (attempted : Run.Stays now (fun _ y => y = v) w
      (attemptRecord host scope captureOnly record v)) (idle : g.step base record = g) :
      ∃ wider, (∀ shelf a, now shelf a → wider shelf a) ∧
        (g.step base record).Stands region wider base last.runtime x := by
    obtain ⟨wider,further,here⟩ := processRecord_stays attempted index _ _ ran
    rw [idle,here x rfl]
    exact ⟨wider,further.gains,stands.stays further⟩
  cases building : (Stage.mk record v w.runtime).building? with
  | none =>
    refine passed (attemptRecord_stays stays keeps rooted (apart.outer stands.spares building)) ?_
    refine Gathered.step_idle (Option.eq_none_iff_forall_ne_some.mpr fun action known => ?_)
    have covers := apart.covers rfl (Gathered.page_mapping? record) (fun _ _ => rfl) known
    cases ((stands.shows.building? covers).trans known).symm.trans building
  | some action =>
    have covers := apart.covers rfl (apart.mapping? stands.spares) (Apart.failures stands.spares) building
    have attempts : attemptRecord host scope captureOnly record v w = (capture action v : Run η Value) w :=
      attemptRecord_building building
    obtain ⟨fault,failed,idle⟩ | ⟨y,mid,captured,stands⟩ := stands.capture covers building
    · refine passed ?_ idle
      intro ending after attempted
      rw [attempts] at attempted
      obtain ⟨attempted,-⟩ := Run.of_ofAct attempted
      rw [failed] at attempted
      exact Act.Stays.fail keeps fault ending after.runtime attempted
    · have done : Step.attempt (attemptRecord host scope captureOnly record v) w =
          (.done (.ok y),{ w with runtime := mid }) := by
        unfold Step.attempt
        rw [attempts,Run.ofAct_run captured]
      rw [processRecord,Step.bind_done done] at ran
      cases ran
      exact ⟨now,fun _ _ => id,stands⟩

/-- After some records the value is what was built with them. -/
theorem processAll_stands {records : List Value} (apart : ∀ record ∈ records, Apart base.store region record)
    (stays : host.StaysIn now) (rooted : now .scope scope)
    (stands : g.Stands region now base w.runtime v) {index : Nat}
    (ran : processAll host scope captureOnly index records v w = (.done x,last)) :
    ∃ wider, (∀ shelf a, now shelf a → wider shelf a) ∧
      (records.foldl (Gathered.step base) g).Stands region wider base last.runtime x := by
  induction records generalizing now g v w index with
  | nil =>
    cases ran
    exact ⟨now,fun _ _ => id,stands⟩
  | cons record rest ih =>
    obtain ⟨y,mid,processed,onwards⟩ := Step.done_of_bind ran
    obtain ⟨wider,gains,stands⟩ := processRecord_stands (apart record List.mem_cons_self) stays rooted
      stands processed
    obtain ⟨widest,more,stands⟩ := ih (fun other member => apart other (List.mem_cons_of_mem _ member))
      (stays.mono gains) (gains _ _ rooted) stands onwards
    exact ⟨widest,fun shelf a held => more shelf a (gains shelf a held),stands⟩

/-- So it is if the records are looked up in a list outside the region. -/
theorem processLive_stands {list : Address} (inside : list < base.store.sizeOf .list)
    (outside : ¬ region .list list)
    (apart : ∀ record ∈ base.store.listAt list, Apart base.store region record)
    (stays : host.StaysIn now) (rooted : now .scope scope)
    (stands : g.Stands region now base w.runtime v) {fuel index : Nat}
    (ran : processLive host scope captureOnly list fuel index v w = (.done x,last)) :
    ∃ wider, (∀ shelf a, now shelf a → wider shelf a) ∧
      (((base.store.listAt list).drop index).foldl (Gathered.step base) g).Stands region wider base
        last.runtime x := by
  induction fuel generalizing now g v w index with
  | zero => cases ran
  | succ fuel ih =>
    have same : w.runtime.store.listAt list = base.store.listAt list :=
      Object.items.inj (stands.spares.same .list list inside (.inl outside) nofun)
    rw [processLive,Step.bind_done (Step.read_run w),same] at ran
    cases here : (base.store.listAt list)[index]? with
    | none =>
      rw [here] at ran
      cases ran
      rw [List.drop_eq_nil_of_le (List.getElem?_eq_none_iff.mp here)]
      exact ⟨now,fun _ _ => id,stands⟩
    | some record =>
      rw [here] at ran
      obtain ⟨earlier,rfl⟩ := List.getElem?_eq_some_iff.mp here
      obtain ⟨y,mid,processed,onwards⟩ := Step.done_of_bind ran
      obtain ⟨wider,gains,stands⟩ := processRecord_stands (apart _ (List.getElem_mem earlier)) stays
        rooted stands processed
      obtain ⟨widest,more,stands⟩ := ih (stays.mono gains) (gains _ _ rooted) stands onwards
      rw [List.drop_eq_getElem_cons earlier]
      exact ⟨widest,fun shelf a held => more shelf a (gains shelf a held),stands⟩

end Records

/-- The scope that a batch runs in joins the region. -/
theorem makeRoot_stays (keeps : r.KeepsTo region) :
    ∃ wider, r.Stays region wider (Scope.makeRoot r).2 ∧ wider .scope r.store.scopes.size := by
  have adds := r.store.newDict_adds []
  have ordered := keeps.store.ordered.of_adds adds nofun
  have first := Runtime.Stays.of_adds keeps adds ordered (.entries .nil)
  have second := Runtime.Stays.of_adds first.keeps
    ((r.store.newDict []).2.newScope_adds ⟨none,.null,r.store.dicts.size,false,some "root",[],none,
      .null,.none⟩) (ordered.newScope nofun)
    (.scope ⟨.none,.null,⟨rfl,.inl (.inr ⟨rfl,rfl⟩)⟩,rfl,rfl,.nil,rfl,.null,rfl⟩)
  exact ⟨_,first.trans second,.inr ⟨rfl,rfl⟩⟩

/-- The list of actions and its records are there and lie outside the region, and the records have
their parts where they belong. -/
structure Separate (s : Store) (region : Region) (actions : Value) : Prop where
  inside : actions.Inside s
  outside : ∀ a, actions = .list a → ¬ region .list a
  records : ∀ record ∈ recordsOf s actions, Apart s region record

theorem process_ended {w after : World η} {actions : Value} (given : actions ≠ .null)
    {captureOnly : Bool} {x : Value} (ran : process host actions captureOnly w = (.done x,after)) :
    ∃ mid, processItems host w.runtime.store.scopes.size captureOnly actions (begun w) = (.done x,mid) ∧
      Sweep.leave host mid = (.done (),after) := by
  rw [process_begun given] at ran
  exact Sweep.batch_ended host (w := { w with runtime := (Scope.makeRoot w.runtime).2 }) ran nofun

/-- The records of a batch are those that are there before it begins. -/
theorem itemsOf_begun {w : World η} {actions : Value} (inside : actions.Inside w.runtime.store) :
    ((begun w).runtime.store.itemsOf actions).toOption = (w.runtime.store.itemsOf actions).toOption := by
  have grew : w.runtime.store.Grew (begun w).runtime.store :=
    (Scope.makeRoot_onlyGrows w.runtime).store
  exact Value.Settled.itemsOf fun shelf a here _ => (grew shelf a (inside shelf a here)).2

/-- The value of a batch is what its records on the return selector build. -/
theorem process_stands {w after : World η} (keeps : w.runtime.KeepsTo region)
    (stays : host.StaysIn region) {actions : Value}
    (separate : Separate w.runtime.store region actions) {captureOnly : Bool} {x : Value}
    (ran : process host actions captureOnly w = (.done x,after)) :
    ∃ now, (gathered w.runtime (recordsOf w.runtime.store actions)).Stands region now w.runtime
      after.runtime x := by
  have start : Gathered.Stands region region w.runtime ⟨.held .null,w.runtime.store.blobs⟩ w.runtime
      .null :=
    ⟨(Runtime.Stays.refl keeps).spares,⟨rfl,fun _ => Nat.le_refl _,fun _ _ _ _ => rfl,
      .held (.null _ _)⟩,nofun⟩
  by_cases given_ : actions = .null
  · subst given_
    cases ran
    exact ⟨region,start⟩
  · obtain ⟨mid,passed,left⟩ := process_ended given_ ran
    obtain ⟨wider,rooted,scope⟩ := makeRoot_stays keeps
    have opens : w.runtime.Stays region wider (begun w).runtime :=
      rooted.trans (.of_store ⟨rooted.keeps.store,rooted.keeps.roots,rooted.keeps.document,rfl⟩ rfl)
    have begins := start.stays opens
    have stays := stays.mono opens.gains
    have ends : ∃ now, (∀ shelf a, wider shelf a → now shelf a) ∧
        (gathered w.runtime (recordsOf w.runtime.store actions)).Stands region now w.runtime
          mid.runtime x := by
      have taken (ran : ((Act.ofExcept ((begun w).runtime.store.itemsOf actions) : Run η (List Value)) >>=
          fun records => processAll host w.runtime.store.scopes.size captureOnly 0 records .null)
            (begun w) = (.done x,mid)) : ∃ now, (∀ shelf a, wider shelf a → now shelf a) ∧
          (gathered w.runtime (recordsOf w.runtime.store actions)).Stands region now w.runtime
            mid.runtime x := by
        obtain ⟨records,_,took,onwards⟩ := Step.done_of_bind ran
        obtain ⟨listed,rfl⟩ := Run.ofExcept_done took
        have same : recordsOf w.runtime.store actions = records := by
          rw [recordsOf,← itemsOf_begun separate.inside,listed]
          rfl
        have records := separate.records
        rw [same] at records ⊢
        exact processAll_stands records stays scope begins onwards
      rw [processItems,Step.bind_done (Step.read_run (begun w))] at passed
      cases actions with
      | list a =>
        exact processLive_stands (separate.inside .list a rfl) (separate.outside a rfl)
          separate.records stays scope begins passed
      | _ => exact taken passed
    obtain ⟨now,gains,stands⟩ := ends
    obtain ⟨last,further,-⟩ := Sweep.leave_stays (stays.mono gains) stands.spares.keeps _ _ left
    exact ⟨last,stands.stays further⟩

end ActionBatch
end PageRuntime
