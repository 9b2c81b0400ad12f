import PageRuntime.Proofs.ContextWrites
import PageRuntime.Proofs.Dispatch
import PageRuntime.Proofs.UnawareSteps

/-! Local addresses. Local data are counted past the scopes that only add specials. Seen from a scope that
only adds specials, paths into them lead where they lead from the scope above it, and leaving all such
scopes out changes nothing, as long as what the paths meet does not show the context. So a handler, which
runs in a scope of that kind, addresses the local data of the scope that it runs for. -/
namespace PageRuntime
open PageRuntime.Reference (Target)

/-- The targets are read, written and deleted alike. -/
structure Reference.SameTarget (r : Runtime) (one other : Target) : Prop where
  get : one.get r = other.get r
  set : ∀ v, one.set v r = other.set v r
  delete : one.delete r = other.delete r

namespace Runtime

/-- Seen from the two scopes, paths that start from local data are the same locations. -/
structure SameLocals (r : Runtime) (a b : Address) : Prop where
  stack : r.store.localStack a = r.store.localStack b
  places : ∀ path, path.root.kind = .localData → Reference.SameTarget r (.place a path) (.place b path)
  handles : ∀ path locked one other, path.root.kind = .localData →
    r.store.handleAt one = .path a path locked → r.store.handleAt other = .path b path locked →
      Reference.SameTarget r (.handle one) (.handle other)

/-- What follows once it is known whether a path is locked runs in the runtime as it was. -/
theorem isLocked_bind_congr {α : Type} {r : Runtime} {path : Path} {locked : Bool}
    {next other : Bool → Act α} (same : ∀ shut, next shut r = other shut r) :
    (Reference.isLocked path locked >>= next) r = (Reference.isLocked path locked >>= other) r := by
  rw [Step.bind_run,Step.bind_run]
  cases told : Reference.isLocked path locked r with
  | mk ending mid =>
    cases ending with
    | raised failure => rfl
    | exhausted => rfl
    | done shut =>
      obtain rfl := Reference.isLocked_still told
      exact same shut

section

variable {r : Runtime} {a b : Address} {path : Path} {locked : Bool}
  (same : r.rootSpot a path.root = r.rootSpot b path.root)
include same

theorem readHandle_congr (resolve : Address → Except Fault Spot) :
    r.readHandle resolve (.path a path locked) = r.readHandle resolve (.path b path locked) := by
  dsimp only [readHandle]
  rw [same]

theorem root_congr : Reference.root a path r = Reference.root b path r :=
  congrArg (fun result => Act.ofExcept result r) same

theorem setPathValue_congr (write : Address → Value → Act Unit) (v : Value) :
    Reference.setPathValue write a path locked v r = Reference.setPathValue write b path locked v r := by
  refine isLocked_bind_congr fun shut => ?_
  split
  · rfl
  · cases path.segments with
    | nil => rfl
    | cons key rest =>
      dsimp only
      unfold Reference.setBelowRoot
      rw [Step.bind_run,Step.bind_run,root_congr same]

theorem deletePath_congr :
    Reference.deletePath a path locked r = Reference.deletePath b path locked r := by
  refine isLocked_bind_congr fun shut => ?_
  split
  · rfl
  · cases path.segments.getLast? with
    | none => rfl
    | some last =>
      dsimp only
      unfold Reference.deleteLast
      rw [Step.bind_run,Step.bind_run,root_congr same]

theorem sameTarget_places : Reference.SameTarget r (.place a path) (.place b path) where
  get := by
    show (Act.ofExcept (r.readHandle r.resolve _) >>= Spot.realize) r = _
    rw [readHandle_congr same]
    rfl
  set v := setPathValue_congr same _ v
  delete := deletePath_congr same

theorem sameTarget_handles {one other : Address}
    (here : r.store.handleAt one = .path a path locked)
    (there : r.store.handleAt other = .path b path locked) :
    Reference.SameTarget r (.handle one) (.handle other) where
  get := by
    have resolved : r.resolve one = r.resolve other := by
      rw [resolve,resolve,resolveWithin,resolveWithin,here,there]
      exact readHandle_congr same _
    show (Act.ofExcept (r.readReference one) >>= Spot.realize) r =
      (Act.ofExcept (r.readReference other) >>= Spot.realize) r
    rw [readReference,readReference,readWithin,readWithin,here,there]
    dsimp only
    rw [resolved]
  set v := by
    show Reference.set one v r = Reference.set other v r
    rw [Reference.set_path here,Reference.set_path there]
    exact setPathValue_congr same _ v
  delete := by
    show Reference.delete one r = Reference.delete other r
    rw [Reference.delete_path here,Reference.delete_path there]
    exact deletePath_congr same

end

theorem SameLocals.of_stack {r : Runtime} {a b : Address} (stack : r.store.localStack a = r.store.localStack b) :
    r.SameLocals a b := by
  have same (path : Path) (kind : path.root.kind = .localData) :
      r.rootSpot a path.root = r.rootSpot b path.root := by
    unfold rootSpot
    dsimp only
    rw [kind,stack]
  exact ⟨stack,fun path kind => sameTarget_places (same path kind),
    fun path locked one other kind here there => sameTarget_handles (same path kind) here there⟩

/-- What the one step does in the runtime, the other does once the scopes that only add specials are left
out: it ends alike, and leaves the same but for them. -/
def Mirrors {α : Type} (r : Runtime) (act other : Act α) : Prop :=
  other r.withoutSpecials = ((act r).1,(act r).2.withScopes r.store.relinked)

/-- Once the scopes that only add specials are left out, local data are seen from `base` as they were from
`scope`, unless what is met on the way shows the context. -/
structure MirrorsLocals (r : Runtime) (scope base : Address) : Prop where
  nearest : r.store.remaining? scope = some base
  chain : r.withoutSpecials.store.chain base = (r.store.chain scope).filter r.store.remains
  stack : r.withoutSpecials.store.localStack base = r.store.localStack scope
  get : ∀ path, path.root.kind = .localData → r.Unseen false scope path.root path.segments →
    r.Mirrors (Target.place scope path).get (Target.place base path).get
  set : ∀ path v, path.root.kind = .localData → r.Unseen true scope path.root path.segments →
    r.Mirrors ((Target.place scope path).set v) ((Target.place base path).set v)
  delete : ∀ path, path.root.kind = .localData → r.Unseen false scope path.root path.segments.dropLast →
    r.Mirrors (Target.place scope path).delete (Target.place base path).delete

theorem mirrorsLocals {r : Runtime} {scope base : Address} (ordered : r.store.Ordered)
    (inside : scope < r.store.scopes.size) (nearest : r.store.remaining? scope = some base) :
    r.MirrorsLocals scope base := by
  have relinks := ordered.relinks
  have stack : r.withoutSpecials.store.localStack base = r.store.localStack scope :=
    (relinks.localStack base).trans (ordered.localStack_remaining inside nearest)
  have same : r.withoutSpecials.SameLocals base scope :=
    .of_stack (stack.trans (relinks.localStack scope).symm)
  have plain {path : Path} (kind : path.root.kind = .localData) : path.root.isContextual = false := by
    unfold Root.isContextual
    rw [kind]
  refine ⟨nearest,ordered.chain_relinked inside nearest,stack,fun path kind unseen => ?_,
    fun path v kind unseen => ?_,fun path kind unseen => ?_⟩
  · exact (same.places path kind).get.trans (Target.get_parallel relinks (plain kind) unseen)
  · exact ((same.places path kind).set v).trans (Target.set_parallel relinks kind v unseen)
  · exact (same.places path kind).delete.trans (Target.delete_parallel relinks (plain kind) unseen)

/-- The runtime `start`, in which the newest scope has been made for what runs for `parent`: from then on,
whatever else happens, local data are seen from the newest scope as they are from `parent`. -/
structure RunsFor (r : Runtime) (parent : Address) (start : Runtime) : Prop where
  grown : ∃ passed, Grown passed start
  inside : r.store.scopes.size < start.store.scopes.size
  locals : ∀ passed later, Grown passed later → r.store.scopes.size < later.store.scopes.size →
    later.store.scopeAt r.store.scopes.size = start.store.scopeAt r.store.scopes.size →
      later.SameLocals r.store.scopes.size parent

theorem runsFor {passed : List (Address × Given)} {r : Runtime} (grown : Grown passed r)
    {parent : Address} (inside : parent < r.store.scopes.size) (specials : Dict) (options : ScopeOptions) :
    r.RunsFor parent (Scope.makeSpecialChild parent specials options r).2 := by
  have made := grown.scope (.special parent (.entries specials) options)
    (fun _ same => by cases same; exact inside) (fun _ same => by cases same)
  have record : ∃ scope : Scope, scope.parent = some parent ∧ scope.onlySpecials = true ∧
      (Scope.makeSpecialChild parent specials options r).2.store.scopeAt r.store.scopes.size = scope :=
    ⟨_,rfl,rfl,r.store.scopes.getD_push_self _ _⟩
  obtain ⟨scope,below,special,last⟩ := record
  refine ⟨⟨_,made⟩,Nat.lt_of_lt_of_eq (Nat.lt_succ_self _) (r.store.scopes.size_push _).symm,?_⟩
  intro passed later grown newest same
  rw [last] at same
  refine .of_stack (grown.separate.ordered.localStack_special newest ?_ ?_)
  · rw [same]
    exact below
  · rw [Store.remains,same,special]
    rfl

end Runtime

/-- What claims an event is in the chain of the scope that it is fired from, and so is where its handler
runs. -/
theorem Event.handlerScope_inside {s : Store} {event : Event} {scope bound : Address}
    (ordered : s.Ordered) (inside : scope < s.scopes.size)
    (claimed : event.handlerScope? s scope = some bound) (handler : Handler) :
    s.handlerScope bound handler < s.scopes.size := by
  obtain ⟨nearer,selected⟩ := handlerOn?_eq_some_iff.mp claimed
  have within : bound < s.scopes.size :=
    (ordered.chain inside).2 bound (selected.ahead.subset (List.mem_append_right _ (List.mem_singleton_self _)))
  unfold Store.handlerScope
  split
  · cases above : (s.scopeAt bound).parent with
    | none => exact within
    | some parent => exact Nat.lt_trans (ordered bound parent above) within
  · exact within

namespace Handler

variable {η : Type}

/-- What follows once a handler that was running in a scope has ended. -/
def concluded (host : Host η) (fuel : Nat) (running : Address) (handler : Handler) (label : String)
    (trail : Address) (depth : Nat) (raising : Bool) : Except Address Value → Run η Value
  | .ok v => return v
  | .error failure => do
    if raising then Step.raise (← wrapped label trail failure)
    else
      let frames ← Trail.copy trail
      let report ← Report.make
        ⟨"Error running " ++ label,some failure,some frames,none,some handler.text⟩
      Trail.cut trail depth
      reportFailure host fuel running report
      return .null

/-- A handler runs in the newest scope, which adds the data of the event to the scope that it runs for. -/
theorem fire_entered {host : Host η} {fuel : Nat} {scope trail bound : Address} {event : Event}
    {raising : Bool} {w : World η} {handler : Handler}
    (claimed : event.handlerScope? w.runtime.store scope = some bound)
    (binds : w.runtime.store.handlerOf? bound event.name = some handler) :
    fire host (fuel + 1) scope event trail raising w =
      (Step.attempt (runHandler host fuel w.runtime.store.scopes.size handler.text
          (label w.runtime.store event bound) trail) >>=
        concluded host fuel w.runtime.store.scopes.size handler (label w.runtime.store event bound) trail
          (w.runtime.store.trailAt trail).length raising) (Told.entering w bound handler event) := by
  rw [fire,Step.bind_done (Step.read_run w)]
  dsimp only
  rw [claimed]
  dsimp only
  rw [binds]
  refine congrFun (congrArg (Step.attempt _ >>= ·) (funext fun ending => ?_)) _
  cases ending <;> rfl

/-- The world in which the block of a local handler starts, in a scope that adds the arguments. -/
def enteringLocal (w : World η) (scope : Address) (data : Value) (name : String) : World η :=
  { w with runtime := (Scope.makeSpecialChild scope (Dict.put [] "params" data)
    (.described ("local handler " ++ name)) w.runtime).2 }

/-- The block of a local handler, run in a scope. -/
def localBlock (host : Host η) (fuel : Nat) (running node trail : Address) (name : String) :
    Run η Value :=
  framed trail ("Running @local handler '" ++ name ++ "'") (do
    let text ← Act.ofExcept (Node.textContent (← Step.read).runtime.store node)
    let block ← Block.read text
    runBlock (runStep host fuel running trail) block)

theorem runLocal_entered {host : Host η} {fuel : Nat} {node scope trail : Address} {data : Value}
    {name : String} {w : World η} : runLocal host (fuel + 1) node data scope trail name w =
      localBlock host fuel w.runtime.store.scopes.size node trail name (enteringLocal w scope data name) := by
  rfl

end Handler

/-- However scopes are made, the nearest scope that does not only add specials sees the same local data, and
still does once all scopes that only add specials are left out: what a path reads, writes or deletes there is
the same, unless what it meets shows the context. A handler for an event that is fired from the scope, and a
local handler that is run for it, addresses the local data of the scope that it runs for. -/
theorem Grown.locals_past_specials {passed : List (Address × Given)} {r : Runtime} {scope : Address}
    (grown : Grown passed r) (inside : scope < r.store.scopes.size) :
    (∃ base, r.MirrorsLocals scope base ∧ r.SameLocals base scope) ∧
    ∀ {η : Type} (host : Host η) (fuel : Nat) (trail : Address) (w : World η), w.runtime = r →
      (∀ event raising bound handler, event.handlerScope? r.store scope = some bound →
        r.store.handlerOf? bound event.name = some handler →
        Handler.fire host (fuel + 1) scope event trail raising w =
          (Step.attempt (Handler.runHandler host fuel r.store.scopes.size handler.text
              (Handler.label r.store event bound) trail) >>=
            Handler.concluded host fuel r.store.scopes.size handler (Handler.label r.store event bound)
              trail (r.store.trailAt trail).length raising) (Told.entering w bound handler event) ∧
        r.RunsFor (r.store.handlerScope bound handler) (Told.entering w bound handler event).runtime) ∧
      ∀ node data name,
        Handler.runLocal host (fuel + 1) node data scope trail name w =
          Handler.localBlock host fuel r.store.scopes.size node trail name
            (Handler.enteringLocal w scope data name) ∧
        r.RunsFor scope (Handler.enteringLocal w scope data name).runtime := by
  have ordered := grown.separate.ordered
  refine ⟨?_,fun host fuel trail w here => ⟨fun event raising bound handler claimed binds => ?_,
    fun node data name => ?_⟩⟩
  · obtain ⟨lineage,-⟩ := ordered.chain inside
    obtain ⟨base,nearest⟩ := lineage.exists_remaining grown.based
    exact ⟨base,Runtime.mirrorsLocals ordered inside nearest,
      .of_stack (ordered.localStack_remaining inside nearest)⟩
  · subst here
    exact ⟨Handler.fire_entered claimed binds,
      Runtime.runsFor grown (Event.handlerScope_inside ordered inside claimed handler) event.data _⟩
  · subst here
    exact ⟨Handler.runLocal_entered,Runtime.runsFor grown inside _ _⟩

/-- A scope with local data and a handler, one that only adds specials, one with data of its own below it,
and one that only adds specials below that. -/
def layered : Runtime :=
  let saving : ScopeOptions :=
    { ScopeOptions.plain with handlers := [("save",⟨"- log: saved",none,false⟩)], boundary := .hard }
  let top := ((Growth.detached (.dict 2) saving).make Context.sharing).2
  let adding := ((Growth.special 0 (.entries []) .plain).make top).2
  let inner := ((Growth.child 1 (.int 7) (.entries []) .plain).make adding).2
  ((Growth.special 2 (.entries []) .plain).make inner).2

theorem layered_grown : Grown [(3,.entries []),(2,.entries []),(1,.entries []),(0,.entries [])] layered := by
  have top := Grown.scope (.bare rfl : Grown [] Context.sharing) (.detached (.dict 2)
    { ScopeOptions.plain with handlers := [("save",⟨"- log: saved",none,false⟩)], boundary := .hard })
    (fun _ same => by cases same) (fun _ same => by cases same)
  have adding := top.scope (.special 0 (.entries []) .plain) (fun _ same => by cases same; decide)
    (fun _ same => by cases same)
  have inner := adding.scope (.child 1 (.int 7) (.entries []) .plain)
    (fun _ same => by cases same; decide) (fun _ same => by cases same)
  exact inner.scope (.special 2 (.entries []) .plain) (fun _ same => by cases same; decide)
    (fun _ same => by cases same)

/-- A path from the last scope to an entry of the local data one level up. -/
def outward : Path := ⟨⟨.localData,1⟩,[.field "x"]⟩

theorem layered_unseen (writing : Bool) {keys : List Segment}
    (short : keys = outward.segments ∨ keys = []) : layered.Unseen writing 3 outward.root keys := by
  have met {spot : Spot} {rest : List Segment} (met : layered.Comes writing 3 outward.root keys spot rest) :
      spot = .value (.dict 2) ∧ (rest = [.field "x"] ∨ rest = []) ∨
        spot = .value (.int 1) ∧ rest = [] := by
    induction met with
    | start rooted =>
      have rooted : Except.ok (Spot.value (.dict 2)) = Except.ok _ :=
        (show layered.rootSpot 3 outward.root = .ok (.value (.dict 2)) by decide).symm.trans rooted
      exact .inl ⟨(Except.ok.inj rooted).symm,short⟩
    | member _ ih =>
      obtain ⟨rfl,same | none⟩ | ⟨-,none⟩ := ih
      · obtain ⟨rfl,rfl⟩ := List.cons.inj same
        exact .inr ⟨by decide,rfl⟩
      · cases none
      · cases none
    | path _ _ _ ih | sub _ _ ih | locked _ _ ih | cell _ _ ih | item _ _ ih | root _ _ _ _ _ ih =>
      obtain ⟨same,-⟩ | ⟨same,-⟩ := ih <;> cases same
  refine ⟨fun spot key rest scope here shows => ?_,fun a rest scope path locked here _ => ?_⟩
  · obtain ⟨rfl,-⟩ | ⟨rfl,-⟩ := met here <;> obtain same | ⟨a,same,-⟩ := shows <;> cases same
  · obtain ⟨same,-⟩ | ⟨same,-⟩ := met here <;> cases same

theorem Grown.locals_past_specials_layered :
    Grown [(3,.entries []),(2,.entries []),(1,.entries []),(0,.entries [])] layered ∧
      3 < layered.store.scopes.size ∧ layered.store.remaining? 3 = some 2 ∧
      layered.withoutSpecials.store.chain 2 = [2,0] ∧
      ((Target.place 2 outward).get layered.withoutSpecials).1 = .done (.int 1) ∧
      (((Target.place 2 outward).set (.int 5)) layered.withoutSpecials).2.store.dictAt 2 =
        [Context.binding "x" (.int 5)] ∧
      (((Target.place 2 outward).delete) layered.withoutSpecials).2.store.dictAt 2 = [] ∧
      layered.RunsFor 0 (Told.entering ⟨layered,()⟩ 0 ⟨"- log: saved",none,false⟩
        ⟨"save",[],true⟩).runtime ∧
      layered.RunsFor 3 (Handler.enteringLocal ⟨layered,()⟩ 3 .null "greet").runtime := by
  have inside : 3 < layered.store.scopes.size := by decide
  obtain ⟨⟨base,mirrors,-⟩,runs⟩ := Grown.locals_past_specials layered_grown inside
  have nearest : layered.store.remaining? 3 = some 2 := by decide
  obtain rfl : base = 2 := Option.some.inj (mirrors.nearest.symm.trans nearest)
  have got := mirrors.get outward rfl (layered_unseen false (.inl rfl))
  have set := mirrors.set outward (.int 5) rfl (layered_unseen true (.inl rfl))
  have deleted := mirrors.delete outward rfl (layered_unseen false (.inr rfl))
  obtain ⟨fires,calls⟩ := runs (Host.idle : Host Unit) 0 0 ⟨layered,()⟩ rfl
  have fired := fires ⟨"save",[],true⟩ false 0 ⟨"- log: saved",none,false⟩ (by decide) (by decide)
  refine ⟨layered_grown,inside,nearest,mirrors.chain.trans (by decide),?_,?_,?_,fired.2,
    (calls 0 .null "greet").2⟩
  · rw [got]
    decide +kernel
  · rw [set]
    decide +kernel
  · rw [deleted]
    decide +kernel

/-- A scope, one below it that only adds a special, and one below that, whose local data hold a reference to
the special. -/
def veiled : Runtime :=
  let reference : Handle := .path 2 ⟨⟨.context,0⟩,[.field "x"]⟩ false
  let top := ((Growth.detached .null .plain).make { Page.initial with
    store := ((Page.initial.store.newHandle reference).2.newDict [Context.binding "r" (.ref 0)]).2 }).2
  let adding := ((Growth.special 0 (.entries [Context.binding "x" (.int 1)]) .plain).make top).2
  ((Growth.child 1 (.dict 2) (.entries []) .plain).make adding).2

theorem veiled_grown : Grown [(2,.entries []),(1,.entries [Context.binding "x" (.int 1)]),
    (0,.entries [])] veiled := by
  have top := Grown.scope (.bare rfl : Grown [] { Page.initial with
      store := ((Page.initial.store.newHandle (.path 2 ⟨⟨.context,0⟩,[.field "x"]⟩ false)).2.newDict
        [Context.binding "r" (.ref 0)]).2 }) (.detached .null .plain)
    (fun _ same => by cases same) (fun _ same => by cases same)
  have adding := top.scope (.special 0 (.entries [Context.binding "x" (.int 1)]) .plain)
    (fun _ same => by cases same; decide) (fun _ same => by cases same)
  exact adding.scope (.child 1 (.dict 2) (.entries []) .plain) (fun _ same => by cases same; decide)
    (fun _ same => by cases same)

/-- Local data may hold a reference that shows the context, and so reads otherwise without the specials. -/
theorem locals_show_specials : Grown [(2,.entries []),(1,.entries [Context.binding "x" (.int 1)]),
    (0,.entries [])] veiled ∧ veiled.store.remaining? 2 = some 2 ∧
      ((Target.place 2 ⟨⟨.localData,0⟩,[.field "r"]⟩).get veiled).1 = .done (.int 1) ∧
      ((Target.place 2 ⟨⟨.localData,0⟩,[.field "r"]⟩).get veiled.withoutSpecials).1 = .done .null :=
  ⟨veiled_grown,by decide,by decide +kernel,by decide +kernel⟩

end PageRuntime
