import PageRuntime.Proofs.Additions
import PageRuntime.Proofs.BatchPlaces

/-! Accumulation. Batches whose records bring additions to one site run through without a refresh. However
the additions are divided among them, the site has them all in the end, and what is beside it has not
changed. -/
namespace PageRuntime

theorem Store.Proper.null (s : Store) : s.Proper .null where
  inside w within := by
    obtain rfl := within_null within
    exact fun _ _ here => by cases here
  keys w within := by
    obtain rfl := within_null within
    exact List.nodup_nil

theorem Action.ofRecord_intact {s t : Store} {record : Value} {action : Action}
    (intact : s.Intact t record) (read : ofRecord s record = .ok action) :
    ofRecord t record = .ok action := by
  obtain ⟨d,mapping,-⟩ := ofRecord_given read
  have again : t.mapping? record = some d := (intact.settled .self).mapping?.trans mapping
  have settled {v : Value} (held : v = .null ∨ v ∈ s.members record) : v.Settled s t := by
    obtain rfl | held := held
    · exact .null s t
    · exact intact.settled (.member .self held)
  have agrees : Yields Eq (ofDict s record d) (ofDict t record d) := ofDict_yields_of_truth
    (settled (Dict.either_member mapping "type" "kind")).kindOf?
    fun name => (settled (Dict.field_member mapping name)).isTrue
  unfold ofRecord at read ⊢
  rw [mapping] at read
  rw [again]
  obtain ⟨_,read,rfl⟩ := agrees action read
  exact read

/-- An action at a location below a data root is none on the return selector. -/
theorem Action.Brings.selects {action : Action} {name : String} {keys : List Segment} {a : Addition}
    (brings : action.Brings name keys a) : (action.selector == some returnSelector) = false := by
  refine beq_eq_false_iff_ne.mpr fun selector => ?_
  obtain ⟨path,read,spells⟩ := brings.place
  rw [selector] at read
  have read : Path.read returnSelector = .ok path := read
  have none : ((Path.read returnSelector).toOption.bind fun path => path.root.kind.dataRoot?) = none := by
    decide +kernel
  rw [read] at none
  cases spells.kind.symm.trans none

namespace Runtime

variable {r mid : Runtime} {name : String} {x z v last record batch : Value} {keys : List Segment}
  {content : Content} {asked made : List Addition} {a : Addition}

/-- The record asks for the addition. -/
structure Requests (r : Runtime) (name : String) (x : Value) (keys : List Segment) (content : Content)
    (record : Value) (a : Addition) : Prop where
  read : ∃ action, Action.ofRecord r.store record = .ok action ∧ action.Brings name keys a
  proper : r.store.Proper record
  aside : ∀ u, r.store.Within record u → ¬ r.store.Lands x keys u
  acyclic : ¬ r.store.Cyclic a.value
  admits : content.Admits a

/-- The records of the batch ask for the additions. -/
structure Asks (r : Runtime) (name : String) (x : Value) (keys : List Segment) (content : Content)
    (batch : Value) (more : List Addition) : Prop where
  records : ∃ records, r.store.itemsOf batch = .ok records ∧
    List.Forall₂ (r.Requests name x keys content) records more
  inside : batch.Inside r.store
  aside : ¬ r.store.Lands x keys batch

theorem Requests.offers (requests : r.Requests name x keys content record a) :
    r.Offers x keys content a := by
  obtain ⟨action,read,brings⟩ := requests.read
  obtain ⟨d,mapping,-,-,data,-⟩ := Action.ofRecord_given read
  have data : d.field "data" = a.value := data.symm.trans brings.data
  have found := Dict.field_member mapping "data"
  rw [data] at found
  refine ⟨?_,requests.acyclic,?_,requests.admits⟩
  · obtain none | held := found
    · rw [none]
      exact .null r.store
    · exact requests.proper.of_held held
  · intro u within
    obtain none | held := found
    · rw [none] at within
      obtain rfl := Store.within_null within
      rintro ⟨_,_,_,_,-,-,takes⟩
      exact takes.something rfl
    · exact requests.aside u (within.of_held held)

/-- The additions have been made at the site, where `v` was at first. -/
def Collected (r : Runtime) (name : String) (x : Value) (keys : List Segment) (v : Value)
    (content : Content) (asked : List Addition) (mid : Runtime) : Prop :=
  ∃ z last made, r.Collects name x keys v content asked mid z last made

section

variable (site : r.Site name x keys) (collected : r.Collected name x keys v content asked mid)
include collected

theorem Collected.same {shelf : Shelf} {n : Address} {u : Value} (here : u.spot? = some (shelf,n))
    (inside : n < r.store.sizeOf shelf) (aside : ¬ r.store.Lands x keys u) :
    mid.store.object shelf n = r.store.object shelf n := by
  obtain ⟨z,last,made,collects⟩ := collected
  refine (collects.sited.kept shelf n inside).2 fun c lands there => ?_
  obtain rfl := Value.spot_inj there here
  exact aside lands

theorem Collected.intact {u : Value} (proper : r.store.Proper u)
    (aside : ∀ w, r.store.Within u w → ¬ r.store.Lands x keys w) : r.store.Intact mid.store u :=
  fun w within shelf n here =>
    collected.same here (proper.inside w within shelf n here) (aside w within)

include site in
theorem Collected.widens {after : Runtime} (widens : mid.Widens after) :
    r.Collected name x keys v content asked after := by
  obtain ⟨z,last,made,collects⟩ := collected
  exact ⟨z,last,made,collects.widens site widens⟩

end

end Runtime

namespace ActionBatch
open PageRuntime.Runtime (Requests Asks Collected Site)

variable {η : Type}

section

variable (host : Host η) {r : Runtime} {name : String} {x v : Value} {keys : List Segment}
  {content : Content} (site : r.Site name x keys) (finds : r.store.Finds x keys v)
  (carries : r.store.Carries v content)
include site finds carries

/-- A step that gives the value, with the additions made, and leaves the registry alone. -/
def Adds (r : Runtime) (name : String) (x : Value) (keys : List Segment) (v : Value) (content : Content)
    (asked : List Addition) (step : Run η Value) (returned : Value) (w : World η) : Prop :=
  ∃ after, step w = (.done returned,after) ∧ after.host = w.host ∧
    after.runtime.registry = w.runtime.registry ∧ r.Collected name x keys v content asked after.runtime

theorem processRecord_adds {asked : List Addition} {a : Addition} {record : Value}
    (requests : r.Requests name x keys content record a) {w : World η}
    (collected : r.Collected name x keys v content asked w.runtime) (scope : Address) (index : Nat)
    (returned : Value) : Adds r name x keys v content (asked ++ [a])
      (processRecord host scope false index record returned) returned w := by
  obtain ⟨action,read,brings⟩ := requests.read
  have read := Action.ofRecord_intact (collected.intact requests.proper requests.aside) read
  obtain ⟨z,last,made,collects⟩ := collected
  obtain ⟨after,holder,last,b,ran,registry,later⟩ :=
    applyData_collects site collects requests.offers finds carries brings scope
  refine ⟨{ w with runtime := after },?_,rfl,registry,holder,last,_,later⟩
  have attempted : attemptRecord host scope false record returned w =
      (.done returned,{ w with runtime := after }) := by
    have applied : apply host scope action w = (.done (),{ w with runtime := after }) := by
      rw [apply,brings.kind]
      exact Run.ofAct_run ran
    rw [attemptRecord,Step.bind_done (Step.read_run w),read]
    show (if action.kind.canReturn && action.selector == some Action.returnSelector then _ else _ :
      Run η Value) w = _
    rw [brings.selects,Bool.and_false,if_neg Bool.false_ne_true,if_neg Bool.false_ne_true,
      Step.bind_done applied]
    rfl
  rw [processRecord,Step.bind_run,Step.attempt,attempted]
  rfl

/-- One record after the other. -/
theorem processAll_adds {asked more : List Addition} {records : List Value}
    (requests : List.Forall₂ (r.Requests name x keys content) records more) {w : World η}
    (collected : r.Collected name x keys v content asked w.runtime) (scope : Address) (index : Nat)
    (returned : Value) : Adds r name x keys v content (asked ++ more)
      (processAll host scope false index records returned) returned w := by
  induction requests generalizing asked w index with
  | nil => exact ⟨w,rfl,rfl,rfl,by rwa [List.append_nil]⟩
  | @cons record a records more request requests ih =>
    obtain ⟨mid,ran,untouched,registry,collected⟩ :=
      processRecord_adds host site finds carries request collected scope index returned
    obtain ⟨after,onwards,still,registryStill,collected⟩ := ih collected (index + 1)
    rw [List.append_assoc] at collected
    refine ⟨after,?_,still.trans untouched,registryStill.trans registry,collected⟩
    rw [processAll,Step.bind_done ran]
    exact onwards

/-- A list of records stays as it is, so each is the one that was there at first. -/
theorem processLive_adds {list : Address} (inside : list < r.store.sizeOf .list)
    (aside : ¬ r.store.Lands x keys (.list list)) {asked more : List Addition} {index fuel : Nat}
    (requests : List.Forall₂ (r.Requests name x keys content) ((r.store.listAt list).drop index) more)
    (within : index ≤ (r.store.listAt list).length)
    (enough : (r.store.listAt list).length < fuel + index) {w : World η}
    (collected : r.Collected name x keys v content asked w.runtime) (scope : Address)
    (returned : Value) : Adds r name x keys v content (asked ++ more)
      (processLive host scope false list fuel index returned) returned w := by
  induction fuel generalizing asked more w index with
  | zero => omega
  | succ fuel ih =>
    have same : w.runtime.store.listAt list = r.store.listAt list :=
      Object.items.inj (collected.same rfl inside aside)
    unfold Adds
    rw [processLive,Step.bind_done (Step.read_run w),same]
    cases here : (r.store.listAt list)[index]? with
    | none =>
      rw [List.drop_eq_nil_of_le (List.getElem?_eq_none_iff.mp here)] at requests
      cases requests
      exact ⟨w,rfl,rfl,rfl,by rwa [List.append_nil]⟩
    | some record =>
      obtain ⟨earlier,rfl⟩ := List.getElem?_eq_some_iff.mp here
      rw [List.drop_eq_getElem_cons earlier] at requests
      obtain _ | ⟨request,requests⟩ := requests
      obtain ⟨mid,ran,untouched,registry,collected⟩ :=
        processRecord_adds host site finds carries request collected scope index returned
      obtain ⟨after,onwards,still,registryStill,collected⟩ := ih requests earlier (by omega) collected
      rw [List.append_assoc] at collected
      refine ⟨after,?_,still.trans untouched,registryStill.trans registry,collected⟩
      dsimp only
      rw [Step.bind_done ran]
      exact onwards

theorem processItems_adds {asked more : List Addition} {batch : Value}
    (asks : r.Asks name x keys content batch more) {w : World η}
    (collected : r.Collected name x keys v content asked w.runtime) (scope : Address) :
    Adds r name x keys v content (asked ++ more) (processItems host scope false batch) .null w := by
  obtain ⟨records,listed,requests⟩ := asks.records
  have settled : batch.Settled r.store w.runtime.store :=
    fun shelf n here _ => collected.same here (asks.inside shelf n here) asks.aside
  have again : w.runtime.store.itemsOf batch = .ok records := by
    refine ok_of_toOption ?_
    rw [settled.itemsOf,listed]
    rfl
  have taken : Adds r name x keys v content (asked ++ more)
      ((Act.ofExcept (w.runtime.store.itemsOf batch) : Run η (List Value)) >>=
        fun records => processAll host scope false 0 records .null) .null w := by
    rw [again]
    exact processAll_adds host site finds carries requests collected scope 0 .null
  unfold Adds at taken ⊢
  rw [processItems,Step.bind_done (Step.read_run w)]
  cases batch with
  | list a =>
    cases listed
    have same : w.runtime.store.listAt a = r.store.listAt a := Object.items.inj (settled .list a rfl rfl)
    rw [← List.drop_zero (l := r.store.listAt a)] at requests
    dsimp only
    rw [same]
    exact processLive_adds host site finds carries (asks.inside .list a rfl) asks.aside requests
      (Nat.zero_le _) (by unfold growthLimit; omega) collected scope .null
  | _ => exact taken

theorem process_adds {asked more : List Addition} {batch : Value}
    (asks : r.Asks name x keys content batch more) {w : World η}
    (settled : w.depth = 0 → w.runtime.registry.pending = [])
    (collected : r.Collected name x keys v content asked w.runtime) :
    Adds r name x keys v content (asked ++ more) (process host batch false) .null w := by
  have given : batch ≠ .null := by
    rintro rfl
    obtain ⟨_,listed,-⟩ := asks.records
    cases listed
  have grew : w.runtime.store.Grew (begun w).runtime.store := (Scope.makeRoot_onlyGrows w.runtime).store
  have begins : r.Collected name x keys v content asked (begun w).runtime :=
    collected.widens site ⟨grew,rfl,rfl,rfl⟩
  obtain ⟨mid,ran,untouched,registry,collected⟩ :=
    processItems_adds host site finds carries asks begins w.runtime.store.scopes.size
  have left := leave_begun host settled registry
  refine ⟨{ mid with runtime.registry :=
      { mid.runtime.registry with depth := mid.runtime.registry.depth - 1 } },?_,untouched,?_,
    collected.widens site ⟨.refl _,rfl,rfl,rfl⟩⟩
  · rw [process_begun given,Step.thenAlways,ran]
    dsimp only
    rw [left]
  · dsimp only
    rw [registry]
    rfl

/-- Batches one after the other, whatever values they give. -/
def processEach (host : Host η) : List Value → Run η Unit
  | [] => return ()
  | batch :: rest => do
    let _ ← process host batch false
    processEach host rest

theorem processEach_adds {asked : List Addition} {batches : List Value} {lists : List (List Addition)}
    (asks : List.Forall₂ (r.Asks name x keys content) batches lists) {w : World η}
    (settled : w.depth = 0 → w.runtime.registry.pending = [])
    (collected : r.Collected name x keys v content asked w.runtime) :
    ∃ after, processEach host batches w = (.done (),after) ∧ after.host = w.host ∧
      after.runtime.registry = w.runtime.registry ∧
      r.Collected name x keys v content (asked ++ lists.flatten) after.runtime := by
  induction asks generalizing asked w with
  | nil => exact ⟨w,rfl,rfl,rfl,by rwa [List.flatten_nil,List.append_nil]⟩
  | @cons batch more batches lists asking asks ih =>
    obtain ⟨mid,ran,untouched,registry,collected⟩ :=
      process_adds host site finds carries asking settled collected
    have settled : mid.depth = 0 → mid.runtime.registry.pending = [] := by
      rw [World.depth,registry]
      exact settled
    obtain ⟨after,onwards,still,registryStill,collected⟩ := ih settled collected
    rw [List.append_assoc] at collected
    refine ⟨after,?_,still.trans untouched,registryStill.trans registry,collected⟩
    rw [processEach,Step.bind_done ran]
    exact onwards

end

/-- Additions to one site, divided among batches at will, all run, and what they brought is copied there:
prepended items in front with the latest first and appended ones behind, or the entries of mappings over
those that were there. Where the path parts from that of the site, all reads as before. -/
theorem processEach_accumulates (host : Host η) {w : World η} {name : String} {x v : Value}
    {keys : List Segment} {content : Content} (settled : w.depth = 0 → w.runtime.registry.pending = [])
    (site : w.runtime.Site name x keys) (finds : w.runtime.store.Finds x keys v)
    (carries : w.runtime.store.Carries v content) {batches : List Value} {lists : List (List Addition)}
    (asks : List.Forall₂ (w.runtime.Asks name x keys content) batches lists) : ∃ after last made,
    processEach host batches w = (.done (),after) ∧ after.host = w.host ∧
      List.Forall₂ (Addition.Copied w.runtime.store after.runtime.store) lists.flatten made ∧
      (∀ path scope, path.Spells name keys → after.runtime.readPath scope path = .ok (.value last)) ∧
      ((made = [] ∧ last = v) ∨
        after.runtime.store.Houses last (content.extended after.runtime.store made)) ∧
      (∀ d, content = .entries d → ∀ key, (after.runtime.store.entries last).get? key =
        (Dict.get? (made.flatMap fun b => after.runtime.store.entries b.value).reverse key).or
          (d.get? key)) ∧
      w.runtime.store.Intact after.runtime.store v ∧
      (∀ path scope, path.root.kind.dataRoot? = some name → ¬ Backward path.segments →
        Parts keys path.segments → w.runtime.ReadsOn after.runtime scope path) ∧
      ∀ other y, other ≠ name → w.runtime.rootValue? other = some y → w.runtime.store.SelfContained y →
        (∀ c, w.runtime.store.Lands x keys c → ¬ w.runtime.store.Within y c) → ∀ path scope,
          path.root.kind.dataRoot? = some other → w.runtime.ReadsOn after.runtime scope path := by
  obtain ⟨after,ran,untouched,-,z,last,made,collects⟩ := processEach_adds host site finds carries asks
    settled ⟨.null,v,[],site.collects finds⟩
  rw [List.nil_append] at collects
  have sited := collects.sited
  refine ⟨after,last,made,ran,untouched,collects.copied,?_,collects.houses,?_,sited.intact site finds,?_,?_⟩
  · exact fun path scope spells => sited.reads site spells scope
  · rintro d rfl key
    rw [← Dict.get?_update]
    obtain ⟨rfl,nothing⟩ | mapping := collects.carries site finds carries
    · rw [nothing]
      rfl
    · rw [Store.entries,mapping]
      rfl
  · exact fun path scope kind forward parts => sited.beside site kind forward parts scope
  · exact fun other y differ held alone apart path scope kind =>
      sited.elsewhere site differ held alone apart kind scope

/-- A page whose state has a list and a number, two batches of actions that add to the list, and one of
actions that merge entries where the state has none. -/
def collecting : World Unit where
  runtime :=
    let listed := { Page.initial with store := (Page.initial.store.newList [.int 1]).2 }
    let spare := { listed with store := (listed.store.newList [.int 9]).2 }
    let state : Dict := [⟨.text "l",.str "l",.list 0⟩,⟨.text "m",.str "m",.int 7⟩]
    let held := { spare with store := (spare.store.newDict state).2 }.setRoot "state" (.dict 2)
    let behind := { held with store := (held.store.newDict (bringing "$state.l" "append" (.int 2))).2 }
    let front := { behind with
      store := (behind.store.newDict (bringing "$state.l" "prepend" (.list 1))).2 }
    let part := { front with store := (front.store.newDict [⟨.text "a",.str "a",.int 3⟩]).2 }
    let other := { part with store := (part.store.newDict [⟨.text "a",.str "a",.int 4⟩]).2 }
    let merge := { other with store := (other.store.newDict (bringing "$state.d" "merge" (.dict 5))).2 }
    let again := { merge with store := (merge.store.newDict (bringing "$state.d" "merge" (.dict 6))).2 }
    let both := { again with store := (again.store.newList [.dict 3,.dict 4]).2 }
    let single := { both with store := (both.store.newList [.dict 3]).2 }
    { single with store := (single.store.newList [.dict 7,.dict 8]).2 }
  host := ()

theorem collecting_closed : collecting.runtime.Closed := by
  have listed := (Runtime.Closed.initial.newList (.cons (.int 1) .nil)).newList (.cons (.int 9) .nil)
  have held := (listed.newDict (entry_present "l" (.list ⟨rfl,Nat.zero_lt_two⟩)
    (entry_present "m" (.int 7) .nil))).setRoot "state" (.dict ⟨rfl,Nat.lt_succ_self 2⟩)
  have behind := held.newDict (bringing_present "$state.l" "append" (.int 2))
  have front := behind.newDict (bringing_present "$state.l" "prepend" (.list ⟨rfl,Nat.lt_succ_self 1⟩))
  have parts := (front.newDict (entry_present "a" (.int 3) .nil)).newDict (entry_present "a" (.int 4) .nil)
  have merge := parts.newDict (bringing_present "$state.d" "merge" (.dict ⟨rfl,show 5 < 7 by decide⟩))
  have again := merge.newDict (bringing_present "$state.d" "merge" (.dict ⟨rfl,show 6 < 8 by decide⟩))
  have both := again.newList (.cons (.dict ⟨rfl,show 3 < 9 by decide⟩)
    (.cons (.dict ⟨rfl,show 4 < 9 by decide⟩) .nil))
  have single := both.newList (.cons (.dict ⟨rfl,show 3 < 9 by decide⟩) .nil)
  exact single.newList (.cons (.dict ⟨rfl,show 7 < 9 by decide⟩)
    (.cons (.dict ⟨rfl,show 8 < 9 by decide⟩) .nil))

def inState (name : String) : Path := ⟨⟨.state,0⟩,[.field name]⟩

theorem inState_spells (name : String) : (inState name).Spells "state" [.field name] :=
  ⟨rfl,Nat.zero_le 1,rfl⟩

theorem field_forward (name : String) : ¬ Backward [.field name] :=
  not_backward_cons.mpr ⟨by rintro place ⟨⟩,by simp [Backward]⟩

theorem collecting_site (name : String) : collecting.runtime.Site "state" (.dict 2) [.field name] where
  closed := collecting_closed
  alive := rfl
  held := rfl
  writable := rfl
  alone u within := by
    have among : u ∈ [Value.dict 2,.list 0,.int 1,.int 7] := within.among (by decide) (by decide)
    simp only [List.mem_cons,List.not_mem_nil,or_false] at among
    obtain rfl | rfl | rfl | rfl := among <;> exact ⟨fun _ => Value.noConfusion,fun _ => Value.noConfusion⟩
  apart := by
    have once : ({ collecting.runtime with roots := [("state",.dict 2)] } : Runtime).PlacedOnce :=
      .of_places (n := 4) (by decide +kernel) (by decide +kernel)
    exact once.apart
  forward := field_forward name
  accepts := .inr (.inr ⟨.dict 2,_,_,_,_,rfl,rfl,.inl ⟨2,rfl⟩⟩)

theorem collecting_lands {name : String} {c : Value}
    (lands : collecting.runtime.store.Lands (.dict 2) [.field name] c) : c = .dict 2 := by
  obtain ⟨_,_,_,_,same,lands,-⟩ := lands
  cases same
  cases lands
  rfl

theorem collecting_requests {n : Address} {name selector : String} (content : Content) {a : Addition}
    (values : List Value) (start : Value.dict n ∈ values)
    (closed : ∀ x ∈ values, ∀ y ∈ collecting.runtime.store.members x, y ∈ values)
    (inside : ∀ x ∈ values, ∀ spot ∈ x.spot?, spot.2 < collecting.runtime.store.sizeOf spot.1)
    (keys : ∀ x ∈ values, ((collecting.runtime.store.entries x).map (·.key)).Nodup)
    (apart : Value.dict 2 ∉ values)
    (read : Action.ofRecord collecting.runtime.store (.dict n) =
      .ok ⟨.setData,some selector,a.value,.str a.setop.name,.null,.null⟩)
    (selects : Path.read selector = .ok (inState name))
    (acyclic : collecting.runtime.store.hasCycle a.value = false) (admits : content.Admits a) :
    collecting.runtime.Requests "state" (.dict 2) [.field name] content (.dict n) a where
  read := ⟨_,read,rfl,⟨inState name,selects,inState_spells name⟩,rfl,rfl⟩
  proper := .of_among values start closed inside keys
  aside u within lands := by
    obtain rfl := collecting_lands lands
    exact apart (within.among start closed)
  acyclic cyclic := by
    rw [← collecting.runtime.store.hasCycle_iff,acyclic] at cyclic
    cases cyclic
  admits := admits

theorem collecting_batch {n : Address} {name : String} {content : Content} {more : List Addition}
    (few : n < 5) (requests : List.Forall₂
      (collecting.runtime.Requests "state" (.dict 2) [.field name] content)
      (collecting.runtime.store.listAt n) more) :
    collecting.runtime.Asks "state" (.dict 2) [.field name] content (.list n) more where
  records := ⟨_,rfl,requests⟩
  inside shelf a here := by
    cases here
    exact few
  aside lands := by cases collecting_lands lands

/-- Two batches: the first has an item for either end, the second one more for the end. -/
theorem collecting_items : List.Forall₂
    (collecting.runtime.Asks "state" (.dict 2) [.field "l"] (.items [.int 1])) [.list 2,.list 3]
    [[⟨.append,.int 2⟩,⟨.prepend,.list 1⟩],[⟨.append,.int 2⟩]] := by
  have selects : Path.read "$state.l" = .ok (inState "l") := by rfl
  have behind := collecting_requests (.items [.int 1]) (n := 3) (a := ⟨.append,.int 2⟩)
    [.dict 3,.str "setdata",.str "$state.l",.str "append",.int 2] (by decide) (by decide) (by decide)
    (by decide) (by decide) rfl selects (by decide) (.inl rfl)
  have front := collecting_requests (.items [.int 1]) (n := 4) (a := ⟨.prepend,.list 1⟩)
    [.dict 4,.str "setdata",.str "$state.l",.str "prepend",.list 1,.int 9] (by decide) (by decide)
    (by decide) (by decide) (by decide) rfl selects (by decide) (.inr rfl)
  exact .cons (collecting_batch (by decide) (.cons behind (.cons front .nil)))
    (.cons (collecting_batch (by decide) (.cons behind .nil)) .nil)

/-- A batch that merges one mapping, and then another with the same key. -/
theorem collecting_entries : List.Forall₂
    (collecting.runtime.Asks "state" (.dict 2) [.field "d"] (.entries [])) [.list 4]
    [[⟨.merge,.dict 5⟩,⟨.merge,.dict 6⟩]] := by
  have selects : Path.read "$state.d" = .ok (inState "d") := by rfl
  have first := collecting_requests (.entries []) (n := 7) (a := ⟨.merge,.dict 5⟩)
    [.dict 7,.str "setdata",.str "$state.d",.str "merge",.dict 5,.int 3] (by decide) (by decide)
    (by decide) (by decide) (by decide) rfl selects (by decide) ⟨rfl,rfl⟩
  have second := collecting_requests (.entries []) (n := 8) (a := ⟨.merge,.dict 6⟩)
    [.dict 8,.str "setdata",.str "$state.d",.str "merge",.dict 6,.int 4] (by decide) (by decide)
    (by decide) (by decide) (by decide) rfl selects (by decide) ⟨rfl,rfl⟩
  exact .cons (collecting_batch (by decide) (.cons first (.cons second .nil))) .nil

/-- Items come to the list of the state, and entries to where it has none. -/
theorem processEach_accumulates_collecting :
    (∃ after n m, processEach Host.idle [.list 2,.list 3] collecting = (.done (),after) ∧
      after.runtime.readPath 0 (inState "l") = .ok (.value (.list n)) ∧
      after.runtime.store.listAt n = [.list m,.int 1,.int 2,.int 2] ∧
      collecting.runtime.store.Copied after.runtime.store (.list 1) (.list m) ∧
      collecting.runtime.ReadsOn after.runtime 0 (inState "m")) ∧
    ∃ after n one other, processEach Host.idle [.list 4] collecting = (.done (),after) ∧
      after.runtime.readPath 0 (inState "d") = .ok (.value (.dict n)) ∧
      collecting.runtime.store.Copied after.runtime.store (.dict 5) one ∧
      collecting.runtime.store.Copied after.runtime.store (.dict 6) other ∧
      after.runtime.store.dictAt n =
        Dict.update [] (after.runtime.store.entries one ++ after.runtime.store.entries other) := by
  have direct (a : Address) : Value.dict 2 ≠ .ref a := Value.noConfusion
  constructor
  · have carries : collecting.runtime.store.Carries (.list 0) (.items [.int 1]) := .inr rfl
    obtain ⟨after,last,made,ran,-,copied,reads,houses,-,-,beside,-⟩ := processEach_accumulates Host.idle
      (fun _ => rfl) (collecting_site "l") (.cons direct (.nil fun _ => Value.noConfusion)) carries
      collecting_items
    obtain ⟨⟨_,x⟩,_,⟨rfl,first⟩,others,rfl⟩ := List.forall₂_cons_left_iff.mp copied
    obtain ⟨⟨_,y⟩,_,⟨rfl,second⟩,another,rfl⟩ := List.forall₂_cons_left_iff.mp others
    obtain ⟨⟨_,z⟩,_,⟨rfl,third⟩,nothing,rfl⟩ := List.forall₂_cons_left_iff.mp another
    cases nothing
    obtain rfl : x = .int 2 := first.plain rfl
    obtain rfl : z = .int 2 := third.plain rfl
    obtain ⟨nothing,-⟩ | ⟨n,rfl,items⟩ := houses
    · cases nothing
    obtain ⟨m,rfl⟩ : ∃ m, y = .list m := by
      cases second with
      | same plain => cases plain
      | list => exact ⟨_,rfl⟩
      | mapping mapping => cases mapping
    have parts : Parts [.field "l"] (inState "m").segments := by constructor <;> simp [inState]
    exact ⟨after,n,m,ran,reads _ 0 (inState_spells "l"),items,second,
      beside _ 0 rfl (field_forward "m") parts⟩
  · have carries : collecting.runtime.store.Carries .null (.entries []) := .inl ⟨rfl,rfl⟩
    obtain ⟨after,last,made,ran,-,copied,reads,houses,-⟩ := processEach_accumulates Host.idle
      (fun _ => rfl) (collecting_site "d") (.cons direct (.nil fun _ => Value.noConfusion)) carries
      collecting_entries
    obtain ⟨⟨_,x⟩,_,⟨rfl,first⟩,others,rfl⟩ := List.forall₂_cons_left_iff.mp copied
    obtain ⟨⟨_,y⟩,_,⟨rfl,second⟩,nothing,rfl⟩ := List.forall₂_cons_left_iff.mp others
    cases nothing
    obtain ⟨nothing,-⟩ | ⟨n,rfl,entries⟩ := houses
    · cases nothing
    exact ⟨after,n,x,y,ran,reads _ 0 (inState_spells "d"),first,second,by simpa using entries⟩

/-- A page whose state is empty, and an action that would add a list that contains itself. -/
def looping : World Unit where
  runtime :=
    let looped := { Page.initial with store := (Page.initial.store.newList [.list 0]).2 }
    let given := { looped with
      store := (looped.store.newDict (bringing "$state.l" "append" (.list 0))).2 }
    { given with store := (given.store.newList [.dict 2]).2 }
  host := ()


theorem looping_closed : looping.runtime.Closed := by
  have adds := Page.initial.store.newList_adds [.list 0]
  have looped := Runtime.Closed.initial.adds adds
    (Runtime.Closed.initial.store.ordered.of_adds adds fun same => by cases same)
    (.items (.cons (.list ⟨rfl,Nat.zero_lt_one⟩) .nil))
  have given := looped.newDict (bringing_present "$state.l" "append" (.list ⟨rfl,Nat.zero_lt_one⟩))
  exact given.newList (.cons (.dict ⟨rfl,Nat.lt_succ_self 2⟩) .nil)

theorem looping_site : looping.runtime.Site "state" (.dict 1) [.field "l"] where
  closed := looping_closed
  alive := rfl
  held := rfl
  writable := rfl
  alone u within := by
    obtain rfl | ⟨w,held,-⟩ := within.first
    · exact ⟨fun _ => Value.noConfusion,fun _ => Value.noConfusion⟩
    · cases held
  apart := Store.layout_apart_of_leaf rfl
  forward := field_forward "l"
  accepts := .inr (.inr ⟨.dict 1,_,_,_,_,rfl,rfl,.inl ⟨1,rfl⟩⟩)

/-- A payload that contains itself has no copy, so its action is passed over. -/
theorem process_skips_looping : looping.runtime.Site "state" (.dict 1) [.field "l"] ∧
    looping.runtime.store.Finds (.dict 1) [.field "l"] .null ∧
    (∃ action, Action.ofRecord looping.runtime.store (.dict 2) = .ok action ∧
      action.Brings "state" [.field "l"] ⟨.append,.list 0⟩) ∧
    ∃ after, process Host.idle (.list 1) false looping = (.done .null,after) ∧
      after.runtime.readPath 0 (inState "l") = .ok (.value .null) := by
  have selects : Path.read "$state.l" = .ok (inState "l") := by rfl
  refine ⟨looping_site,.cons (fun _ => Value.noConfusion) (.nil fun _ => Value.noConfusion),
    ⟨_,rfl,rfl,⟨inState "l",selects,inState_spells "l"⟩,rfl,rfl⟩,?_⟩
  have done : (process Host.idle (.list 1) false looping).1 = .done .null := by decide +kernel
  have nothing : ((process Host.idle (.list 1) false looping).2.runtime.readPath 0 (inState "l")).toOption =
    some (.value .null) := by decide +kernel
  obtain ⟨after,ran⟩ := Step.ended done
  rw [ran] at nothing
  exact ⟨after,ran,ok_of_toOption nothing⟩

end ActionBatch
end PageRuntime
