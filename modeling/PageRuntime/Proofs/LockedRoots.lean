import PageRuntime.Page
import PageRuntime.Proofs.Containment
import PageRuntime.Proofs.InertRoots

/-! Locked roots. A root is sealed if no sequence of writes and removals through handles on its
locations raises or changes what it holds. A locked root need not be sealed: it is if and only if
everything below it is missing or passed over by writes. -/
namespace PageRuntime

/-- A write or a removal through a handle. -/
inductive Change
  | set (a : Address) (v : Value)
  | delete (a : Address)

namespace Change
open PageRuntime.Runtime (LockedRoot Inert)

def run : Change → Act Unit
  | set a v => Reference.set a v
  | delete a => Reference.delete a

/-- The change is of a location in a data root. -/
def Targets (r : Runtime) (name : String) : Change → Prop
  | set a v => r.Names name a ∧ v.Present r.store
  | delete a => r.NamesWithin name a

theorem passes {r : Runtime} {name : String} (root : LockedRoot r name) (inert : r.Inert name)
    (change : Change) (targets : change.Targets r name) : change.run.Passes r := by
  cases change with
  | set a v => exact Reference.set_names root inert targets.1 targets.2
  | delete a => exact .of_run root.closed (Reference.delete_names root inert targets)

end Change

namespace Runtime
open Reference (isFixed)

/-- The root holds the same value, with the same contents at any depth, and reads the same along all
accessor steps. -/
structure Unchanged (name : String) (r after : Runtime) : Prop where
  value : after.rootValue? name = r.rootValue? name
  contents : ∀ v shelf a, r.store.Within (Value.ofOption (r.rootValue? name)) v →
    v.spot? = some (shelf,a) → after.store.object shelf a = r.store.object shelf a
  reads : ∀ keys, after.below name keys = r.below name keys

theorem Unchanged.of_grew {name : String} {r after : Runtime} (closed : r.Closed)
    (growth : r.Grew after) (afterClosed : after.Closed) : Unchanged name r after where
  value := growth.rootValue? name
  contents _ shelf a within here :=
    (growth.store shelf a ((within.present closed (closed.rootPresent name)).inside _ _ here)).2
  reads := below_grew growth afterClosed closed

/-- The states that changes of locations in a root lead to, while other objects may be made. -/
inductive Session (name : String) (r : Runtime) : Runtime → Prop
  | start : Session name r r
  | make {between after : Runtime} (reached : Session name r between) (grew : between.Grew after)
      (closed : after.Closed) : Session name r after
  | change {between after : Runtime} (reached : Session name r between) (change : Change)
      (targets : change.Targets between name) (ran : change.run between = (.done (),after)) :
      Session name r after

/-- No sequence of changes of locations in the root raises or changes what it holds. -/
def Sealed (r : Runtime) (name : String) : Prop :=
  ∀ between, Session name r between → ∀ change : Change, change.Targets between name →
    ∃ after, change.run between = (.done (),after) ∧ Unchanged name r after

variable {name : String} {r : Runtime}

/-- Along a session on an inert root only objects are made. -/
theorem Session.grew (root : LockedRoot r name) (inert : r.Inert name) {after : Runtime}
    (session : Session name r after) : r.Grew after ∧ after.Closed := by
  induction session with
  | start => exact ⟨.refl r,root.closed⟩
  | make reached growth closed ih => exact ⟨ih.1.trans growth,closed⟩
  | change reached change targets ran ih =>
    obtain ⟨growth,closed⟩ := ih
    obtain ⟨after,passed,later,afterClosed⟩ := change.passes (root.grew growth closed)
      (inert.grew growth closed root.closed) targets
    obtain rfl : after = _ := (Prod.mk.inj (passed.symm.trans ran)).2
    exact ⟨growth.trans later,afterClosed⟩

theorem Sealed.of_inert (root : LockedRoot r name) (inert : r.Inert name) : r.Sealed name := by
  intro between session change targets
  obtain ⟨growth,closed⟩ := session.grew root inert
  obtain ⟨after,passed,later,afterClosed⟩ := change.passes (root.grew growth closed)
    (inert.grew growth closed root.closed) targets
  exact ⟨after,passed,.of_grew root.closed (growth.trans later) afterClosed⟩

/-! A root that is not inert is not sealed. -/

/-- The runtime with one more handle, whose address is the number of handles before it. -/
def withHandle (r : Runtime) (handle : Handle) : Runtime :=
  { r with store := (r.store.newHandle handle).2 }

theorem Grew.withHandle (r : Runtime) (handle : Handle) : r.Grew (r.withHandle handle) :=
  ⟨.of_adds (r.store.newHandle_adds handle),rfl⟩

theorem Closed.withHandle (closed : r.Closed) {handle : Handle}
    (present : handle.Alike r.store.identity handle) : (r.withHandle handle).Closed :=
  closed.newHandle present

theorem handleAt_withHandle (r : Runtime) (handle : Handle) :
    (r.withHandle handle).store.handleAt r.store.handles.size = handle :=
  Object.handle.inj (r.store.newHandle_adds handle).object

theorem readReference_plain {r : Runtime} {a : Address}
    (plain : (∃ scope path locked, r.store.handleAt a = .path scope path locked) ∨
      ∃ parent key, r.store.handleAt a = .sub parent key) : r.readReference a = r.resolve a := by
  unfold readReference readWithin
  obtain ⟨scope,path,locked,here⟩ | ⟨parent,key,here⟩ := plain <;> rw [here]

/-- After some objects are made there is a handle on any location in a root. -/
theorem handle_along (root : LockedRoot r name) (keys : List Segment) : ∃ after a,
    r.Grew after ∧ after.Closed ∧ after.Names name a ∧
      ((∃ scope path locked, after.store.handleAt a = .path scope path locked) ∨
        ∃ parent key, after.store.handleAt a = .sub parent key) ∧
      after.resolve a = r.below name keys := by
  induction keys using List.reverseRecOn with
  | nil =>
    have growth : r.Grew (Scope.makeRoot r).2 := Scope.makeRoot_onlyGrows r
    let path : Path := ⟨⟨.named name,0⟩,[]⟩
    have inside : r.store.scopes.size < (Scope.makeRoot r).2.store.scopes.size := by
      have adds := (r.store.newDict []).2.newScope_adds
        ⟨none,.null,r.store.dicts.size,false,some "root",[],none,.null,.none⟩
      exact Nat.lt_of_lt_of_eq (Nat.lt_succ_self _) adds.size.symm
    have whole := growth.trans (.withHandle _ (.path r.store.scopes.size path false))
    have here := handleAt_withHandle (Scope.makeRoot r).2 (.path r.store.scopes.size path false)
    have closed := root.closed.makeRoot.withHandle (.path ⟨rfl,inside⟩ path false)
    refine ⟨_,_,whole,closed,.root here rfl (Nat.zero_le _),.inl ⟨_,_,_,here⟩,?_⟩
    rw [resolve_eq,here,← below_grew whole closed root.closed]
    show (rootSpot _ _ path.root >>= fun start => reach _ start path.segments) = _
    rw [rootSpot_data (root.grew whole closed) rfl (Nat.zero_le _)]
    rfl
  | append_singleton keys key ih =>
    obtain ⟨after,a,growth,afterClosed,names,-,lies⟩ := ih
    have later := Grew.withHandle after (.sub a key)
    have here := handleAt_withHandle after (.sub a key)
    have closed := afterClosed.withHandle (.sub ⟨rfl,names.inside⟩ key)
    have whole := growth.trans later
    refine ⟨_,_,whole,closed,.sub here (names.grew later closed afterClosed),.inr ⟨_,_,here⟩,?_⟩
    rw [resolve_eq,here,← below_grew whole closed root.closed,below,reach_append]
    show resolve _ a >>= _ = _
    rw [resolve_grew afterClosed later closed names.inside,lies,
      ← below_grew whole closed root.closed,below]
    cases reached : reach _ (.value (Value.ofOption _)) keys with
    | error fault => rfl
    | ok container => exact (reach_singleton _ (reach_settled _ reached) key).symm

/-- In a sealed root every write below a location succeeds without effect. -/
theorem Sealed.setBelow (root : LockedRoot r name) (sealed : r.Sealed name) (keys : List Segment)
    (key : Segment) (number : Int) : ∃ between a write final, r.Grew between ∧ between.Closed ∧
      between.readReference a = r.below name keys ∧ Unchanged name r final ∧
      Reference.setBelow write a key (.int number) between = (.done (),final) := by
  obtain ⟨first,a,growth,firstClosed,names,plain,lies⟩ := handle_along root keys
  have later := Grew.withHandle first (.sub a key)
  have here := handleAt_withHandle first (.sub a key)
  have closed := firstClosed.withHandle (.sub ⟨rfl,names.inside⟩ key)
  have whole := growth.trans later
  obtain ⟨final,ran,same⟩ := sealed (first.withHandle (.sub a key)) (.make .start whole closed)
    (.set first.store.handles.size (.int number))
    ⟨.sub here (names.grew later closed firstClosed),.int number⟩
  refine ⟨first.withHandle (.sub a key),a,
    Reference.setWithin (4 * (first.withHandle (.sub a key)).store.handles.size + 7),final,whole,
    closed,?_,same,?_⟩
  · rw [readReference_plain,resolve_grew firstClosed later closed names.inside,lies]
    rw [later.handleAt names.inside]
    exact plain
  · have run : Reference.set first.store.handles.size (.int number)
        (first.withHandle (.sub a key)) = (.done (),final) := ran
    rw [Reference.set,Step.bind_done (Act.store_run _),Reference.depth,Reference.setWithin,
      Step.bind_done (Act.store_run _),here] at run
    exact run

/-- What a handle below a location reads is never a fault in a sealed root, and writes into what is
there succeed without effect. -/
theorem Sealed.putInto (root : LockedRoot r name) (sealed : r.Sealed name) (keys : List Segment) :
    ∃ spot, r.below name keys = .ok spot ∧ (spot ≠ .null → ∀ key number, ∃ between write final,
      r.Grew between ∧ between.Closed ∧ Unchanged name r final ∧
        Reference.putInto write spot key (.int number) between = (.done (),final)) := by
  cases lies : r.below name keys with
  | error fault =>
    obtain ⟨between,a,write,final,-,-,reads,-,ran⟩ := sealed.setBelow root keys (.index 0) 0
    rw [lies] at reads
    have faults : Reference.opened write a (Reference.read a) (.index 0) between =
        Act.fail fault between := by
      rw [Reference.opened,Reference.read,Step.bind_run,Step.bind_run,Step.read_run]
      dsimp only
      rw [reads]
      rfl
    rw [Reference.setBelow,Step.bind_run,faults,Act.fail_run] at ran
    cases ran
  | ok spot =>
    refine ⟨spot,rfl,fun something key number => ?_⟩
    obtain ⟨between,a,write,final,growth,closed,reads,same,ran⟩ := sealed.setBelow root keys key number
    have asked : Reference.read a between = (.done spot,between) := by
      rw [Reference.read,Step.bind_run,Step.read_run]
      dsimp only
      rw [reads,lies]
      rfl
    have plain (b : Address) : spot ≠ .value (.ref b) := by
      rintro rfl
      obtain ⟨last,-,followed⟩ := ok_of_bind lies
      exact absurd (r.follow_settled followed) (r.resolve_ne_ref b b)
    rw [Reference.setBelow,Step.bind_done (Reference.opened_found write asked something a key),
      if_neg something,Reference.put_plain _ plain] at ran
    exact ⟨between,write,final,growth,closed,same,ran⟩

/-- Some name is no key of finitely many dictionaries. -/
theorem fresh_name (ds : List Dict) : ∃ text : String, ∀ d ∈ ds, d.get? (.text text) = none := by
  let word (n : Nat) : Key := .text (String.ofList (List.replicate n 'a'))
  have apart (keys : List Key) : ∃ least, ∀ n, least ≤ n → word n ∉ keys := by
    induction keys with
    | nil => exact ⟨0,fun _ _ => List.not_mem_nil⟩
    | cons key rest ih =>
      obtain ⟨least,later⟩ := ih
      by_cases named : ∃ m, key = word m
      · obtain ⟨m,rfl⟩ := named
        refine ⟨max least (m + 1),fun n far member => ?_⟩
        obtain same | held := List.mem_cons.mp member
        · have sizes := congrArg (fun key : Key => match key with
            | .atom (.str text) => text.length
            | _ => 0) same
          simp only [word,Key.text,String.length_ofList,List.length_replicate] at sizes
          omega
        · exact later n (Nat.le_trans (Nat.le_max_left _ _) far) held
      · refine ⟨least,fun n far member => ?_⟩
        obtain same | held := List.mem_cons.mp member
        · exact named ⟨n,same.symm⟩
        · exact later n far held
  obtain ⟨least,later⟩ := apart (ds.flatMap fun d => d.map (·.key))
  refine ⟨String.ofList (List.replicate least 'a'),fun d member => ?_⟩
  have absent := later least (Nat.le_refl _)
  unfold Dict.get?
  rw [Option.map_eq_none_iff,List.find?_eq_none]
  intro slot held same
  refine absent (List.mem_flatMap.mpr ⟨d,member,List.mem_map.mpr ⟨slot,held,?_⟩⟩)
  exact of_decide_eq_true same

theorem get?_insert_self (d : Dict) (key : Key) (label v : Value) :
    (d.insert key label v).get? key = some v := by
  unfold Dict.get?
  induction d with
  | nil => simp [Dict.insert]
  | cons slot rest ih =>
    unfold Dict.insert
    by_cases same : slot.key = key
    · simp [same]
    · rw [if_neg same,List.find?_cons_of_neg (by simpa using same)]
      exact ih

theorem get?_insert_of_ne (d : Dict) {key other : Key} (differ : key ≠ other) (label v : Value) :
    (d.insert key label v).get? other = d.get? other := by
  unfold Dict.get?
  induction d with
  | nil => simp [Dict.insert,differ]
  | cons slot rest ih =>
    unfold Dict.insert
    by_cases same : slot.key = key
    · simp [same,differ]
    · rw [if_neg same]
      by_cases here : slot.key = other
      · simp [here]
      · rw [List.find?_cons_of_neg (by simpa using here),List.find?_cons_of_neg (by simpa using here)]
        exact ih

/-- The spot shows the bindings of a scope. -/
def Shows (s : Store) (spot : Spot) (scope : Address) : Prop :=
  spot = .bindings scope ∨ ∃ a, spot = .value (.context a) ∧ s.contextAt a = scope

namespace Shows

variable {s : Store} {spot : Spot} {scope : Address} (shows : Shows s spot scope)
include shows

theorem member (text : String) :
    s.member spot (.field text) = s.contextKey scope (.text text) := by
  obtain rfl | ⟨a,rfl,rfl⟩ := shows <;> rfl

theorem inside {r : Runtime} (closed : r.Closed) (same : r.store = s)
    (present : spot.Alike s.identity spot) : scope < s.scopes.size := by
  subst same
  obtain rfl | ⟨a,rfl,rfl⟩ := shows
  · cases present with
    | bindings linked => exact linked.2
  · cases present with
    | value linked =>
      cases linked with
      | context linked => exact (closed.store.contextAt linked).2

end Shows

theorem below_present (closed : r.Closed) {keys : List Segment} {spot : Spot}
    (lies : r.below name keys = .ok spot) : spot.Alike r.store.identity spot := by
  have alike : Agree (Spot.Alike r.store.identity) (r.below name keys) (r.below name keys) :=
    ((Spot.Alike.value (closed.rootPresent name)).walk (fun _ _ => Alike.resolve closed)
      closed.store keys).bind fun _ _ last => last.follow fun _ _ => Alike.resolve closed
  rw [lies] at alike
  cases alike with
  | ok present => exact present

theorem Shows.grew {r after : Runtime} {spot : Spot} {scope : Address}
    (shows : Shows r.store spot scope) (growth : r.Grew after)
    (present : spot.Alike r.store.identity spot) : Shows after.store spot scope := by
  obtain rfl | ⟨a,rfl,rfl⟩ := shows
  · exact .inl rfl
  · cases present with
    | value linked =>
      cases linked with
      | context linked =>
        exact .inr ⟨a,rfl,Object.context.inj (growth.store .context a linked.2).2⟩

/-- A binding that no scope has yet is seen where it is made. -/
theorem bound_here (closed : r.Closed) {spot : Spot} {scope : Address}
    (shows : Shows r.store spot scope) (inside : scope < r.store.scopes.size)
    {write : Address → Value → Act Unit} {text : String} {number : Int}
    (unbound : r.store.contextKey scope (.text text) = .null) {final : Runtime}
    (ran : Reference.putInto write spot (.field text) (.int number) r = (.done (),final)) :
    final.store.member spot (.field text) = .int number := by
  have binds : Reference.putBinding write scope (.field text) (.int number) r =
      (.done (),final) := by
    obtain rfl | ⟨a,rfl,rfl⟩ := shows
    · exact ran
    · exact ran
  have specials := (closed.store.scopeAt ⟨rfl,inside⟩).specials
  let own := r.store.specialsOf scope
  let after := r.store.putDict (r.store.scopeAt scope).specials
    (own.insert (.text text) (.str text) (.int number))
  have puts : r.store.Puts after .dict _ _ := r.store.putDict_puts _ _
  rw [Reference.putBinding,Step.bind_done (Act.store_run r)] at binds
  simp only [Segment.bindingName,unbound] at binds
  obtain rfl : { r with store := after } = final := (Prod.mk.inj binds).2
  have shown : Shows after spot scope := shows
  refine (shown.member text).trans ?_
  have held : after.specialsOf scope = own.insert (.text text) (.str text) (.int number) :=
    Object.entries.inj (puts.object specials.2)
  refine Store.contextKey_own inside ?_
  rw [held,get?_insert_self]

/-- A new entry of a dictionary is seen there. -/
theorem entered_here {a : Address} (inside : a < r.store.dicts.size)
    {write : Address → Value → Act Unit} {text : String} {number : Int}
    (missing : (r.store.dictAt a).get (.text text) = .null) {final : Runtime}
    (ran : Reference.putInto write (.value (.dict a)) (.field text) (.int number) r =
      (.done (),final)) :
    final.store.member (.value (.dict a)) (.field text) = .int number := by
  have puts := r.store.putDict_puts a ((r.store.dictAt a).insert (.text text) (.str text)
    (.int number))
  have enters : Reference.putEntry write a (.field text) (.int number) r = (.done (),final) := ran
  rw [Reference.putEntry,Step.bind_done (Act.store_run r)] at enters
  simp only [Segment.key,missing] at enters
  obtain rfl : _ = final := (Prod.mk.inj enters).2
  show Value.ofOption (Dict.get? (Store.dictAt (r.store.putDict a _) a) (.text text)) = _
  exact congrArg Value.ofOption ((congrArg (Dict.get? · (.text text))
    (Object.entries.inj (puts.object inside))).trans (get?_insert_self _ _ _ _))

/-- A write that is seen below a location changes what the root reads. -/
theorem Unchanged.member {after : Runtime} (same : Unchanged name r after) {keys : List Segment}
    {spot : Spot} (lies : r.below name keys = .ok spot) (key : Segment)
    (missing : r.store.member spot key = .null) (number : Int) :
    after.store.member spot key ≠ .int number := by
  intro written
  have before := same.reads (keys ++ [key])
  have still := same.reads keys
  rw [below,below,reach_append,reach_append] at before
  rw [below,below] at still
  rw [below] at lies
  rw [still,lies] at before
  have read (s : Runtime) (reached : s.reach (.value (Value.ofOption (s.rootValue? name))) keys =
      .ok spot) : s.reach spot [key] = (Spot.value (s.store.member spot key)).follow s.resolve :=
    s.reach_singleton (s.reach_settled reached) key
  have equal : after.reach spot [key] = r.reach spot [key] := before
  rw [read r lies,read after (still.trans lies),missing,written] at equal
  cases equal

section Refuted

variable (root : LockedRoot r name) (sealed : r.Sealed name) {keys : List Segment} {spot : Spot}
  (lies : r.below name keys = .ok spot)
include root sealed lies

theorem Sealed.written (something : spot ≠ .null) (key : Segment) (number : Int) :
    ∃ between write final, r.Grew between ∧ between.Closed ∧ Unchanged name r final ∧
      Reference.putInto write spot key (.int number) between = (.done (),final) := by
  obtain ⟨found,here,writes⟩ := sealed.putInto root keys
  obtain rfl : spot = found := Except.ok.inj (lies.symm.trans here)
  exact writes something key number

theorem Sealed.shows_nothing (scope : Address) : ¬ Shows r.store spot scope := by
  intro shows
  have present := below_present root.closed lies
  have inside := shows.inside root.closed rfl present
  obtain ⟨text,fresh⟩ := fresh_name ((r.store.chain scope).map r.store.specialsOf)
  have unbound : r.store.contextKey scope (.text text) = .null := by
    have none : r.store.contextBinding? scope (.text text) = none :=
      List.findSome?_eq_none_iff.mpr fun above member =>
        fresh _ (List.mem_map.mpr ⟨above,member,rfl⟩)
    rw [Store.contextKey,none]
    rfl
  have something : spot ≠ .null := by
    rintro rfl
    obtain same | ⟨a,same,-⟩ := shows <;> cases same
  obtain ⟨between,write,final,growth,closed,same,ran⟩ :=
    sealed.written root lies something (.field text) 0
  have still : between.store.contextKey scope (.text text) = .null := by
    have alike := (root.closed.grew growth closed).store.contextKey ⟨rfl,inside⟩
      (Key.text_alike _ text)
    rw [← alike.eq r.store.identity_diagonal]
    exact unbound
  refine same.member lies (.field text) ((shows.member text).trans unbound) 0 ?_
  exact bound_here closed (shows.grew growth present) (growth.store .scope scope inside).1 still ran

theorem Sealed.not_dict (a : Address) : spot ≠ .value (.dict a) := by
  rintro rfl
  have inside : a < r.store.dicts.size := by
    cases below_present root.closed lies with
    | value present => exact Value.Present.inside present .dict a rfl
  obtain ⟨text,fresh⟩ := fresh_name [r.store.dictAt a]
  have missing : (r.store.dictAt a).get (.text text) = .null := by
    rw [Dict.get,fresh _ (List.mem_singleton_self _)]
    rfl
  obtain ⟨between,write,final,growth,closed,same,ran⟩ :=
    sealed.written root lies nofun (.field text) 0
  obtain ⟨still,held⟩ := growth.store .dict a inside
  refine same.member lies (.field text) missing 0 (entered_here still ?_ ran)
  rw [Object.entries.inj held]
  exact missing

/-- A container that fails every write by name does not lie in a sealed root. -/
theorem Sealed.accepts (something : spot ≠ .null) 
    (fails : ∀ write s v, ∃ fault, Reference.putInto write spot (.field "") v s =
      (Act.fail fault : Act Unit) s) : False := by
  obtain ⟨between,write,final,-,-,-,ran⟩ := sealed.written root lies something (.field "") 0
  obtain ⟨fault,failed⟩ := fails write between (.int 0)
  rw [failed,Act.fail_run] at ran
  cases ran

end Refuted

/-- A sealed root holds nothing that could be written into. -/
theorem Sealed.inert (root : LockedRoot r name) (sealed : r.Sealed name) : r.Inert name := by
  intro keys
  obtain ⟨spot,lies,-⟩ := sealed.putInto root keys
  refine ⟨spot,lies,?_⟩
  by_cases something : spot = .null
  · exact .inl something
  · cases spot with
    | bindings scope => exact absurd (.inl rfl) (sealed.shows_nothing root lies scope)
    | items items => exact (sealed.accepts root lies something fun _ _ _ => ⟨_,rfl⟩).elim
    | value v =>
      cases v with
      | null => exact absurd rfl something
      | tuple a => exact .inr rfl
      | frozen a => exact .inr rfl
      | fset a => exact .inr rfl
      | list a => exact (sealed.accepts root lies something fun _ _ _ => ⟨_,rfl⟩).elim
      | dict a => exact absurd rfl (sealed.not_dict root lies a)
      | context a => exact absurd (.inr ⟨a,rfl,rfl⟩) (sealed.shows_nothing root lies _)
      | ref a =>
        obtain ⟨last,-,followed⟩ := ok_of_bind lies
        exact absurd (r.follow_settled followed) (r.resolve_ne_ref a a)
      | _ => exact (sealed.accepts root lies something fun _ _ _ => ⟨_,rfl⟩).elim

/-- What is written to through a locked root stays as it is if and only if there is nothing to write
into, at any depth. -/
theorem sealed_iff_inert (root : LockedRoot r name) : r.Sealed name ↔ r.Inert name :=
  ⟨Sealed.inert root,Sealed.of_inert root⟩

end Runtime

namespace Page
open PageRuntime.Runtime (LockedRoot Closed)

/-- Registering a locked root locks it. -/
theorem registerRoot_locked {r : Runtime} (closed : r.Closed) (alive : r.alive = true)
    {name : String} (free : isReserved name = false) {v : Value} (present : v.Present r.store) :
    ∃ after, registerRoot name v true r = (.done (),after) ∧ LockedRoot after name := by
  let after : Runtime :=
    { r.setRoot name v with lockedRoots := name :: r.lockedRoots.filter (· != name) }
  refine ⟨after,?_,?_,alive,?_,?_⟩
  · rw [registerRoot,free]
    rfl
  · have held := closed.setRoot name present
    exact ⟨held.store,held.roots,held.document,rfl⟩
  · exact List.contains_iff_mem.mpr List.mem_cons_self
  · show (List.lookup name (Named.set name v r.roots)).isSome = true
    rw [Named.lookup_set_self]
    rfl

/-- A page with an empty tuple for a locked root. -/
def fixedRoot : Runtime :=
  (registerRoot "fixed" (.tuple 0) true
    { initial with store := (initial.store.newTuple []).2 }).2

theorem fixedRoot_locked : LockedRoot fixedRoot "fixed" := by
  obtain ⟨after,ran,root⟩ := registerRoot_locked (Closed.initial.newTuple .nil) rfl
    (show isReserved "fixed" = false by decide) (.tuple ⟨rfl,Nat.zero_lt_one⟩)
  obtain rfl : fixedRoot = after := congrArg Prod.snd ran
  exact root

theorem sealed_iff_inert_fixedRoot : LockedRoot fixedRoot "fixed" ∧ fixedRoot.Sealed "fixed" := by
  refine ⟨fixedRoot_locked,(Runtime.sealed_iff_inert fixedRoot_locked).mpr fun keys => ?_⟩
  cases keys with
  | nil => exact ⟨.value (.tuple 0),rfl,.inr rfl⟩
  | cons key rest =>
    refine ⟨.null,?_,.inl rfl⟩
    have missing : fixedRoot.store.member (.value (.tuple 0)) key = .null := by
      show itemAt [] key = .null
      cases key with
      | field name => rfl
      | index place =>
        show Value.ofOption ((placeOf? 0 place).bind ([][·]?)) = .null
        cases placeOf? 0 place <;> rfl
    show fixedRoot.reach (.value (.tuple 0)) ([key] ++ rest) = .ok .null
    rw [Runtime.reach_append,Runtime.reach_singleton _ rfl,missing]
    show (Spot.null.walk _ _ rest >>= fun last => last.follow _) = .ok .null
    rw [Spot.walk_null]
    rfl

/-- A page with a dictionary for a locked root, with a handle on it and one on its entry. -/
def openRoot : Runtime :=
  let r := (registerRoot "open" (.dict 2) true
    { initial with store := (initial.store.newDict [⟨.text "a",.str "a",.int 1⟩]).2 }).2
  let path : Path := ⟨⟨.named "open",0⟩,[]⟩
  ((Scope.makeRoot r).2.withHandle (.path 0 path false)).withHandle (.sub 0 (.field "a"))

/-- A locked root need not be sealed: a write below a handle on it reaches the dictionary it holds. -/
theorem openRoot_locked_not_sealed : LockedRoot openRoot "open" ∧ ¬ openRoot.Sealed "open" := by
  constructor
  · have entry : Dict.Alike initial.store.identity [⟨.text "a",.str "a",.int 1⟩]
        [⟨.text "a",.str "a",.int 1⟩] := .cons ⟨.atom (.str "a"),.str "a",.int 1⟩ .nil
    obtain ⟨after,ran,root⟩ := registerRoot_locked (Closed.initial.newDict entry) rfl
      (show isReserved "open" = false by decide) (.dict ⟨rfl,Nat.lt_succ_self 2⟩)
    obtain rfl : Prod.snd _ = after := congrArg Prod.snd ran
    have whole := root.closed.makeRoot.withHandle
      (.path ⟨rfl,Nat.zero_lt_one⟩ ⟨⟨.named "open",0⟩,[]⟩ false)
    have below := whole.withHandle (.sub ⟨rfl,Nat.zero_lt_one⟩ (.field "a"))
    refine root.grew (?_ : Runtime.Grew _ openRoot) below
    exact ((Scope.makeRoot_onlyGrows _).trans (.withHandle _ _)).trans (.withHandle _ _)
  · intro changesNothing
    obtain ⟨after,ran,same⟩ := changesNothing openRoot .start (.set 1 (.int 2))
      ⟨.sub rfl (.root rfl rfl (Nat.zero_le 1)),.int 2⟩
    obtain rfl : (Reference.set 1 (.int 2) openRoot).2 = after := congrArg Prod.snd ran
    have before : openRoot.below "open" [.field "a"] = .ok (.value (.int 1)) := rfl
    have written : (Reference.set 1 (.int 2) openRoot).2.below "open" [.field "a"] =
        .ok (.value (.int 2)) := rfl
    have equal := written.symm.trans ((same.reads [.field "a"]).trans before)
    cases equal

end Page
end PageRuntime
