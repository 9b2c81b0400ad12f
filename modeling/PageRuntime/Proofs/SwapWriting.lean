import PageRuntime.Proofs.Retargeting
import PageRuntime.Proofs.Swapping

/-! Writing where something was read. A write goes the way that a reading of the same location goes,
so a container that is made of what was read takes its place, or what is written is not below the
data roots. -/
namespace PageRuntime

/-- From here the step puts the new container in the place of what was read, or does without it. -/
def Act.SwapsAt {α : Type} (r : Runtime) (spot : Spot) (made : Value) (act : Act α) : Prop :=
  ∀ (base : Runtime) payload spare, base.Swapping spot made payload spare r →
    base.Tidy spare (act r).2

namespace Act.SwapsAt

variable {α β : Type} {r : Runtime} {spot : Spot} {made : Value} {act : Act α}

theorem pure (x : α) : SwapsAt r spot made (Pure.pure x) := fun _ _ _ swapping => swapping.kept

theorem of_spreads (only : act.OnlySpreads) : act.SwapsAt r spot made :=
  fun _ _ _ swapping => swapping.kept.spreads (only r)

theorem after {next : α → Act β} {x : α} (ran : act r = (.done x,r))
    (later : (next x).SwapsAt r spot made) : (act >>= next).SwapsAt r spot made := by
  intro base payload spare swapping
  rw [Step.bind_done ran]
  exact later base payload spare swapping

/-- A step that fails has at most made objects; one that ends has left everything as it was. -/
theorem after_still {next : α → Act β} (only : act.OnlySpreads)
    (still : ∀ x last, act r = (.done x,last) → last = r)
    (later : ∀ x, act r = (.done x,r) → (next x).SwapsAt r spot made) :
    (act >>= next).SwapsAt r spot made := by
  intro base payload spare swapping
  have mid := swapping.kept.spreads (only r)
  rw [Step.bind_run]
  split <;> rename_i ran <;> rw [ran] at mid
  · obtain rfl := still _ _ ran
    exact later _ ran base payload spare swapping
  · exact mid
  · exact mid

theorem store {next : Store → Act β} (later : (next r.store).SwapsAt r spot made) :
    (Act.store >>= next).SwapsAt r spot made := later

end Act.SwapsAt

namespace Reference
open PageRuntime.Act (SwapsAt)

variable {write : Address → Value → Act Unit} {r : Runtime} {spot : Spot} {made : Value}

/-- A scope that there is not has no parent, so it reads its own bindings alone. -/
theorem contextKey_outside {s : Store} {scope : Address} (outside : s.scopes.size ≤ scope) (key : Key) :
    s.contextKey scope key = .null ∨ s.contextKey scope key = (s.specialsOf scope).get key := by
  have parent := Store.parent_outside outside
  unfold Store.contextKey Store.contextBinding? Store.chain
  cases s.scopes.size with
  | zero => exact .inl rfl
  | succ fuel =>
    right
    rw [Store.chainWithin,parent]
    dsimp only
    rw [List.findSome?_cons]
    cases found : (s.specialsOf scope).get? key with
    | none =>
      rw [Dict.get,found]
      rfl
    | some v =>
      rw [Dict.get,found]

variable (something : spot ≠ .null)
  (writes : ∀ a, r.resolve a = .ok spot → (write a made).SwapsAt r spot made)

/-- Settled, what a reference gives when it is asked for its value is what it resolves to. -/
theorem follow_of_readReference {a : Address} {spot : Spot} (found : r.readReference a = .ok spot) :
    spot.follow r.resolve = r.resolve a := by
  have within (fuel : Nat) : ∀ a, r.readWithin fuel a = .ok spot →
      spot.follow r.resolve = r.resolve a := by
    induction fuel with
    | zero => exact fun _ found => by cases found
    | succ fuel ih =>
      intro a found
      unfold Runtime.readWithin at found
      split at found <;> rename_i here
      · obtain rfl := Except.ok.inj found
        rw [r.resolve_eq,here]
        rfl
      · rw [r.resolve_eq a,here]
        exact ih _ found
      · have settled : (Spot.value (.ref _)).follow r.resolve = .ok spot := found
        rw [r.follow_settled settled,found]
  exact within _ a found

/-- A value that is no reference is what is read where it is. -/
theorem spot_of_plain {v : Value} (plain : ∀ a, v ≠ .ref a)
    (held : (Spot.value v).follow r.resolve = .ok spot) : spot = .value v := by
  rw [Spot.follow_plain r.resolve plain] at held
  exact (Except.ok.inj held).symm

section Writing
include something writes

theorem putBinding_swaps {scope : Address} {key : Segment}
    (held : (Spot.value (r.store.contextKey scope (.text key.bindingName))).follow r.resolve = .ok spot) :
    (putBinding write scope key made).SwapsAt r spot made := by
  refine .store ?_
  split
  · next a there =>
    rw [there] at held
    exact writes a held
  · next plain =>
    intro base payload spare swapping
    refine swapping.insert _ _ _ fun shown => ?_
    have read := spot_of_plain plain held
    have outside : r.store.scopes.size ≤ scope :=
      Nat.le_of_not_lt fun inside => swapping.tidy.unbound scope inside shown
    obtain null | own := contextKey_outside outside (.text key.bindingName)
    · rw [null] at read
      exact absurd read something
    · rw [own] at read
      exact read

omit something in
theorem putEntry_swaps {a : Address} {key : Segment}
    (held : (Spot.value ((r.store.dictAt a).get key.key)).follow r.resolve = .ok spot) :
    (putEntry write a key made).SwapsAt r spot made := by
  refine .store ?_
  split
  · next b there =>
    rw [there] at held
    exact writes b held
  · next plain =>
    intro base payload spare swapping
    exact swapping.insert a _ _ fun _ => spot_of_plain plain held

theorem putItem_swaps {items : List Value} {store : List Value → Act Unit} {key : Segment}
    (held : (Spot.value (itemAt items key)).follow r.resolve = .ok spot)
    (stores : ∀ place cur, items[place]? = some cur → spot = .value cur →
      (store (items.set place made)).SwapsAt r spot made) :
    (putItem write items store key made).SwapsAt r spot made := by
  have missing (null : itemAt items key = .null) : False := by
    rw [null] at held
    exact something (Except.ok.inj held).symm
  unfold putItem
  split
  · exact (missing rfl).elim
  · next place =>
    split
    · next place placed =>
      simp only [itemAt,placed,Option.bind_some] at held missing
      split
      · next b there =>
        rw [there] at held
        exact writes b held
      · next plain =>
        cases there : items[place]? with
        | none =>
          rw [there] at missing
          exact (missing rfl).elim
        | some cur =>
          rw [there] at held
          have plain (b : Address) : cur ≠ .ref b := by
            rintro rfl
            exact plain b there
          exact stores place cur there (spot_of_plain plain held)
    · next absent =>
      refine (missing ?_).elim
      rw [itemAt,absent]
      rfl

theorem putInto_swaps {container : Spot} {key : Segment}
    (held : (Spot.value (r.store.member container key)).follow r.resolve = .ok spot) :
    (putInto write container key made).SwapsAt r spot made := by
  refine .store ?_
  split
  · exact putBinding_swaps something writes held
  · exact putItem_swaps something writes held fun _ _ _ _ => .pure ()
  · exact putBinding_swaps something writes held
  · exact putEntry_swaps writes held
  · next a =>
    have stores (place : Nat) (cur : Value) (there : (r.store.listAt a)[place]? = some cur)
        (found : spot = .value cur) :
        (Act.update (·.putList a ((r.store.listAt a).set place made))).SwapsAt r spot made :=
      fun _ _ _ swapping => swapping.setItem a found there
    exact putItem_swaps something writes held stores
  · exact .pure ()
  · exact .pure ()
  · exact .pure ()
  · exact .of_spreads (.fail _)

theorem put_swaps {container settled : Spot} {key : Segment}
    (followed : container.follow r.resolve = .ok settled)
    (held : (Spot.value (r.store.member settled key)).follow r.resolve = .ok spot) :
    (put write container key made).SwapsAt r spot made := by
  have present : settled ≠ .null := by
    rintro rfl
    exact something (Except.ok.inj held).symm
  have into := putInto_swaps something writes held
  by_cases behind : ∃ a, container = .value (.ref a)
  · obtain ⟨a,rfl⟩ := behind
    refine .after (opened_found write (settle_run followed) present a key) ?_
    rw [if_neg present]
    exact into
  · have plain (a : Address) : container ≠ .value (.ref a) := fun same => behind ⟨a,same⟩
    rw [put_plain write plain,follow_plain plain followed]
    exact into

theorem descend_swaps (rest : List Segment) {container : Spot} {key : Segment}
    (reached : r.reach container (key :: rest) = .ok spot) :
    (descend write container key rest made).SwapsAt r spot made := by
  induction rest generalizing container key with
  | nil =>
    unfold Runtime.reach at reached
    rw [Spot.walk_cons] at reached
    obtain ⟨last,walked,held⟩ := ok_of_bind reached
    obtain ⟨next,stepped,ended⟩ := ok_of_bind walked
    obtain ⟨settled,followed,met⟩ := ok_of_bind stepped
    obtain rfl := Except.ok.inj met
    obtain rfl := Except.ok.inj ended
    exact put_swaps something writes followed held
  | cons after rest ih =>
    unfold Runtime.reach at reached
    rw [Spot.walk_cons] at reached
    obtain ⟨last,walked,held⟩ := ok_of_bind reached
    obtain ⟨next,stepped,ended⟩ := ok_of_bind walked
    obtain ⟨settled,followed,met⟩ := ok_of_bind stepped
    obtain rfl := Except.ok.inj met
    refine .after (step_run followed key) ?_
    by_cases missing : r.store.member settled key = .null
    · rw [missing] at ended
      obtain rfl := Except.ok.inj ((Spot.walk_null r.resolve r.store (after :: rest)).symm.trans ended)
      exact absurd (Except.ok.inj held).symm something
    · rw [if_neg missing]
      refine ih ?_
      unfold Runtime.reach
      rw [ended]
      exact held

omit something in
theorem setRootPath_swaps {path : Path} {name : String}
    (kind : path.root.kind.dataRoot? = some name)
    (held : (Spot.value (Value.ofOption (r.rootValue? name))).follow r.resolve = .ok spot) :
    (setRootPath write path made).SwapsAt r spot made := by
  unfold setRootPath
  rw [kind]
  refine .after (Step.read_run r) ?_
  split
  · next a there =>
    rw [there] at held
    exact writes a held
  · next plain =>
    intro base payload spare swapping
    refine swapping.setRoot name (spot_of_plain (fun a same => ?_) held)
    cases here : r.rootValue? name with
    | none =>
      rw [here] at same
      cases same
    | some v =>
      rw [here] at same
      exact plain a (here.trans (congrArg some same))

theorem setBelowRoot_swaps {scope : Address} {path : Path} {start : Spot} {key : Segment}
    {rest : List Segment} (rooted : r.rootSpot scope path.root = .ok start)
    (reached : r.reach start (key :: rest) = .ok spot) :
    (setBelowRoot write scope path key rest made).SwapsAt r spot made := by
  have present : start ≠ .null := by
    rintro rfl
    unfold Runtime.reach at reached
    rw [Spot.walk_null] at reached
    exact something (Except.ok.inj reached).symm
  refine .after (root_run rooted) ?_
  rw [if_neg present]
  exact descend_swaps something writes rest reached

theorem setPathValue_swaps {scope : Address} {path : Path} {locked shown : Bool}
    (found : r.readHandle r.resolve (.path scope path shown) = .ok spot) :
    (setPathValue write scope path locked made).SwapsAt r spot made := by
  obtain ⟨start,rooted,found⟩ := ok_of_bind found
  have reached : r.reach start path.segments = .ok spot := found
  refine .after_still (isLocked_onlySpreads path locked) (fun shut last ran => isLocked_still ran) ?_
  intro shut _
  split
  · exact .of_spreads (.debugLine _)
  · cases keys : path.segments with
    | cons key rest =>
      rw [keys] at reached
      exact setBelowRoot_swaps something writes rooted reached
    | nil =>
      rw [keys] at reached
      cases kind : path.root.kind.dataRoot? with
      | none =>
        have fixed : setRootPath write path made = Act.fail (.write (.fixedRoot path.root.text)) := by
          unfold setRootPath
          rw [kind]
        dsimp only
        rw [fixed]
        exact .of_spreads (.fail _)
      | some name =>
        obtain rfl := rootValue_of_rootSpot kind rooted
        exact setRootPath_swaps writes kind reached

theorem setBelow_swaps {parent : Address} {key : Segment}
    (found : r.readHandle r.resolve (.sub parent key) = .ok spot) :
    (setBelow write parent key made).SwapsAt r spot made := by
  obtain ⟨container,resolved,held⟩ := ok_of_bind found
  unfold setBelow opened
  rw [Step.bind_assoc]
  refine .after_still (read_onlySpreads parent) (fun _ _ ran => (look_done ran).2) fun spot ran => ?_
  have followed := (follow_of_readReference (look_done ran).1).trans resolved
  have present : spot ≠ .null := by
    rintro rfl
    obtain rfl := Except.ok.inj followed
    exact something (Except.ok.inj held).symm
  rw [if_neg present]
  refine .after (Step.pure_run _ _) ?_
  rw [if_neg present]
  exact put_swaps something writes followed held

end Writing

theorem setWithin_swaps {spot : Spot} (something : spot ≠ .null) : ∀ (fuel : Nat) (a : Address), r.resolve a = .ok spot →
    (setWithin fuel a made).SwapsAt r spot made
  | 0, _, _ => .of_spreads (.fail _)
  | fuel + 1, a, resolved => by
    rw [r.resolve_eq] at resolved
    refine .store ?_
    split
    · next here =>
      rw [here] at resolved
      exact setPathValue_swaps something (setWithin_swaps something fuel) resolved
    · next here =>
      rw [here] at resolved
      exact setBelow_swaps something (setWithin_swaps something fuel) resolved
    · exact .pure ()
    · exact fun _ _ _ swapping => swapping.kept.aside (r.store.putHandle_puts a _) (.inl rfl)

theorem Target.set_swaps {spot : Spot} (something : spot ≠ .null) {scope : Address} {path : Path}
    (found : r.readHandle r.resolve (.path scope path false) = .ok spot) :
    ((place scope path).set made).SwapsAt r spot made :=
  .store (setPathValue_swaps something (setWithin_swaps something _) found)

end Reference
end PageRuntime
