import PageRuntime.Proofs.Fresh
import PageRuntime.Proofs.InertRoots
import PageRuntime.Proofs.Tidy

/-! Writing in tidy runtimes. A write takes a value in hand and leaves it at one place at most, by
whatever handles and missing containers it gets there and whichever way it ends. A copy of a value
is a value in hand. -/
namespace PageRuntime

/-- The step makes objects that are fenced in, and does nothing else. -/
def Act.OnlySpreads {α : Type} (act : Act α) : Prop := Step.Keeps Runtime.Spreads act

namespace Act.OnlySpreads

variable {α β : Type}

theorem pure (x : α) : OnlySpreads (Pure.pure x) := Step.Keeps.pure x

theorem bind {act : Act α} {next : α → Act β} (only : act.OnlySpreads)
    (onlyNext : ∀ x, (next x).OnlySpreads) : (act >>= next).OnlySpreads :=
  Step.Keeps.bind only onlyNext

theorem read : OnlySpreads Step.read := Step.Keeps.read

theorem raise (failure : Address) : OnlySpreads (Step.raise failure : Act α) :=
  Step.Keeps.raise failure

theorem store : OnlySpreads Act.store := fun r => Std.Refl.refl r

/-- Objects that hold nothing in this sense. -/
theorem make {change : Store → α × Store} {shelf : Shelf} {o : Object}
    (adds : ∀ s : Store, s.Adds (change s).2 shelf o)
    (apart : shelf ∉ [.list,.tuple,.dict,.frozen,.scope]) : OnlySpreads (Act.make change) := by
  intro r
  have added := adds r.store
  have members (v : Value) : (change r.store).2.members v = r.store.members v := by
    by_cases here : v.spot? = some (shelf,r.store.sizeOf shelf)
    · cases v <;> cases here <;> first | rfl | exact absurd (by decide) apart
    · exact added.members here
  have notScope : Shelf.scope ≠ shelf := fun same => apart (same ▸ by decide)
  refine ⟨⟨.of_adds added,rfl⟩,fun fenced => ?_,added.scopes notScope⟩
  exact fenced.keep (added.scopes notScope) (Store.Grew.of_adds added).sizeOf_le fun v a member =>
    fenced.tuples v a (members v ▸ member)

theorem fail (fault : Fault) : OnlySpreads (Act.fail fault : Act α) :=
  bind (make (fun s => s.newFailure_adds _) (by decide)) raise

theorem ofExcept (result : Except Fault α) : OnlySpreads (Act.ofExcept result) := by
  cases result with
  | ok x => exact pure x
  | error fault => exact fail fault

theorem record (entry : Entry) : OnlySpreads (Act.record entry) :=
  fun r => ⟨Act.OnlyGrows.record entry r,id,.refl _⟩

theorem debugLine (text : String) : OnlySpreads (PageRuntime.debugLine text) := by
  refine bind read fun r => ?_
  split
  · exact record _
  · exact pure ()

end Act.OnlySpreads

/-- What a step that has ended with a value leaves in hand. -/
def Outcome.yields {α : Type} (out : α → List Value) : Outcome α → List Value
  | .done x => out x
  | _ => []

/-- From here the step uses up the values in hand, whichever way it ends, and leaves a tidy
runtime. -/
def Act.SpendsAt {α : Type} (r : Runtime) (given : List Value) (act : Act α) : Prop :=
  ∀ (base : Runtime) spare, base.Tidy (given ++ spare) r → base.Tidy spare (act r).2

def Act.Spends {α : Type} (given : List Value) (act : Act α) : Prop := ∀ r, act.SpendsAt r given

/-- The step uses up the values in hand and leaves others in hand. -/
def Act.Trades {α : Type} (given : List Value) (act : Act α) (out : α → List Value) : Prop :=
  ∀ (base : Runtime) spare r, base.Tidy (given ++ spare) r →
    base.Tidy ((act r).1.yields out ++ spare) (act r).2

namespace Act

variable {α β : Type} {given more : List Value} {act : Act α} {out : α → List Value}

theorem SpendsAt.store {r : Runtime} {next : Store → Act β} (later : (next r.store).SpendsAt r given) :
    (Act.store >>= next).SpendsAt r given := later

namespace Trades

theorem pure (x : α) : Trades [] (Pure.pure x) fun _ => [] := fun _ _ _ tidy => tidy

theorem of_spreads (only : act.OnlySpreads) : act.Trades [] fun _ => [] := by
  intro base spare r tidy
  have after := tidy.spreads (only r)
  cases ran : act r with
  | mk ending last =>
    rw [ran] at after
    cases ending <;> exact after

theorem bind {next : α → Act β} {outNext : β → List Value} (first : act.Trades given out)
    (later : ∀ x, (next x).Trades (out x) outNext) : (act >>= next).Trades given outNext := by
  intro base spare r tidy
  have mid := first base spare r tidy
  rw [Step.bind_run]
  split <;> rename_i ran <;> rw [ran] at mid
  · exact later _ base spare _ mid
  · exact mid
  · exact mid

/-- Values that a step does not use stay in hand. -/
theorem keep (trades : act.Trades given out) (more : List Value) :
    act.Trades (given ++ more) fun x => out x ++ more := by
  intro base spare r tidy
  rw [List.append_assoc] at tidy
  have after := trades base (more ++ spare) r tidy
  cases ran : act r with
  | mk ending last =>
    rw [ran] at after
    cases ending with
    | done x => rwa [← List.append_assoc] at after
    | raised failure =>
      have after : base.Tidy (more ++ spare) last := after
      exact after.drop
    | exhausted =>
      have after : base.Tidy (more ++ spare) last := after
      exact after.drop

end Trades

namespace Spends

theorem pure (x : α) : Spends given (Pure.pure x) := fun _ _ _ tidy => tidy.drop

/-- Values in hand may be dropped. -/
theorem of_spreads (only : act.OnlySpreads) : act.Spends given :=
  fun r _ _ tidy => tidy.drop.spreads (only r)

/-- The step reads the store that it finds. -/
theorem store {next : Store → Act β} (later : ∀ r, (next r.store).SpendsAt r given) :
    (Act.store >>= next).Spends given := fun r => .store (later r)

theorem trades (spends : act.Spends given) : act.Trades given fun _ => [] := by
  intro base spare r tidy
  have after := spends r base spare tidy
  cases ran : act r with
  | mk ending last =>
    rw [ran] at after
    cases ending <;> exact after

theorem trade {next : α → Act β} (first : act.Trades given out)
    (later : ∀ x, (next x).Spends (out x)) : (act >>= next).Spends given := by
  intro r base spare tidy
  have mid := first base spare r tidy
  rw [Step.bind_run]
  split <;> rename_i ran <;> rw [ran] at mid
  · exact later _ _ base spare mid
  · exact mid
  · exact mid

theorem after {next : α → Act β} (only : act.OnlySpreads) (later : ∀ x, (next x).Spends given) :
    (act >>= next).Spends given := .trade ((Trades.of_spreads only).keep given) later

theorem bind {next : α → Act β} (first : act.Spends given) (later : ∀ x, (next x).Spends more) :
    (act >>= next).Spends (given ++ more) := .trade (first.trades.keep more) later

end Spends
end Act

namespace Reference
open PageRuntime.Act (Trades Spends)

theorem root_onlySpreads (scope : Address) (path : Path) : (root scope path).OnlySpreads :=
  .bind .read fun _ => .ofExcept _

theorem settle_onlySpreads (spot : Spot) : (settle spot).OnlySpreads :=
  .bind .read fun _ => .ofExcept _

theorem step_onlySpreads (spot : Spot) (key : Segment) : (step spot key).OnlySpreads :=
  .bind .read fun _ => .ofExcept _

theorem read_onlySpreads (a : Address) : (read a).OnlySpreads := .bind .read fun _ => .ofExcept _

theorem isLocked_onlySpreads (path : Path) (locked : Bool) : (isLocked path locked).OnlySpreads := by
  unfold isLocked
  split
  · exact .pure _
  · split
    · exact .pure _
    · refine .bind .read fun r => ?_
      split
      · exact .pure _
      · exact .fail _

/-- The container that is made is a value in hand. -/
theorem emptyFor_trades (key : Segment) : (emptyFor key).Trades [] fun made => [made] := by
  intro base spare r tidy
  cases key with
  | index place => exact tidy.newList
  | field name => exact tidy.newDict

theorem setRootValue_spends (name : String) (v : Value) : (setRootValue name v).Spends [v] :=
  fun _ _ _ tidy => tidy.setRoot name

theorem insert_spends (r : Runtime) (a : Address) (key : Key) (label v : Value) :
    (Act.update (·.putDict a ((r.store.dictAt a).insert key label v))).SpendsAt r [v] := by
  intro base spare tidy
  obtain ⟨rest,before,after⟩ := Dict.insert_values (r.store.dictAt a) key label v
  refine tidy.putDict a (after.subperm.trans ((List.subperm_cons v).mpr ?_))
  exact (List.sublist_append_right _ rest).subperm.trans before.symm.subperm

/-- The values in a list after one of its places is written. -/
theorem set_parts (items : List Value) (place : Nat) (v : Value) :
    (items.set place v).Subperm (v :: items) := by
  by_cases inside : place < items.length
  · refine (List.set_perm_cons_eraseIdx inside v).subperm.trans ((List.subperm_cons v).mpr ?_)
    exact (List.eraseIdx_sublist items place).subperm
  · rw [List.set_eq_of_length_le (Nat.le_of_not_lt inside)]
    exact (List.sublist_cons_self v items).subperm

/-- The nulls that fill a gap are no containers. -/
theorem extended_parts (items : List Value) (place : Nat) (v : Value) :
    ((extended items place v).filter (·.isContainer)).Subperm
      ((v :: items).filter (·.isContainer)) := by
  have nulls : (List.replicate (place - items.length) Value.null).filter (·.isContainer) = [] := by
    simp [Value.isContainer]
  have order : (items ++ [v]).Perm (v :: items) := List.perm_append_singleton v items
  unfold extended
  rw [List.filter_append,List.filter_append,nulls,List.append_nil,← List.filter_append]
  exact order.subperm.filter _

section Writing

variable {write : Address → Value → Act Unit} (writes : ∀ a v, (write a v).Spends [v])
include writes

theorem putBinding_spends (scope : Address) (key : Segment) (v : Value) :
    (putBinding write scope key v).Spends [v] := by
  refine .store fun r => ?_
  split
  · exact writes _ _ r
  · exact insert_spends r _ _ _ v

theorem putEntry_spends (a : Address) (key : Segment) (v : Value) :
    (putEntry write a key v).Spends [v] := by
  refine .store fun r => ?_
  split
  · exact writes _ _ r
  · exact insert_spends r a _ _ v

theorem putItem_spends {r : Runtime} {items : List Value} {store : List Value → Act Unit} {v : Value}
    (stores : ∀ later : List Value, (later.filter (·.isContainer)).Subperm
      ((v :: items).filter (·.isContainer)) → (store later).SpendsAt r [v])
    (key : Segment) : (putItem write items store key v).SpendsAt r [v] := by
  unfold putItem
  split
  · exact Spends.of_spreads (.fail _) r
  · split
    · split
      · exact writes _ v r
      · exact stores _ ((set_parts items _ v).filter _)
    · split
      · exact Spends.pure () r
      · exact stores _ (extended_parts items _ v)

theorem putInto_spends (container : Spot) (key : Segment) (v : Value) :
    (putInto write container key v).Spends [v] := by
  refine .store fun r => ?_
  split
  · exact putBinding_spends writes _ _ _ r
  · exact putItem_spends writes (fun _ _ => Spends.pure () r) key
  · exact putBinding_spends writes _ _ _ r
  · exact putEntry_spends writes _ _ _ r
  · next a =>
      have stores (later : List Value) (comes : (later.filter (·.isContainer)).Subperm
          ((v :: r.store.listAt a).filter (·.isContainer))) :
          (Act.update (·.putList a later)).SpendsAt r [v] :=
        fun _ _ tidy => tidy.putList a comes
      exact putItem_spends writes stores key
  · exact Spends.pure () r
  · exact Spends.pure () r
  · exact Spends.pure () r
  · exact Spends.of_spreads (.fail _) r

theorem opened_trades (a : Address) {reading : Act Spot} (reads : reading.OnlySpreads)
    (key : Segment) : (opened write a reading key).Trades [] fun _ => [] := by
  refine .bind (.of_spreads reads) fun found => ?_
  split
  · exact .bind (emptyFor_trades key) fun made => .bind (writes a made).trades fun _ =>
      .of_spreads reads
  · exact .pure _

theorem put_spends (container : Spot) (key : Segment) (v : Value) :
    (put write container key v).Spends [v] := by
  unfold put
  split
  · refine .trade ((opened_trades writes _ (settle_onlySpreads _) key).keep [v]) fun target => ?_
    split
    · exact .pure ()
    · exact putInto_spends writes _ _ _
  · exact putInto_spends writes _ _ _

/-- Containers that are made on the way are in hand beside the value. -/
theorem descend_spends (rest : List Segment) (container : Spot) (key : Segment) (v : Value) :
    (descend write container key rest v).Spends [v] := by
  induction rest generalizing container key with
  | nil => exact put_spends writes _ _ _
  | cons after rest ih =>
    refine .after (step_onlySpreads _ _) fun next => ?_
    split
    · refine .after (settle_onlySpreads _) fun settled => ?_
      split
      · exact .pure ()
      · refine .trade ((emptyFor_trades after).keep [v]) fun made => ?_
        exact .bind (put_spends writes container key made) fun _ => ih _ _
    · exact ih _ _

theorem setRootPath_spends (path : Path) (v : Value) : (setRootPath write path v).Spends [v] := by
  unfold setRootPath
  split
  · exact .of_spreads (.fail _)
  · refine .after .read fun r => ?_
    split
    · exact writes _ _
    · exact setRootValue_spends _ _

theorem setBelowRoot_spends (scope : Address) (path : Path) (key : Segment) (rest : List Segment)
    (v : Value) : (setBelowRoot write scope path key rest v).Spends [v] := by
  refine .after (root_onlySpreads scope path) fun container => ?_
  split
  · split
    · exact .of_spreads (.fail _)
    · refine .trade ((emptyFor_trades key).keep [v]) fun made => ?_
      exact .bind (setRootValue_spends _ _) fun _ => descend_spends writes _ _ _ _
  · exact descend_spends writes _ _ _ _

theorem setPathValue_spends (scope : Address) (path : Path) (locked : Bool) (v : Value) :
    (setPathValue write scope path locked v).Spends [v] := by
  refine .after (isLocked_onlySpreads path locked) fun shut => ?_
  split
  · exact .of_spreads (.debugLine _)
  · split
    · exact setRootPath_spends writes _ _
    · exact setBelowRoot_spends writes _ _ _ _ _

theorem setBelow_spends (parent : Address) (key : Segment) (v : Value) :
    (setBelow write parent key v).Spends [v] := by
  refine .trade ((opened_trades writes parent (read_onlySpreads parent) key).keep [v]) fun found => ?_
  split
  · exact .pure ()
  · exact put_spends writes _ _ _

end Writing

theorem setWithin_spends : ∀ (fuel : Nat) (a : Address) (v : Value), (setWithin fuel a v).Spends [v]
  | 0, _, _ => .of_spreads (.fail _)
  | fuel + 1, a, v => by
    refine .store fun r => ?_
    split
    · exact setPathValue_spends (setWithin_spends fuel) _ _ _ _ r
    · exact setBelow_spends (setWithin_spends fuel) _ _ _ r
    · exact Spends.pure () r
    · exact fun _ _ tidy => tidy.drop.aside (r.store.putHandle_puts a _) (.inl rfl)

/-- Members that are removed are dropped. -/
theorem dropMember_spends (container : Spot) (key : Segment) : (dropMember container key).Spends [] := by
  have erases (r : Runtime) (a : Address) (key : Key) :
      (Act.update (·.putDict a ((r.store.dictAt a).erase key))).SpendsAt r [] := by
    intro base spare tidy
    have kept : (Dict.values ((r.store.dictAt a).erase key)).Sublist (Dict.values (r.store.dictAt a)) :=
      List.filter_sublist.map _
    have null : Value.null.isContainer = false := rfl
    exact (tidy.plain null).putDict a (kept.subperm.trans (List.sublist_cons_self _ _).subperm)
  refine .store fun r => ?_
  split
  · exact erases r _ _
  · exact erases r _ _
  · exact erases r _ _
  · next a =>
    split
    · split
      · intro base spare tidy
        have null : Value.null.isContainer = false := rfl
        refine (tidy.plain null).putList a (List.Subperm.filter _ ?_)
        exact (List.eraseIdx_sublist _ _).subperm.trans (List.sublist_cons_self _ _).subperm
      · exact Spends.pure () r
    · exact Spends.pure () r
  · exact Spends.pure () r

theorem deletePath_spends (scope : Address) (path : Path) (locked : Bool) :
    (deletePath scope path locked).Spends [] := by
  refine .after (isLocked_onlySpreads path locked) fun shut => ?_
  split
  · exact .pure ()
  · split
    · exact .after (root_onlySpreads scope path) fun start => .after .read fun r =>
        .after (.ofExcept _) fun container => .after (settle_onlySpreads _) fun settled =>
          dropMember_spends _ _
    · exact .pure ()

theorem Target.set_spends (scope : Address) (path : Path) (v : Value) :
    ((place scope path).set v).Spends [v] :=
  .after .store fun _ => setPathValue_spends (setWithin_spends _) _ _ _ _

end Reference

namespace Spot

/-- Items that are listed anew hold no tuple that is not of the store. -/
def Fenced (s : Store) : Spot → Prop
  | items values => ∀ a, .tuple a ∈ values → a < s.tuples.size
  | _ => True

theorem Fenced.value (s : Store) (v : Value) : (Spot.value v).Fenced s := trivial

theorem Fenced.follow {s : Store} {resolve : Address → Except Fault Spot}
    (fenced : ∀ a spot, resolve a = .ok spot → spot.Fenced s) {spot settled : Spot}
    (given : spot.Fenced s) (followed : spot.follow resolve = .ok settled) : settled.Fenced s := by
  unfold Spot.follow at followed
  split at followed
  · exact fenced _ _ followed
  · obtain rfl := Except.ok.inj followed
    exact given

theorem Fenced.walk {s : Store} {resolve : Address → Except Fault Spot} {keys : List Segment}
    {spot last : Spot} (given : spot.Fenced s) (walked : spot.walk resolve s keys = .ok last) :
    last.Fenced s := by
  induction keys generalizing spot with
  | nil =>
    obtain rfl := Except.ok.inj walked
    exact given
  | cons key rest ih =>
    rw [Spot.walk_cons] at walked
    obtain ⟨next,-,walked⟩ := ok_of_bind walked
    exact ih (.value s next) walked

end Spot

namespace Runtime

variable {r : Runtime} (fenced : r.store.Fenced)
include fenced

theorem rootSpot_fenced {scope : Address} {root : Root} {spot : Spot}
    (found : r.rootSpot scope root = .ok spot) : spot.Fenced r.store := by
  have rooted {name : String} {spot : Spot} {next : Option Value → Except Fault Spot}
      (ends : ∀ held spot, next held = .ok spot → ∃ v, spot = .value v)
      (found : r.dataRoot name >>= next = .ok spot) : spot.Fenced r.store := by
    obtain ⟨held,-,found⟩ := ok_of_bind found
    obtain ⟨v,rfl⟩ := ends held spot found
    trivial
  have value (held : Option Value) (spot : Spot) (found : Except.ok (Spot.value (Value.ofOption held)) =
      (.ok spot : Except Fault Spot)) : ∃ v, spot = .value v := ⟨_,(Except.ok.inj found).symm⟩
  unfold rootSpot at found
  dsimp only at found
  split at found
  · cases found
  · cases kind : root.kind <;> rw [kind] at found <;> dsimp only at found
    case localStack =>
      obtain rfl := Except.ok.inj found
      intro a member
      obtain ⟨owner,-,held⟩ := List.mem_map.mp member
      exact fenced.data owner a held
    case contextStack =>
      obtain rfl := Except.ok.inj found
      intro a member
      obtain ⟨owner,-,held⟩ := List.mem_map.mp member
      cases held
    case global => exact rooted value found
    case state => exact rooted value found
    case named name =>
      refine rooted (fun held spot found => ?_) found
      cases held with
      | none => cases found
      | some v => exact ⟨v,(Except.ok.inj found).symm⟩
    case context =>
      obtain rfl := Except.ok.inj found
      cases r.store.ancestor? scope root.caret <;> trivial
    case currentContext =>
      obtain rfl := Except.ok.inj found
      cases r.store.ancestor? scope root.caret <;> trivial
    all_goals
      obtain rfl := Except.ok.inj found
      trivial

theorem readHandle_fenced {resolve : Address → Except Fault Spot}
    (resolves : ∀ a spot, resolve a = .ok spot → spot.Fenced r.store) {handle : Handle} {spot : Spot}
    (found : r.readHandle resolve handle = .ok spot) : spot.Fenced r.store := by
  cases handle with
  | path scope path locked =>
    obtain ⟨start,rooted,found⟩ := ok_of_bind found
    obtain ⟨last,walked,followed⟩ := ok_of_bind found
    exact .follow resolves (.walk (rootSpot_fenced fenced rooted) walked) followed
  | sub parent key =>
    obtain ⟨container,-,followed⟩ := ok_of_bind found
    exact .follow resolves (.value _ _) followed
  | locked inner => exact resolves inner spot found
  | cell v label => exact .follow resolves (.value _ _) found

theorem resolve_fenced {a : Address} {spot : Spot} (found : r.resolve a = .ok spot) :
    spot.Fenced r.store := by
  have within (fuel : Nat) : ∀ a spot, r.resolveWithin fuel a = .ok spot → spot.Fenced r.store := by
    induction fuel with
    | zero => exact fun _ _ found => by cases found
    | succ fuel ih => exact fun _ _ found => readHandle_fenced fenced ih found
  exact within _ a spot found

end Runtime
end PageRuntime
