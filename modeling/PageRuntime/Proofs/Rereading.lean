import PageRuntime.Proofs.SwapWriting

/-! Reading again. What is read at a location, unless it is null, is read there again once a list or
a dictionary has been made. -/
namespace PageRuntime

theorem List.findSome?_congr {α β : Type} {find again : α → Option β} {l : List α}
    (same : ∀ x ∈ l, find x = again x) : l.findSome? find = l.findSome? again := by
  induction l with
  | nil => rfl
  | cons x rest ih =>
    rw [List.findSome?_cons,List.findSome?_cons,same x List.mem_cons_self,
      ih fun y member => same y (.tail x member)]

namespace Store.SameScopes

variable {s after : Store} (scopes : s.SameScopes after)
include scopes

theorem chain (scope : Address) : after.chain scope = s.chain scope := by
  have within (fuel : Nat) : ∀ scope, after.chainWithin fuel scope = s.chainWithin fuel scope := by
    induction fuel with
    | zero => exact fun _ => rfl
    | succ fuel ih =>
      intro scope
      unfold Store.chainWithin
      rw [scopes.scopeAt]
      cases (s.scopeAt scope).parent with
      | none => rfl
      | some parent => exact congrArg (scope :: ·) (ih parent)
  rw [Store.chain,Store.chain,scopes.size]
  exact within _ scope

theorem rootSpot {r : Runtime} (here : r.store = s) (scope : Address) (root : Root) :
    ({ r with store := after } : Runtime).rootSpot scope root = r.rootSpot scope root := by
  subst here
  have same : after.scopeAt = r.store.scopeAt := funext scopes.scopeAt
  unfold Runtime.rootSpot
  dsimp only [Runtime.dataRoot,Runtime.rootValue?,Store.localStack,Store.contextStack,
    Store.ancestor?,Store.componentRoot]
  rw [scopes.chain,same]

/-- Bindings stay as they are where the dictionaries of the scopes that they are sought in do. -/
theorem contextKey {scope : Address} (specials : ∀ above ∈ s.chain scope,
    after.dictAt (s.scopeAt above).specials = s.dictAt (s.scopeAt above).specials) (key : Key) :
    after.contextKey scope key = s.contextKey scope key := by
  rw [Store.contextKey,Store.contextBinding?,scopes.chain]
  refine congrArg Value.ofOption (List.findSome?_congr fun above member => ?_)
  rw [Store.specialsOf,scopes.scopeAt,specials above member]
  rfl

end Store.SameScopes

/-- What a root stands for depends on the scopes, and for a data root on what it holds. -/
theorem Runtime.rootSpot_congr {r after : Runtime} (scopes : r.store.SameScopes after.store)
    (alive : after.alive = r.alive) {root : Root}
    (roots : ∀ name, root.kind.dataRoot? = some name → after.rootValue? name = r.rootValue? name)
    (scope : Address) : after.rootSpot scope root = r.rootSpot scope root := by
  have data (name : String) (kind : root.kind.dataRoot? = some name) :
      after.dataRoot name = ({ r with store := after.store } : Runtime).dataRoot name := by
    rw [dataRoot,alive,roots name kind]
    rfl
  rw [← scopes.rootSpot rfl scope root]
  unfold Runtime.rootSpot
  dsimp only
  split
  · rfl
  · revert data
    cases root.kind with
    | null | localData | context | currentContext | localStack | contextStack | component =>
      exact fun _ => rfl
    | _ =>
      intro data
      dsimp only
      rw [data _ rfl]

namespace Runtime

section

variable {r : Runtime} {s : Store} {shelf : Shelf} {o : Object} (fenced : r.store.Fenced)
  (adds : r.store.Adds s shelf o) (container : shelf = .list ∨ shelf = .dict)
include fenced adds container

theorem member_again {spot : Spot} {key : Segment} (something : r.store.member spot key ≠ .null) :
    s.member spot key = r.store.member spot key := by
  have grew := Store.Grew.of_adds adds
  have scopes := adds.scopes (by obtain rfl | rfl := container <;> exact nofun)
  have bound (scope : Address) (key : Key) : s.contextKey scope key = r.store.contextKey scope key :=
    scopes.contextKey (fun above _ =>
      Object.entries.inj (grew .dict _ (fenced.specials above)).2) key
  have context (a : Address) : s.contextAt a = r.store.contextAt a := by
    refine Object.context.inj (adds.others .context a (.inl ?_))
    obtain rfl | rfl := container <;> exact nofun
  cases spot with
  | bindings scope => exact bound scope _
  | items values => rfl
  | value v =>
    have inside {shelf : Shelf} {a : Address} (here : v.spot? = some (shelf,a))
        (lost : r.store.members v = [] → r.store.member (.value v) key = .null) :
        a < r.store.sizeOf shelf :=
      Nat.lt_of_not_le fun outside => something (lost (Store.members_outside here outside))
    have noItem : itemAt [] key = .null := by
      cases key with
      | field name => rfl
      | index place =>
        rw [itemAt]
        cases placeOf? _ place <;> rfl
    have noEntry {d : Dict} (empty : Dict.values d = []) : d.get key.key = .null := by
      obtain rfl := List.map_eq_nil_iff.mp empty
      rfl
    cases v with
    | context a =>
      simp only [Store.member]
      rw [context,bound]
    | dict a =>
      have same : s.dictAt a = r.store.dictAt a :=
        Object.entries.inj (grew .dict a (inside rfl noEntry)).2
      simp only [Store.member,same]
    | frozen a =>
      have same : s.frozenAt a = r.store.frozenAt a :=
        Object.entries.inj (grew .frozen a (inside rfl noEntry)).2
      simp only [Store.member,same]
    | list a =>
      have lost (empty : r.store.listAt a = []) :
          r.store.member (.value (.list a)) key = .null := by
        simp only [Store.member]
        rw [empty]
        exact noItem
      have same : s.listAt a = r.store.listAt a := Object.items.inj (grew .list a (inside rfl lost)).2
      simp only [Store.member,same]
    | tuple a =>
      have lost (empty : r.store.tupleAt a = []) :
          r.store.member (.value (.tuple a)) key = .null := by
        simp only [Store.member]
        rw [empty]
        exact noItem
      have same : s.tupleAt a = r.store.tupleAt a :=
        Object.items.inj (grew .tuple a (inside rfl lost)).2
      simp only [Store.member,same]
    | _ => rfl

section

variable {resolve again : Address → Except Fault Spot}
  (resolves : ∀ a spot, resolve a = .ok spot → spot ≠ .null → again a = .ok spot)
include resolves

omit fenced adds container in
theorem follow_again {spot settled : Spot} (followed : spot.follow resolve = .ok settled)
    (something : settled ≠ .null) : spot.follow again = .ok settled := by
  unfold Spot.follow at followed ⊢
  split at followed
  · exact resolves _ _ followed something
  · exact followed

theorem walk_again {keys : List Segment} {spot last settled : Spot}
    (walked : spot.walk resolve r.store keys = .ok last) (followed : last.follow resolve = .ok settled)
    (something : settled ≠ .null) : spot.walk again s keys = .ok last := by
  induction keys generalizing spot with
  | nil => exact walked
  | cons key rest ih =>
    rw [Spot.walk_cons] at walked ⊢
    obtain ⟨next,stepped,walked⟩ := ok_of_bind walked
    obtain ⟨holder,opened,met⟩ := ok_of_bind stepped
    obtain rfl := Except.ok.inj met
    have present : r.store.member holder key ≠ .null := by
      intro missing
      rw [missing] at walked
      obtain rfl := Except.ok.inj ((Spot.walk_null resolve r.store rest).symm.trans walked)
      exact something (Except.ok.inj followed).symm
    have holds : holder ≠ .null := by
      rintro rfl
      exact present rfl
    have stepsAgain : spot.step again s key = .ok (r.store.member holder key) := by
      rw [Spot.step,follow_again resolves opened holds]
      exact congrArg Except.ok (member_again fenced adds container present)
    rw [stepsAgain]
    exact ih walked

theorem readHandle_again {handle : Handle} {spot : Spot} (something : spot ≠ .null)
    (found : r.readHandle resolve handle = .ok spot) :
    ({ r with store := s } : Runtime).readHandle again handle = .ok spot := by
  have scopes := adds.scopes (by obtain rfl | rfl := container <;> exact nofun)
  cases handle with
  | path scope path locked =>
    obtain ⟨start,rooted,found⟩ := ok_of_bind found
    obtain ⟨last,walked,followed⟩ := ok_of_bind found
    have walkedAgain := walk_again fenced adds container resolves walked followed something
    have followedAgain := follow_again resolves followed something
    rw [readHandle,scopes.rootSpot rfl,rooted]
    show (start.walk again s path.segments >>= fun last => last.follow again) = _
    rw [walkedAgain]
    exact followedAgain
  | sub parent key =>
    obtain ⟨holder,above,followed⟩ := ok_of_bind found
    have present : r.store.member holder key ≠ .null := by
      intro missing
      rw [missing] at followed
      exact something (Except.ok.inj followed).symm
    have holds : holder ≠ .null := by
      rintro rfl
      exact present rfl
    rw [readHandle,resolves parent holder above holds]
    show (Spot.value (s.member holder key)).follow again = _
    rw [member_again fenced adds container present]
    exact follow_again resolves followed something
  | locked inner => exact resolves inner spot found something
  | cell v label => exact follow_again resolves found something

end

theorem resolve_again {a : Address} {spot : Spot} (found : r.resolve a = .ok spot)
    (something : spot ≠ .null) : ({ r with store := s } : Runtime).resolve a = .ok spot := by
  have handleAt (a : Address) : s.handleAt a = r.store.handleAt a := by
    refine Object.handle.inj (adds.others .handle a (.inl ?_))
    obtain rfl | rfl := container <;> exact nofun
  have size : s.handles.size = r.store.handles.size :=
    adds.sizes .handle (by obtain rfl | rfl := container <;> exact nofun)
  have within (fuel : Nat) : ∀ a spot, r.resolveWithin fuel a = .ok spot → spot ≠ .null →
      ({ r with store := s } : Runtime).resolveWithin fuel a = .ok spot := by
    induction fuel with
    | zero => exact fun _ _ found => by cases found
    | succ fuel ih =>
      intro a spot found something
      rw [resolveWithin,handleAt]
      exact readHandle_again fenced adds container ih something found
  rw [resolve,size]
  exact within _ a spot found something

end

end Runtime
end PageRuntime
