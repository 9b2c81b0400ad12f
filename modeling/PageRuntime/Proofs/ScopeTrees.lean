import PageRuntime.Proofs.EventScopes
import PageRuntime.Proofs.Rereading

/-! Trees of scopes. However scopes are made, and whatever else happens between, parents are made before
their children, and every scope keeps its bindings in a dictionary of its own: it shares it neither with
another scope nor with a caller whose mapping it was made from. -/
namespace PageRuntime

namespace Store

variable {s : Store} {a : Address}

/-- The ancestors of a scope form a line that gets older all the way up. -/
theorem Ordered.lineage (ordered : s.Ordered) (a : Address) :
    ∃ line, s.Lineage a line ∧ ∀ b ∈ line, b ≤ a := by
  induction a using Nat.strong_induction_on with
  | _ a ih =>
    cases above : (s.scopeAt a).parent with
    | none => exact ⟨[a],.top above,by simp⟩
    | some parent =>
      have older := ordered a parent above
      obtain ⟨line,lineage,oldest⟩ := ih parent older
      refine ⟨a :: line,.under above lineage,fun b member => ?_⟩
      obtain rfl | member := List.mem_cons.mp member
      · exact Nat.le_refl _
      · exact Nat.le_trans (oldest b member) (Nat.le_of_lt older)

theorem Ordered.chain (ordered : s.Ordered) (inside : a < s.scopes.size) :
    s.Lineage a (s.chain a) ∧ ∀ b ∈ s.chain a, b < s.scopes.size := by
  obtain ⟨line,lineage,oldest⟩ := ordered.lineage a
  have within : ∀ b ∈ line, b < s.scopes.size := fun b member =>
    Nat.lt_of_le_of_lt (oldest b member) inside
  rw [lineage.chain_eq within]
  exact ⟨lineage,within⟩

end Store

/-- What the bindings of a new scope are taken from: a mapping that the caller keeps, or entries that
nothing else holds. -/
inductive Given
  | mapping (v : Value)
  | entries (d : Dict)
deriving DecidableEq

def Given.dict (s : Store) : Given → Dict
  | mapping v => s.entries v
  | entries d => d

/-- How a scope comes into being: detached, below a parent, or below a parent whose data it shares. -/
inductive Growth
  | detached (data : Value) (options : ScopeOptions)
  | child (parent : Address) (data : Value) (given : Given) (options : ScopeOptions)
  | special (parent : Address) (given : Given) (options : ScopeOptions)

namespace Growth

def parent? : Growth → Option Address
  | detached _ _ => none
  | child parent _ _ _ | special parent _ _ => some parent

def given : Growth → Given
  | detached _ _ => .entries []
  | child _ _ given _ | special _ given _ => given

def make : Growth → Act Address
  | detached data options => Scope.makeDetached data options
  | child parent data given options => do
    Scope.makeChild parent data (given.dict (← Act.store)) options
  | special parent given options => do
    Scope.makeSpecialChild parent (given.dict (← Act.store)) options

/-- A scope is made with a new dictionary, which has the entries that were given. -/
theorem make_run (growth : Growth) (r : Runtime) : ∃ scope : Scope, scope.parent = growth.parent? ∧
    scope.specials = r.store.dicts.size ∧ growth.make r = (.done r.store.scopes.size,
      { r with store := ((r.store.newDict (growth.given.dict r.store)).2.newScope scope).2 }) := by
  cases growth <;> exact ⟨_,rfl,rfl,rfl⟩

end Growth

/-- Runtimes to which scopes have been added one at a time, with anything else done between that makes
no scope. `passed` has, with each scope made, what it was made from. -/
inductive Grown : List (Address × Given) → Runtime → Prop
  | bare {r : Runtime} (none : r.store.scopes.size = 0) : Grown [] r
  | scope {passed : List (Address × Given)} {r : Runtime} (grown : Grown passed r) (growth : Growth)
      (below : ∀ parent, growth.parent? = some parent → parent < r.store.scopes.size)
      (held : ∀ v, growth.given = .mapping v → v.Inside r.store) :
      Grown ((r.store.scopes.size,growth.given) :: passed) (growth.make r).2
  | other {passed : List (Address × Given)} {r after : Runtime} (grown : Grown passed r)
      (scopes : r.store.SameScopes after.store)
      (sizes : ∀ shelf, r.store.sizeOf shelf ≤ after.store.sizeOf shelf) : Grown passed after

/-- No two scopes share the dictionary of their bindings, and no scope has it from the caller that made
it or one that made an earlier scope. -/
structure Separate (passed : List (Address × Given)) (s : Store) : Prop where
  ordered : s.Ordered
  inside : ∀ a, a < s.scopes.size → (s.scopeAt a).specials < s.dicts.size
  distinct : ∀ a b, a < s.scopes.size → b < s.scopes.size →
    (s.scopeAt a).specials = (s.scopeAt b).specials → a = b
  passed : ∀ a v, (a,.mapping v) ∈ passed → v.Inside s ∧ ∀ b, a ≤ b → b < s.scopes.size →
    v ≠ .dict (s.scopeAt b).specials

namespace Separate

variable {passed : List (Address × Given)} {s t : Store}

/-- The way up to a scope does not come by it before. -/
theorem way (separate : Separate passed s) {a scope : Address} {way above : List Address}
    (inside : a < s.scopes.size) (chain : s.chain a = way ++ scope :: above) :
    scope ∉ way ∧ ∀ b ∈ way, b < s.scopes.size := by
  obtain ⟨lineage,within⟩ := separate.ordered.chain inside
  have once := lineage.nodup
  rw [chain] at once within
  exact ⟨fun near => (List.nodup_append.mp once).2.2 scope near scope List.mem_cons_self rfl,
    fun b near => within b (List.mem_append_left _ near)⟩

theorem same (separate : Separate passed s) (scopes : s.SameScopes t)
    (sizes : ∀ shelf, s.sizeOf shelf ≤ t.sizeOf shelf) : Separate passed t := by
  have ordered : t.Ordered := by
    intro a parent above
    rw [scopes.scopeAt] at above
    exact separate.ordered a parent above
  refine ⟨ordered,?_,?_,?_⟩
  · intro a inside
    rw [scopes.size] at inside
    rw [scopes.scopeAt]
    exact Nat.lt_of_lt_of_le (separate.inside a inside) (sizes .dict)
  · intro a b inside other same
    rw [scopes.size] at inside other
    rw [scopes.scopeAt,scopes.scopeAt] at same
    exact separate.distinct a b inside other same
  · intro a v member
    obtain ⟨held,apart⟩ := separate.passed a v member
    refine ⟨fun shelf b here => Nat.lt_of_lt_of_le (held shelf b here) (sizes shelf),?_⟩
    intro b later inside
    rw [scopes.size] at inside
    rw [scopes.scopeAt]
    exact apart b later inside

/-- A scope with a dictionary made for it is apart from those there. -/
theorem newScope (separate : Separate passed s) (d : Dict) {scope : Scope} {given : Given}
    (below : ∀ parent, scope.parent = some parent → parent < s.scopes.size)
    (own : scope.specials = s.dicts.size) (held : ∀ v, given = .mapping v → v.Inside s) :
    Separate ((s.scopes.size,given) :: passed) ((s.newDict d).2.newScope scope).2 := by
  have dict := s.newDict_adds d
  have added := (s.newDict d).2.newScope_adds scope
  have ordered : (s.newDict d).2.Ordered := separate.ordered.of_adds dict (by decide)
  have size : ((s.newDict d).2.newScope scope).2.scopes.size = s.scopes.size + 1 := added.size
  have dicts : ((s.newDict d).2.newScope scope).2.dicts.size = s.dicts.size + 1 := dict.size
  have last : ((s.newDict d).2.newScope scope).2.scopeAt s.scopes.size = scope :=
    Object.scope.inj added.object
  have before {a : Address} (inside : a < s.scopes.size) :
      ((s.newDict d).2.newScope scope).2.scopeAt a = s.scopeAt a :=
    Object.scope.inj (added.others .scope a (.inr (Nat.ne_of_lt inside)))
  have wider (shelf : Shelf) : s.sizeOf shelf ≤ ((s.newDict d).2.newScope scope).2.sizeOf shelf :=
    Nat.le_trans ((Store.Grew.of_adds dict).sizeOf_le shelf) ((Store.Grew.of_adds added).sizeOf_le shelf)
  have old {a : Address} (inside : a < s.scopes.size) : (s.scopeAt a).specials ≠ s.dicts.size :=
    Nat.ne_of_lt (separate.inside a inside)
  have cases {a : Address} (inside : a < ((s.newDict d).2.newScope scope).2.scopes.size) :
      a < s.scopes.size ∨ a = s.scopes.size := by
    rw [size] at inside
    exact Nat.lt_or_eq_of_le (Nat.le_of_lt_succ inside)
  have new {v : Value} (held : v.Inside s) : v ≠ .dict s.dicts.size := by
    rintro rfl
    exact Nat.lt_irrefl _ (held .dict _ rfl)
  refine ⟨ordered.newScope below,?_,?_,?_⟩
  · intro a inside
    obtain earlier | rfl := cases inside
    · rw [before earlier,dicts]
      exact Nat.lt_succ_of_lt (separate.inside a earlier)
    · rw [last,own,dicts]
      exact Nat.lt_succ_self _
  · intro a b first second same
    -- One of the two may be the new scope, whose dictionary is later than that of any other.
    obtain earlier | rfl := cases first <;> obtain also | rfl := cases second
    · rw [before earlier,before also] at same
      exact separate.distinct a b earlier also same
    · rw [before earlier,last,own] at same
      exact absurd same (old earlier)
    · rw [before also,last,own] at same
      exact absurd same.symm (old also)
    · rfl
  · intro a w member
    obtain same | member := List.mem_cons.mp member
    · obtain ⟨rfl,taken⟩ := Prod.mk.inj same
      have known := held w taken.symm
      refine ⟨fun shelf b here => Nat.lt_of_lt_of_le (known shelf b here) (wider shelf),?_⟩
      intro b later inside
      obtain earlier | rfl := cases inside
      · exact absurd earlier (Nat.not_lt.mpr later)
      · rw [last,own]
        exact new known
    · obtain ⟨known,apart⟩ := separate.passed a w member
      refine ⟨fun shelf b here => Nat.lt_of_lt_of_le (known shelf b here) (wider shelf),?_⟩
      intro b later inside
      obtain earlier | rfl := cases inside
      · rw [before earlier]
        exact apart b later earlier
      · rw [last,own]
        exact new known

end Separate

theorem Grown.separate {passed : List (Address × Given)} {r : Runtime} (grown : Grown passed r) :
    Separate passed r.store := by
  induction grown with
  | @bare r none =>
    have outside {a : Address} (inside : a < r.store.scopes.size) : False := by
      rw [none] at inside
      exact Nat.not_lt_zero a inside
    refine ⟨fun a parent above => ?_,fun a inside => (outside inside).elim,
      fun a b inside => (outside inside).elim,fun a v member => (List.not_mem_nil member).elim⟩
    rw [Store.parent_outside (Nat.not_lt.mp outside)] at above
    cases above
  | @scope passed r grown growth below held separate =>
    obtain ⟨scope,parent,own,ran⟩ := growth.make_run r
    rw [ran]
    exact separate.newScope _ (fun above same => below above (parent ▸ same)) own held
  | other grown scopes sizes separate => exact separate.same scopes sizes

end PageRuntime
