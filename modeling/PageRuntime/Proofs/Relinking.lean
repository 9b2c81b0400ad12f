import PageRuntime.Proofs.ScopeTrees

/-! Chains without the scopes that only add specials. Each scope that remains has the next one that remains
as its parent. Local data are counted along these alone, so every scope sees the same local data as before,
and the same at every root but those of its context. -/
namespace PageRuntime

namespace Store

variable {s : Store} {a b : Address} {line : List Address}

/-- The scope remains when those that only add specials are left out. -/
def remains (s : Store) (a : Address) : Bool := !(s.scopeAt a).onlySpecials

/-- The scope itself if it remains, or else its nearest ancestor that does. -/
def remaining? (s : Store) (a : Address) : Option Address := (s.chain a).find? s.remains

/-- The scopes, each below the nearest of its ancestors that remains. -/
def relinked (s : Store) : Table Scope :=
  ⟨s.scopes.items.map fun scope => { scope with parent := scope.parent.bind s.remaining? }⟩

def withScopes (s : Store) (t : Table Scope) : Store := { s with scopes := t }

theorem scopeAt_relinked (s : Store) (a : Address) : (s.withScopes s.relinked).scopeAt a =
    { s.scopeAt a with parent := (s.scopeAt a).parent.bind s.remaining? } := by
  show (s.relinked.get? a).getD _ = _
  unfold relinked Table.get? scopeAt Table.get?
  rw [Array.getElem?_map]
  cases s.scopes.items[a]? <;> rfl

theorem size_relinked (s : Store) : s.relinked.size = s.scopes.size := Array.size_map

theorem remains_relinked (s : Store) : (s.withScopes s.relinked).remains = s.remains := by
  funext a
  rw [remains,scopeAt_relinked]
  rfl

/-- A scope that only adds specials has a parent, whose data it shares. -/
def Based (s : Store) : Prop := ∀ a, s.remains a = false → (s.scopeAt a).parent ≠ none

theorem SameScopes.of_scopes {t : Store} (scopes : t.scopes = s.scopes) : s.SameScopes t :=
  ⟨congrArg Table.size scopes,fun a => by rw [Store.scopeAt,Store.scopeAt,scopes]⟩

theorem SameScopes.remains {t : Store} (scopes : s.SameScopes t) : t.remains = s.remains := by
  funext a
  rw [Store.remains,scopes.scopeAt]
  rfl

theorem SameScopes.localStack {t : Store} (scopes : s.SameScopes t) (a : Address) :
    t.localStack a = s.localStack a := by
  have same : t.scopeAt = s.scopeAt := funext scopes.scopeAt
  rw [Store.localStack,scopes.chain,same]
  rfl

namespace Lineage

theorem behind {near above : List Address} (lineage : s.Lineage a (near ++ b :: above)) :
    s.Lineage b (b :: above) := by
  induction near generalizing a with
  | nil =>
    rw [List.nil_append] at lineage
    cases lineage with
    | top last => exact .top last
    | under next rest => exact .under next rest
  | cons first near ih =>
    rw [List.cons_append] at lineage
    generalize whole : near ++ b :: above = line at lineage
    cases lineage with
    | top last => simp at whole
    | under next rest => exact ih (whole ▸ rest)

/-- From the nearest scope that remains on, the line has all that remain. -/
theorem remaining (lineage : s.Lineage a line) (nearest : line.find? s.remains = some b) :
    ∃ rest, s.Lineage b rest ∧ rest <:+ line ∧ rest.filter s.remains = line.filter s.remains := by
  obtain ⟨-,near,above,rfl,left⟩ := List.find?_eq_some_iff_append.mp nearest
  have none : near.filter s.remains = [] :=
    List.filter_eq_nil_iff.mpr fun c member stays => by simpa [stays] using left c member
  exact ⟨_,lineage.behind,List.suffix_append near _,by rw [List.filter_append,none,List.nil_append]⟩

theorem exists_remaining (based : s.Based) (lineage : s.Lineage a line) :
    ∃ b, line.find? s.remains = some b := by
  induction lineage with
  | @top a last =>
    cases stays : s.remains a with
    | true => exact ⟨a,List.find?_cons_of_pos stays⟩
    | false => exact absurd last (based a stays)
  | @under a parent above next rest ih =>
    cases stays : s.remains a with
    | true => exact ⟨a,List.find?_cons_of_pos stays⟩
    | false =>
      rw [List.find?_cons_of_neg (Bool.eq_false_iff.mp stays)]
      exact ih

/-- Relinked, a scope is below the scopes that remain above it. -/
theorem relinked_under {parent : Address} {above : List Address}
    (next : (s.scopeAt a).parent = some parent) (rest : s.Lineage parent above)
    (inside : ∀ b ∈ above, b < s.scopes.size)
    (higher : ∀ b, above.find? s.remains = some b →
      (s.withScopes s.relinked).Lineage b (above.filter s.remains)) :
    (s.withScopes s.relinked).Lineage a (a :: above.filter s.remains) := by
  have parent : ((s.withScopes s.relinked).scopeAt a).parent = above.find? s.remains := by
    rw [scopeAt_relinked]
    show (s.scopeAt a).parent.bind s.remaining? = _
    rw [next,Option.bind_some,remaining?,rest.chain_eq inside]
  cases nearest : above.find? s.remains with
  | none =>
    rw [List.filter_eq_nil_iff.mpr (List.find?_eq_none.mp nearest)]
    exact .top (parent.trans nearest)
  | some b => exact .under (parent.trans nearest) (higher b nearest)

/-- Relinked, the nearest scope of a line that remains has the line of all that do. -/
theorem relinked (lineage : s.Lineage a line) (inside : ∀ b ∈ line, b < s.scopes.size)
    (nearest : line.find? s.remains = some b) :
    (s.withScopes s.relinked).Lineage b (line.filter s.remains) := by
  induction lineage generalizing b with
  | @top a last =>
    by_cases stays : s.remains a = true
    · rw [List.find?_cons_of_pos stays] at nearest
      obtain rfl := Option.some.inj nearest
      rw [List.filter_cons_of_pos stays]
      refine .top ?_
      rw [scopeAt_relinked,last]
      rfl
    · rw [List.find?_cons_of_neg stays] at nearest
      cases nearest
  | @under a parent above next rest ih =>
    have inside : ∀ b ∈ above, b < s.scopes.size := fun b member => inside b (.tail a member)
    by_cases stays : s.remains a = true
    · rw [List.find?_cons_of_pos stays] at nearest
      obtain rfl := Option.some.inj nearest
      rw [List.filter_cons_of_pos stays]
      exact relinked_under next rest inside fun b nearest => ih inside nearest
    · rw [List.find?_cons_of_neg stays] at nearest
      rw [List.filter_cons_of_neg stays]
      exact ih inside nearest

end Lineage

section

variable (ordered : s.Ordered) (inside : a < s.scopes.size)
include ordered inside

/-- The nearest scope of a chain that remains sees the local data that are seen from its start. -/
theorem Ordered.localStack_remaining (nearest : s.remaining? a = some b) : s.localStack b = s.localStack a := by
  obtain ⟨lineage,within⟩ := ordered.chain inside
  obtain ⟨rest,farther,part,same⟩ := lineage.remaining nearest
  have chain : s.chain b = rest := farther.chain_eq fun c member => within c (part.subset member)
  rw [localStack,chain]
  exact congrArg _ same

/-- A scope that only adds specials sees the local data of its parent. -/
theorem Ordered.localStack_special {parent : Address} (next : (s.scopeAt a).parent = some parent)
    (special : s.remains a = false) : s.localStack a = s.localStack parent := by
  obtain ⟨lineage,within⟩ := ordered.chain inside
  generalize whole : s.chain a = line at lineage within
  cases lineage with
  | top last =>
    rw [last] at next
    cases next
  | @under _ _ above first rest =>
    obtain rfl := Option.some.inj (first.symm.trans next)
    have chain : s.chain _ = above := rest.chain_eq fun b member => within b (.tail a member)
    rw [localStack,localStack,whole,chain]
    exact congrArg _ (List.filter_cons_of_neg (Bool.eq_false_iff.mp special))

/-- The chain of a scope that remains has, once relinked, the scopes of its chain that remain. -/
theorem Ordered.chain_relinked (nearest : s.remaining? a = some b) :
    (s.withScopes s.relinked).chain b = (s.chain a).filter s.remains := by
  obtain ⟨lineage,within⟩ := ordered.chain inside
  refine (lineage.relinked within nearest).chain_eq fun c member => ?_
  exact Nat.lt_of_lt_of_eq (within c (List.mem_of_mem_filter member)) s.size_relinked.symm

end

theorem chain_top (last : (s.scopeAt a).parent = none) :
    s.chain a = if s.scopes.size = 0 then [] else [a] := by
  unfold chain
  cases s.scopes.size with
  | zero => rfl
  | succ fuel =>
    unfold chainWithin
    rw [last]
    rfl

theorem ancestor?_zero (s : Store) (a : Address) :
    s.ancestor? a 0 = if s.scopes.size = 0 then none else some a := by
  unfold ancestor? chain
  cases s.scopes.size with
  | zero => rfl
  | succ fuel =>
    unfold chainWithin
    cases (s.scopeAt a).parent <;> rfl

/-- The scopes of the table have the same bindings of their own and see the same local data. -/
structure Relinks (s : Store) (t : Table Scope) : Prop where
  size : t.size = s.scopes.size
  specials : ∀ a, ((s.withScopes t).scopeAt a).specials = (s.scopeAt a).specials
  localStack : ∀ a, (s.withScopes t).localStack a = s.localStack a

/-- Only the scopes of a store count. -/
theorem Relinks.of_scopes {u : Store} {t : Table Scope} (relinks : s.Relinks t)
    (scopes : u.scopes = s.scopes) : u.Relinks t := by
  have same : s.SameScopes u := .of_scopes scopes
  have relinked : (s.withScopes t).SameScopes (u.withScopes t) := ⟨rfl,fun _ => rfl⟩
  refine ⟨scopes ▸ relinks.size,fun a => ?_,fun a => ?_⟩
  · rw [same.scopeAt]
    exact relinks.specials a
  · rw [same.localStack,relinked.localStack]
    exact relinks.localStack a

/-- Relinked, a chain has the same scopes that remain. -/
theorem Ordered.filter_relinked (ordered : s.Ordered) (a : Address) :
    ((s.withScopes s.relinked).chain a).filter s.remains = (s.chain a).filter s.remains := by
  have size : (s.withScopes s.relinked).scopes.size = s.scopes.size := s.size_relinked
  cases last : (s.scopeAt a).parent with
  | none =>
    have top : ((s.withScopes s.relinked).scopeAt a).parent = none := by
      rw [scopeAt_relinked,last]
      rfl
    rw [chain_top last,chain_top top,size]
  | some parent =>
    have inside : a < s.scopes.size := Nat.lt_of_not_le fun outside => by
      rw [parent_outside outside] at last
      cases last
    obtain ⟨lineage,within⟩ := ordered.chain inside
    generalize s.chain a = line at lineage within
    cases lineage with
    | top root =>
      rw [root] at last
      cases last
    | @under _ _ above next rest =>
      have within : ∀ b ∈ above, b < s.scopes.size := fun b member => within b (.tail a member)
      have lineage := Lineage.relinked_under next rest within fun b => rest.relinked within
      rw [lineage.chain_eq fun b member => ?_,List.filter_cons,List.filter_cons,List.filter_filter]
      · simp only [Bool.and_self]
      · obtain rfl | member := List.mem_cons.mp member
        · exact Nat.lt_of_lt_of_eq inside size.symm
        · exact Nat.lt_of_lt_of_eq (within b (List.mem_of_mem_filter member)) size.symm

theorem Ordered.relinks (ordered : s.Ordered) : s.Relinks s.relinked where
  size := s.size_relinked
  specials a := by rw [scopeAt_relinked]
  localStack a := by
    have data (b : Address) : ((s.withScopes s.relinked).scopeAt b).data = (s.scopeAt b).data := by
      rw [scopeAt_relinked]
    show (((s.withScopes s.relinked).chain a).filter (s.withScopes s.relinked).remains).map _ = _
    rw [remains_relinked,ordered.filter_relinked]
    simp only [data]
    rfl

end Store

theorem Growth.based (growth : Growth) {r : Runtime} (based : r.store.Based) :
    (growth.make r).2.store.Based := by
  obtain ⟨scope,ran,founded⟩ : ∃ scope : Scope, growth.make r = (.done r.store.scopes.size,
      { r with store := ((r.store.newDict (growth.given.dict r.store)).2.newScope scope).2 }) ∧
        (scope.onlySpecials = true → scope.parent ≠ none) := by
    cases growth with
    | detached data options => exact ⟨_,rfl,nofun⟩
    | child parent data given options => exact ⟨_,rfl,nofun⟩
    | special parent given options => exact ⟨_,rfl,nofun⟩
  rw [ran]
  have added := (r.store.newDict (growth.given.dict r.store)).2.newScope_adds scope
  intro a
  by_cases new : a = r.store.scopes.size
  · subst new
    have last : ((r.store.newDict (growth.given.dict r.store)).2.newScope scope).2.scopeAt
        r.store.scopes.size = scope := Object.scope.inj added.object
    rw [Store.remains,last]
    exact fun special => founded (by simpa using special)
  · have before : ((r.store.newDict (growth.given.dict r.store)).2.newScope scope).2.scopeAt a =
        r.store.scopeAt a := Object.scope.inj (added.others .scope a (.inr new))
    rw [Store.remains,before]
    exact based a

theorem Grown.based {passed : List (Address × Given)} {r : Runtime} (grown : Grown passed r) :
    r.store.Based := by
  induction grown with
  | @bare r none =>
    intro a special
    have outside : r.store.scopes.size ≤ a := none ▸ Nat.zero_le a
    rw [Store.remains,Store.scopeAt,Table.get?_outside _ outside] at special
    exact absurd special (by decide)
  | scope grown growth below held based => exact growth.based based
  | other grown scopes sizes based =>
    intro a
    rw [scopes.remains,scopes.scopeAt]
    exact based a

/-- Whatever is seen at the root depends on which specials are in the chain. -/
def Root.isContextual (root : Root) : Bool :=
  match root.kind with
  | .context | .currentContext => root.caret != 0
  | .contextStack | .component => true
  | _ => false

namespace Runtime

variable {r : Runtime} {t : Table Scope}

def withScopes (r : Runtime) (t : Table Scope) : Runtime := { r with store := r.store.withScopes t }

/-- The runtime with the scopes that only add specials left out of all chains. -/
def withoutSpecials (r : Runtime) : Runtime := r.withScopes r.store.relinked

theorem rootSpot_withScopes (relinks : r.store.Relinks t) {root : Root}
    (plain : root.isContextual = false) (scope : Address) :
    (r.withScopes t).rootSpot scope root = r.rootSpot scope root := by
  have nearest : (r.withScopes t).store.ancestor? scope 0 = r.store.ancestor? scope 0 := by
    rw [Store.ancestor?_zero,Store.ancestor?_zero]
    show (if t.size = 0 then _ else _) = _
    rw [relinks.size]
  have stack : (r.withScopes t).store.localStack = r.store.localStack := funext relinks.localStack
  unfold rootSpot
  dsimp only
  split
  · rfl
  · unfold Root.isContextual at plain
    cases kind : root.kind with
    | localData => simp only [stack]
    | localStack => simp only [stack]
    | context =>
      rw [kind] at plain
      rw [show root.caret = 0 by simpa using plain,nearest]
    | currentContext =>
      rw [kind] at plain
      rw [show root.caret = 0 by simpa using plain,nearest]
      cases r.store.ancestor? scope 0 with
      | none => rfl
      | some target => exact congrArg (fun a => Except.ok (Spot.value (.dict a))) (relinks.specials target)
    | contextStack => simp [kind] at plain
    | component => simp [kind] at plain
    | _ => rfl

end Runtime
end PageRuntime
