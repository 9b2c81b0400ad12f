import PageRuntime.Page
import PageRuntime.Proofs.LikeReading

/-! Closed runtimes: every address that occurs in one is that of an object in its store. In a closed
runtime everything reads as it did after objects have been made. -/
namespace PageRuntime

namespace Link

/-- Only the same addresses are paired. -/
def Diagonal (link : Link) : Prop := ∀ shelf a b, link shelf a b → a = b

end Link

section Diagonal

variable {link : Link} (diagonal : link.Diagonal)
include diagonal

theorem Value.Alike.eq {v w : Value} (alike : v.Alike link w) : v = w := by
  cases alike <;> first | rfl | exact congrArg _ (diagonal _ _ _ ‹_›)

theorem Values.Alike.eq {vs ws : List Value} (alike : Values.Alike link vs ws) : vs = ws := by
  induction alike with
  | nil => rfl
  | cons one _ ih => rw [one.eq diagonal,ih]

theorem Spot.Alike.eq {spot other : Spot} (alike : spot.Alike link other) : spot = other := by
  cases alike with
  | value alike => rw [alike.eq diagonal]
  | bindings linked => rw [diagonal _ _ _ linked]
  | items alike => rw [alike.eq diagonal]

end Diagonal

theorem Agree.eq {α : Type} {rel : α → α → Prop} (same : ∀ x y, rel x y → x = y)
    {result other : Except Fault α} (agree : Agree rel result other) : result = other := by
  cases agree with
  | ok related => rw [same _ _ related]
  | error fault => rfl

namespace Store

/-- Pairs every object of a store with itself. -/
def identity (s : Store) : Link := fun shelf a b => a = b ∧ a < s.sizeOf shelf

theorem identity_diagonal (s : Store) : s.identity.Diagonal := fun _ _ _ linked => linked.1

variable {s after : Store}

theorem Adds.identity {shelf : Shelf} {o : Object} (adds : s.Adds after shelf o) :
    s.identity.add shelf (s.sizeOf shelf) (s.sizeOf shelf) = after.identity := by
  funext other a b
  refine propext ⟨?_,?_⟩
  · rintro (⟨rfl,inside⟩ | ⟨rfl,rfl,rfl⟩)
    · exact ⟨rfl,(Grew.of_adds adds other a inside).1⟩
    · exact ⟨rfl,by rw [adds.size]; exact Nat.lt_succ_self _⟩
  · rintro ⟨rfl,inside⟩
    by_cases here : other = shelf
    · subst here
      rw [adds.size] at inside
      obtain earlier | last := Nat.lt_succ_iff_lt_or_eq.mp inside
      · exact .inl ⟨rfl,earlier⟩
      · exact .inr ⟨rfl,last,last⟩
    · exact .inl ⟨rfl,by rwa [adds.sizes other here] at inside⟩

theorem Puts.identity {shelf : Shelf} {a : Address} {o : Object} (puts : s.Puts after shelf a o) :
    s.identity = after.identity := by
  funext other b c
  unfold Store.identity
  rw [puts.sizes]

theorem Grew.identity (grew : s.Grew after) : s.identity.Le after.identity :=
  fun shelf a _ linked => ⟨linked.1,(grew shelf a linked.2).1⟩

end Store

/-- The value is a scalar or an object of the store. -/
def Value.Present (s : Store) (v : Value) : Prop := v.Alike s.identity v

theorem Value.Present.grew {s after : Store} {v : Value} (present : v.Present s)
    (grew : s.Grew after) : v.Present after := Value.Alike.mono grew.identity present

/-- The object that the value stands for, if any, is one of the store. -/
def Value.Inside (s : Store) (v : Value) : Prop :=
  ∀ shelf a, v.spot? = some (shelf,a) → a < s.sizeOf shelf

theorem Value.Present.inside {s : Store} {v : Value} (present : v.Present s) : v.Inside s := by
  intro shelf a here
  cases present <;> cases here <;> exact And.right ‹_›

namespace Runtime

/-- Every address in the runtime is that of an object. -/
def Closed (r : Runtime) : Prop := r.Alike r.store.identity r

namespace Closed

variable {r after : Runtime} (closed : r.Closed)
include closed

theorem grew (grew : r.Grew after) (afterClosed : after.Closed) :
    r.Alike r.store.identity after where
  store := closed.store.of_grew grew.store afterClosed.store.ordered
  roots := by
    rw [grew.roots]
    exact closed.roots
  document := by
    rw [grew.document]
    exact closed.document
  surroundings := by
    have same := congrArg surroundings grew.frame
    exact same

theorem adds {s : Store} {shelf : Shelf} {o : Object} (adds : r.store.Adds s shelf o)
    (ordered : s.Ordered) (new : o.Alike s.identity o) : ({ r with store := s } : Runtime).Closed := by
  have store := closed.store.of_adds adds adds ordered ordered (by rwa [adds.identity])
  rw [adds.identity] at store
  have le : r.store.identity.Le s.identity := (Store.Grew.of_adds adds).identity
  exact ⟨store,closed.roots.imp fun _ _ one => ⟨one.1,one.2.mono le⟩,le.option closed.document,rfl⟩

theorem puts {s : Store} {shelf : Shelf} {a : Address} {o : Object}
    (puts : r.store.Puts s shelf a o) (inside : a < r.store.sizeOf shelf)
    (notScope : Shelf.scope ≠ shelf)
    (new : o.Alike s.identity o) : ({ r with store := s } : Runtime).Closed := by
  have same := puts.identity
  have store := closed.store.of_puts ⟨rfl,inside⟩ puts puts notScope (by rwa [same])
  rw [same] at store
  refine ⟨store,?_,?_,rfl⟩
  · rw [← same]
    exact closed.roots
  · rw [← same]
    exact closed.document

theorem journal (entries : Array Entry) : ({ r with journal := entries } : Runtime).Closed :=
  ⟨closed.store,closed.roots,closed.document,rfl⟩

theorem setRoot (name : String) {v : Value} (present : v.Present r.store) :
    (r.setRoot name v).Closed := Alike.setRoot closed name present

theorem rootPresent (name : String) : (Value.ofOption (r.rootValue? name)).Present r.store :=
  Value.ofOption_alike (Alike.rootValue? closed name)

theorem rootHeld {name : String} {v : Value} (held : r.rootValue? name = some v) :
    v.Present r.store := by
  have present := closed.rootPresent name
  rwa [held] at present

end Closed

theorem Closed.newList {r : Runtime} (closed : r.Closed) {items : List Value}
    (present : Values.Alike r.store.identity items items) :
    ({ r with store := (r.store.newList items).2 } : Runtime).Closed :=
  have adds := r.store.newList_adds items
  closed.adds adds (closed.store.ordered.of_adds adds nofun)
    (.items (present.mono (Store.Grew.of_adds adds).identity))

theorem Closed.newDict {r : Runtime} (closed : r.Closed) {d : Dict}
    (present : d.Alike r.store.identity d) :
    ({ r with store := (r.store.newDict d).2 } : Runtime).Closed :=
  have adds := r.store.newDict_adds d
  closed.adds adds (closed.store.ordered.of_adds adds nofun)
    (.entries (Dict.Alike.mono (Store.Grew.of_adds adds).identity present))

theorem Closed.newTuple {r : Runtime} (closed : r.Closed) {items : List Value}
    (present : Values.Alike r.store.identity items items) :
    ({ r with store := (r.store.newTuple items).2 } : Runtime).Closed :=
  have adds := r.store.newTuple_adds items
  closed.adds adds (closed.store.ordered.of_adds adds nofun)
    (.items (present.mono (Store.Grew.of_adds adds).identity))

theorem Closed.newHandle {r : Runtime} (closed : r.Closed) {handle : Handle}
    (present : handle.Alike r.store.identity handle) :
    ({ r with store := (r.store.newHandle handle).2 } : Runtime).Closed :=
  have adds := r.store.newHandle_adds handle
  closed.adds adds (closed.store.ordered.of_adds adds nofun)
    (.handle (present.mono (Store.Grew.of_adds adds).identity))

theorem Closed.newScope {r : Runtime} (closed : r.Closed) {scope : Scope}
    (later : ∀ parent, scope.parent = some parent → parent < r.store.scopes.size)
    (present : scope.Alike r.store.identity scope) :
    ({ r with store := (r.store.newScope scope).2 } : Runtime).Closed :=
  have adds := r.store.newScope_adds scope
  closed.adds adds (closed.store.ordered.newScope later)
    (.scope (present.mono (Store.Grew.of_adds adds).identity))

/-- The scope that a batch runs in is one of its own, so a closed runtime stays closed. -/
theorem Closed.makeRoot {r : Runtime} (closed : r.Closed) : (Scope.makeRoot r).2.Closed := by
  have filled : ({ r with store := (r.store.newDict []).2 } : Runtime).Closed := closed.newDict .nil
  have specials : (r.store.newDict []).2.identity .dict r.store.dicts.size r.store.dicts.size :=
    ⟨rfl,by rw [(r.store.newDict_adds []).size]; exact Nat.lt_succ_self _⟩
  exact filled.newScope nofun ⟨.none,.null,specials,rfl,rfl,.nil,rfl,.null,rfl⟩

/-- A page starts closed. -/
theorem Closed.initial : Page.initial.Closed := by
  let none : Runtime := { Page.initial with store := .empty, roots := [] }
  have closed : none.Closed := by
    refine ⟨⟨?_,?_,?_,nofun,nofun⟩,.nil,.none,rfl⟩
    · rintro shelf a b ⟨rfl,inside⟩
      exact ⟨inside,inside⟩
    · rintro shelf a b c d ⟨rfl,-⟩ ⟨rfl,-⟩
      rfl
    · rintro shelf a b ⟨-,inside⟩
      cases shelf <;> cases inside
  have filled := (closed.newDict .nil).newDict .nil
  exact (filled.setRoot "global" (.dict ⟨rfl,Nat.zero_lt_two⟩)).setRoot "state"
    (.dict ⟨rfl,Nat.one_lt_two⟩)

/-! Reading after growth. -/
section Reading

variable {r after : Runtime} (closed : r.Closed) (grew : r.Grew after) (afterClosed : after.Closed)
include closed grew afterClosed

theorem resolve_grew {a : Address} (inside : a < r.store.handles.size) :
    after.resolve a = r.resolve a :=
  (((closed.grew grew afterClosed).resolve ⟨rfl,inside⟩).eq fun _ _ same =>
    same.eq r.store.identity_diagonal).symm

theorem resolveWithin_grew (fuel : Nat) {a : Address} (inside : a < r.store.handles.size) :
    after.resolveWithin fuel a = r.resolveWithin fuel a :=
  (((closed.grew grew afterClosed).resolveWithin fuel ⟨rfl,inside⟩).eq fun _ _ same =>
    same.eq r.store.identity_diagonal).symm

theorem rootSpot_grew {scope : Address} (inside : scope < r.store.scopes.size) (root : Root) :
    after.rootSpot scope root = r.rootSpot scope root :=
  (((closed.grew grew afterClosed).rootSpot ⟨rfl,inside⟩ root).eq fun _ _ same =>
    same.eq r.store.identity_diagonal).symm

theorem walk_grew {spot : Spot} (present : spot.Alike r.store.identity spot) (keys : List Segment) :
    spot.walk after.resolve after.store keys = spot.walk r.resolve r.store keys := by
  have alike := closed.grew grew afterClosed
  exact ((present.walk (fun _ _ => alike.resolve) alike.store keys).eq fun _ _ same =>
    same.eq r.store.identity_diagonal).symm

theorem follow_grew {spot : Spot} (present : spot.Alike r.store.identity spot) :
    spot.follow after.resolve = spot.follow r.resolve := by
  have alike := closed.grew grew afterClosed
  exact ((present.follow fun _ _ => alike.resolve).eq fun _ _ same =>
    same.eq r.store.identity_diagonal).symm

end Reading

theorem Grew.handleAt {r after : Runtime} (grew : r.Grew after) {a : Address}
    (inside : a < r.store.handles.size) : after.store.handleAt a = r.store.handleAt a :=
  Object.handle.inj (grew.store .handle a inside).2

/-- A handle that leads anywhere is one of the store. -/
theorem handle_inside {r : Runtime} {a : Address} {handle : Handle}
    (here : r.store.handleAt a = handle) (leads : handle ≠ .cell .null "") :
    a < r.store.handles.size := by
  refine Nat.lt_of_not_le fun outside => leads ?_
  exact here.symm.trans (r.handleAt_outside outside)

end Runtime
end PageRuntime
