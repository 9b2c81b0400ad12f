import PageRuntime.Proofs.Closed
import PageRuntime.Proofs.TidyBatch

/-! What a batch of actions places. If nothing that can change lies at two places among the data
roots, and no scope has its own bindings there, a batch leaves it so, and nothing that can change
lies there but what lay there before and what has come since. What the actions carry is neither. -/
namespace PageRuntime
namespace Runtime

/-- No scope has its own bindings among the data roots. -/
def Detached (r : Runtime) : Prop :=
  ∀ scope, scope < r.store.scopes.size → ¬ r.Placed (.dict (r.store.scopeAt scope).specials)

section Start

variable {r : Runtime} (closed : r.Closed)
include closed

theorem Closed.shown {v : Value} (shown : r.layout.Shows v) : v.Present r.store := by
  cases shown with
  | top member =>
    obtain ⟨pair,held,rfl⟩ := List.mem_map.mp (List.mem_filter.mp member).1
    exact (List.forall₂_same.mp closed.roots pair held).2
  | under _ member => exact closed.members (List.mem_filter.mp member).1

/-- Tuples of a closed runtime are of its store, and so are the bindings of its scopes. -/
theorem Closed.fenced (some : 0 < r.store.dicts.size) : r.store.Fenced := by
  have outside {scope : Address} (beyond : ¬ scope < r.store.scopes.size) :
      r.store.scopes.get? scope = none := r.store.scopes.get?_outside (Nat.le_of_not_lt beyond)
  refine ⟨fun v a member => ?_,fun scope a held => ?_,fun scope => ?_⟩
  · exact (closed.members member).inside .tuple a rfl
  · by_cases inside : scope < r.store.scopes.size
    · have present := (closed.store.scopeAt ⟨rfl,inside⟩).data
      rw [held] at present
      exact Value.Present.inside present .tuple a rfl
    · rw [Store.scopeAt,outside inside] at held
      cases held
  · by_cases inside : scope < r.store.scopes.size
    · exact (closed.store.scopeAt ⟨rfl,inside⟩).specials.2
    · rw [Store.scopeAt,outside inside]
      exact some

/-- The scope that a batch runs in has bindings of its own, which nothing holds yet. -/
theorem Closed.tidy_makeRoot (once : r.PlacedOnce) (detached : r.Detached) :
    r.Tidy [] (Scope.makeRoot r).2 := by
  have grew : r.Grew (Scope.makeRoot r).2 := Scope.makeRoot_onlyGrows r
  have adds := (r.store.newDict []).2.newScope_adds
    ⟨none,.null,r.store.dicts.size,false,some "root",[],none,.null,.none⟩
  have scopes : (Scope.makeRoot r).2.store.scopes.size = r.store.scopes.size + 1 := adds.size
  have last : ((Scope.makeRoot r).2.store.scopeAt r.store.scopes.size).specials = r.store.dicts.size :=
    congrArg Scope.specials (Object.scope.inj adds.object)
  have less : ∀ h, r.layout.Open h →
      (((Scope.makeRoot r).2.besides []).held h).Subperm (r.layout.held h)
    | none, _ => by
      simp only [Layout.held,besides,layout,Store.layout,List.append_nil,grew.roots]
      exact .refl _
    | some v, shown => by
      simp only [Layout.held,besides,layout,Store.layout,Store.parts,
        grew.store.members (closed.shown shown).inside]
      exact .refl _
  have shows {v : Value} (shown : ((Scope.makeRoot r).2.besides []).Shows v) : r.layout.Shows v :=
    Layout.shows_of_less less shown
  refine ⟨grew.store.sizeOf_le,closed.makeRoot.fenced ?_,fun v shown shelf a here => ?_,
    .of_less less once.apart,fun v shown _ => .inl (shows shown),fun scope inside shown => ?_⟩
  · exact Nat.lt_of_lt_of_le (Nat.zero_lt_succ _)
      (Nat.le_of_eq (r.store.newDict_adds []).size.symm)
  · exact (grew.store shelf a ((closed.shown (shows shown)).inside shelf a here)).1
  · have shown := shows shown
    rw [scopes] at inside
    obtain earlier | rfl := Nat.lt_succ_iff_lt_or_eq.mp inside
    · have same := Object.scope.inj (grew.store .scope scope earlier).2
      rw [same] at shown
      exact detached scope earlier ((placed_iff rfl).mpr shown)
    · rw [last] at shown
      exact Nat.lt_irrefl _ ((closed.shown shown).inside .dict _ rfl)

end Start

end Runtime

namespace ActionBatch

variable {η : Type}

/-- Whatever a batch carries and however it ends, nothing that can change comes to lie at two places
among the data roots, and nothing that could come with the batch comes to lie there. -/
theorem process_placedOnce {host : Host η} (parser : host.ParserSpreads) {w : World η}
    (closed : w.runtime.Closed) (unmounted : w.runtime.registry.entries = [])
    (once : w.runtime.PlacedOnce) (detached : w.runtime.Detached) (actions : Value)
    (captureOnly : Bool) :
    let after := (process host actions captureOnly w).2.runtime
    after.PlacedOnce ∧ after.Detached ∧ ∀ v, v.isMutable = true → after.Placed v →
      w.runtime.Placed v ∨ w.runtime.Lacks v := by
  have ends {after : Runtime} (tidy : w.runtime.Tidy [] after) :
      after.PlacedOnce ∧ after.Detached ∧ ∀ v, v.isMutable = true → after.Placed v →
        w.runtime.Placed v ∨ w.runtime.Lacks v := by
    have same : after.besides [] = after.layout := by
      simp only [Runtime.besides,Runtime.layout,List.append_nil]
    refine ⟨.of_apart (same ▸ tidy.apart),fun scope inside placed => ?_,fun v mutable placed => ?_⟩
    · exact tidy.unbound scope inside (same ▸ (Runtime.placed_iff rfl).mp placed)
    · have container := Value.isContainer_of_isMutable mutable
      refine (tidy.earlier v (same ▸ (Runtime.placed_iff container).mp placed) mutable).imp_left ?_
      exact (Runtime.placed_iff container).mpr
  dsimp only
  unfold process
  split
  · refine ⟨once,detached,fun v _ placed => .inl placed⟩
  · have calm : World.Calm w.runtime ((Scope.makeRoot : Run η Address) w).2 :=
      ⟨closed.tidy_makeRoot once detached,unmounted⟩
    have made : (Scope.makeRoot : Run η Address) w =
        (.done w.runtime.store.scopes.size,((Scope.makeRoot : Run η Address) w).2) := rfl
    rw [Step.bind_done made]
    exact ends (World.StaysCalm.batch parser _ captureOnly actions _ calm).tidy

/-- The record of an action that brings data to a location. -/
def bringing (selector setop : String) (data : Value) : Dict :=
  [("type",.str "setdata"),("selector",.str selector),("setop",.str setop),("data",data)].foldl
    (fun d field => Dict.put d field.1 field.2) []

theorem bringing_present (selector setop : String) {s : Store} {data : Value}
    (present : data.Present s) :
    Dict.Alike s.identity (bringing selector setop data) (bringing selector setop data) :=
  .cons ⟨Key.text_alike _ _,.str _,.str _⟩ (.cons ⟨Key.text_alike _ _,.str _,.str _⟩
    (.cons ⟨Key.text_alike _ _,.str _,.str _⟩ (.cons ⟨Key.text_alike _ _,.str _,present⟩ .nil)))

theorem entry_present (name : String) {s : Store} {v : Value} (present : v.Present s) {rest : Dict}
    (others : rest.Alike s.identity rest) :
    Dict.Alike s.identity (⟨.text name,.str name,v⟩ :: rest) (⟨.text name,.str name,v⟩ :: rest) :=
  .cons ⟨Key.text_alike _ name,.str name,present⟩ others

/-- A page whose state holds a list, and an action that brings that very list to another place. -/
def borrowing : World Unit where
  runtime :=
    let listed := { Page.initial with store := (Page.initial.store.newList [.int 1]).2 }
    let state : Dict := [⟨.text "m",.str "m",.list 0⟩]
    let held := { listed with store := (listed.store.newDict state).2 }.setRoot "state" (.dict 2)
    let record := bringing "$state.x" "set" (.list 0)
    let given := { held with store := (held.store.newDict record).2 }
    (Scope.makeRoot { given with store := (given.store.newList [.dict 3]).2 }).2
  host := ()

theorem borrowing_closed : borrowing.runtime.Closed := by
  have listed := Runtime.Closed.initial.newList (.cons (.int 1) .nil)
  have held := (listed.newDict (entry_present "m" (.list ⟨rfl,Nat.zero_lt_one⟩) .nil)).setRoot "state"
    (.dict ⟨rfl,Nat.lt_succ_self 2⟩)
  have given := held.newDict (bringing_present "$state.x" "set" (.list ⟨rfl,Nat.zero_lt_one⟩))
  exact (given.newList (.cons (.dict ⟨rfl,Nat.lt_succ_self 3⟩) .nil)).makeRoot

/-- The page comes to hold a copy of its list beside the list. -/
theorem process_placedOnce_borrowing :
    let after := (process Host.idle (.list 1) false borrowing).2.runtime
    after.valueAt? [0,1] = some (.list 0) ∧ after.valueAt? [1,1] = some (.list 2) ∧
      after.PlacedOnce ∧ after.Detached ∧ ∀ v, v.isMutable = true → after.Placed v →
        borrowing.runtime.Placed v ∨ borrowing.runtime.Lacks v := by
  have ended : borrowing.runtime.places 4 = [] := by decide +kernel
  have once : borrowing.runtime.PlacedOnce := .of_places ended (by decide +kernel)
  have detached : borrowing.runtime.Detached := by
    intro scope inside
    obtain rfl : scope = 0 := Nat.lt_one_iff.mp inside
    exact Runtime.not_placed_of_places ended (by decide +kernel)
  refine ⟨by decide +kernel,by decide +kernel,?_⟩
  have parser : (Host.idle (η := Unit)).ParserSpreads := fun _ given => by cases given
  exact process_placedOnce parser borrowing_closed rfl once detached (.list 1) false

/-- A scope that has bindings and nothing else. -/
def bindingScope (parent : Option Address) (specials : Address) : Scope :=
  ⟨parent,.null,specials,false,none,[],none,.null,.none⟩

theorem bindingScope_present {s : Store} {parent : Option Address} {specials : Address}
    (above : Option.Rel (s.identity .scope) parent parent) (inside : specials < s.dicts.size) :
    (bindingScope parent specials).Alike s.identity (bindingScope parent specials) :=
  ⟨above,.null,⟨rfl,inside⟩,rfl,rfl,.nil,rfl,.null,rfl⟩

/-- A page with a scope that binds a list with a dictionary, and a scope below it. The state holds
the dictionary, the bindings of the lower scope, and a reference to the list seen from there. -/
def inheriting : World Unit where
  runtime :=
    let page := Page.initial
    let page := { page with store := (page.store.newDict [⟨.text "n",.str "n",.int 1⟩]).2 }
    let page := { page with store := (page.store.newList [.dict 2]).2 }
    let page := { page with store := (page.store.newDict [⟨.text "x",.str "x",.list 0⟩]).2 }
    let page := { page with store := (page.store.newScope (bindingScope none 3)).2 }
    let page := { page with store := (page.store.newDict []).2 }
    let page := { page with store := (page.store.newScope (bindingScope (some 0) 4)).2 }
    let page := { page with
      store := (page.store.newHandle (.path 1 ⟨⟨.context,0⟩,[.field "x"]⟩ false)).2 }
    let state : Dict := [⟨.text "m",.str "m",.dict 2⟩,⟨.text "d",.str "d",.dict 4⟩,
      ⟨.text "r",.str "r",.ref 0⟩]
    let page := { page with store := (page.store.newDict state).2 }.setRoot "state" (.dict 5)
    let page := { page with
      store := (page.store.newDict (bringing "$state.r" "append" (.int 1))).2 }
    { page with store := (page.store.newList [.dict 6]).2 }
  host := ()

theorem inheriting_closed : inheriting.runtime.Closed := by
  have page := Runtime.Closed.initial.newDict (entry_present "n" (.int 1) .nil)
  have page := page.newList (.cons (.dict ⟨rfl,Nat.lt_succ_self 2⟩) .nil)
  have page := page.newDict (entry_present "x" (.list ⟨rfl,Nat.zero_lt_one⟩) .nil)
  have page := page.newScope (fun _ above => by cases above)
    (bindingScope_present .none (Nat.lt_succ_self 3))
  have page := page.newDict .nil
  have page := page.newScope (fun _ above => by cases above; exact Nat.zero_lt_one)
    (bindingScope_present (.some ⟨rfl,Nat.zero_lt_one⟩) (Nat.lt_succ_self 4))
  have page := page.newHandle (.path ⟨rfl,Nat.lt_succ_self 1⟩ ⟨⟨.context,0⟩,[.field "x"]⟩ false)
  have page := page.newDict (entry_present "m" (.dict ⟨rfl,(by decide : 2 < 5)⟩)
    (entry_present "d" (.dict ⟨rfl,Nat.lt_succ_self 4⟩)
      (entry_present "r" (.ref ⟨rfl,Nat.zero_lt_one⟩) .nil)))
  have page := page.setRoot "state" (.dict ⟨rfl,Nat.lt_succ_self 5⟩)
  have page := page.newDict (bringing_present "$state.r" "append" (.int 1))
  exact page.newList (.cons (.dict ⟨rfl,Nat.lt_succ_self 6⟩) .nil)

/-- An item is added to the list. The new list becomes a binding of the lower scope, and with it the
dictionary lies in the state twice. -/
theorem process_inheriting : inheriting.runtime.Closed ∧ inheriting.runtime.registry.entries = [] ∧
    inheriting.runtime.PlacedOnce ∧
      ¬ (process Host.idle (.list 1) false inheriting).2.runtime.PlacedOnce := by
  have ended : inheriting.runtime.places 4 = [] := by decide +kernel
  refine ⟨inheriting_closed,rfl,.of_places ended (by decide +kernel),fun once => ?_⟩
  have twice := once (.dict 2) [0,1] [0,0,1,1] rfl (by decide +kernel) (by decide +kernel)
  exact absurd twice (by decide)

end ActionBatch
end PageRuntime
