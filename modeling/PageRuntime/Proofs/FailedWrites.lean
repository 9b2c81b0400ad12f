import PageRuntime.Proofs.FailedActions

/-! Failing writes to a location, by a path or through a handle. They change nothing that was there
unless a handle is retargeted on the way, which takes a handle that leads to nothing. -/
namespace PageRuntime

namespace Runtime

/-- Every handle leads to something, in whichever way a write looks for it. -/
def Attached (r : Runtime) : Prop :=
  ∀ reads, Looks reads → ∀ a, a < r.store.handles.size → reads r a ≠ .ok .null

theorem Attached.not_retargets {r after : Runtime} (attached : r.Attached) :
    ¬ r.Retargets after := by
  rintro ⟨looks,-,-,inside,missing,-⟩
  exact attached _ looks _ inside missing

end Runtime

namespace Reference.Target

/-- The handle, or the scope that the path is seen from, is one of the store. -/
def Inside (s : Store) : Target → Prop
  | handle a => a < s.handles.size
  | place scope _ => scope < s.scopes.size

/-- A write that raises has changed no object and no root, special or setting just if it has
retargeted no handle; it cannot have if every handle leads to something. -/
theorem set_failed {r after : Runtime} (closed : r.Closed) {target : Target}
    (inside : target.Inside r.store) {v : Value} (present : v.Present r.store) {failure : Address}
    (ran : target.set v r = (.raised failure,after)) :
    (r.Grew after ↔ ¬ r.Retargets after) ∧ (r.Attached → r.Grew after) := by
  have fell : r.Fell after := by
    cases target with
    | handle a =>
      rw [set,Reference.set,Step.bind_done (Act.store_run r)] at ran
      exact setWithin_steady _ r r a v closed.extends inside present failure after ran
    | place scope path => exact set_fell closed.extends ⟨rfl,inside⟩ present ran
  have unchanged := fell.grew_iff closed
  exact ⟨unchanged,fun attached => unchanged.mpr attached.not_retargets⟩

/-- A page whose state holds a number and a reference to it. -/
def pointed : Runtime :=
  let rooted := (Scope.makeRoot Page.initial).2
  let handled := { rooted with
    store := (rooted.store.newHandle (.path 0 ⟨⟨.state,0⟩,[.field "n"]⟩ false)).2 }
  let entries : Dict := [⟨.text "n",.str "n",.int 5⟩,⟨.text "r",.str "r",.ref 0⟩]
  { handled with store := (handled.store.newDict entries).2 }.setRoot "state" (.dict 3)

theorem pointed_closed : pointed.Closed := by
  have rooted := Runtime.Closed.initial.makeRoot
  have handled := rooted.newHandle (.path ⟨rfl,Nat.zero_lt_one⟩ ⟨⟨.state,0⟩,[.field "n"]⟩ false)
  have held := handled.newDict (d := [⟨.text "n",.str "n",.int 5⟩,⟨.text "r",.str "r",.ref 0⟩])
    (.cons ⟨Key.text_alike _ "n",.str "n",.int 5⟩
      (.cons ⟨Key.text_alike _ "r",.str "r",.ref ⟨rfl,Nat.zero_lt_one⟩⟩ .nil))
  exact held.setRoot "state" (.dict ⟨rfl,Nat.lt_succ_self 3⟩)

theorem pointed_attached : pointed.Attached := by
  intro reads looks a inside
  obtain rfl : a = 0 := Nat.lt_one_iff.mp inside
  cases looks with
  | resolve =>
    rw [show pointed.resolve 0 = .ok (.value (.int 5)) from rfl]
    exact nofun
  | read =>
    rw [show pointed.readReference 0 = .ok (.value (.int 5)) from rfl]
    exact nofun

def belowNumber : Target := .place 0 ⟨⟨.state,0⟩,[.field "r",.field "x"]⟩

theorem set_failed_pointed : ∃ failure after,
    belowNumber.set (.int 1) pointed = (.raised failure,after) ∧ pointed.Grew after := by
  have ran : belowNumber.set (.int 1) pointed =
      (.raised 0,(belowNumber.set (.int 1) pointed).2) := rfl
  have inside : belowNumber.Inside pointed.store := Nat.zero_lt_one
  obtain ⟨-,grew⟩ := set_failed pointed_closed inside (.int 1) ran
  exact ⟨0,_,ran,grew pointed_attached⟩

def belowLast : Target := .place 0 ⟨⟨.state,0⟩,[.field "q",.field "z"]⟩

/-- No reference leads back to itself, yet the list is longer once the write has failed. -/
theorem set_changes_retargeting : ∃ failure after,
    ActionBatch.retargeting.runtime.resolve 0 = .ok .null ∧
      ActionBatch.retargeting.runtime.resolve 1 = .ok .null ∧
      belowLast.set (.int 1) ActionBatch.retargeting.runtime = (.raised failure,after) ∧
      ActionBatch.retargeting.runtime.store.listAt 0 = [.ref 0,.int 5] ∧
      (after.store.listAt 0).length = 3 ∧ ¬ ActionBatch.retargeting.runtime.Grew after := by
  let after := (belowLast.set (.int 1) ActionBatch.retargeting.runtime).2
  have longer : (after.store.listAt 0).length = 3 := by decide +kernel
  refine ⟨0,after,rfl,rfl,rfl,rfl,longer,fun grew => ?_⟩
  have same : after.store.listAt 0 = ActionBatch.retargeting.runtime.store.listAt 0 :=
    Object.items.inj (grew.store .list 0 Nat.zero_lt_one).2
  rw [same] at longer
  cases longer

end Reference.Target
end PageRuntime
