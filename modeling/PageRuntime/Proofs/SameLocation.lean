import PageRuntime.Page
import PageRuntime.Proofs.Nesting
import PageRuntime.Proofs.Resolution
import PageRuntime.Proofs.WriteSteps

/-! Handles that name one location. Whether two handles do is told from their form alone: equal paths,
seen from one scope wherever the scope matters, and equal accessors below handles that again name one
location. Such handles refer to the same in every state, and without a lock a write through the one
does what a write through the other does. -/
namespace PageRuntime

/-- A handle without what a cell holds, which is all that ever changes about a handle. -/
def Handle.form : Handle → Handle
  | .cell _ label => .cell .null label
  | handle => handle

namespace Store

/-- The handles name one location. A wrapper that locks is looked through on the right only where
there is one on the left. -/
inductive Coincides (s : Store) : Address → Address → Prop
  | same (a : Address) : Coincides s a a
  | path {a b scope other : Address} {path : Path} {locked otherLocked : Bool}
    (left : s.handleAt a = .path scope path locked)
    (right : s.handleAt b = .path other path otherLocked)
    (view : path.root.kind.dataRoot?.isSome = true ∨ scope = other) : Coincides s a b
  | sub {a b parent otherParent : Address} {key : Segment} (left : s.handleAt a = .sub parent key)
    (right : s.handleAt b = .sub otherParent key) (above : Coincides s parent otherParent) :
    Coincides s a b
  | locked {a b inner : Address} (left : s.handleAt a = .locked inner) (below : Coincides s inner b) :
    Coincides s a b
  | bothLocked {a b inner otherInner : Address} (left : s.handleAt a = .locked inner)
    (right : s.handleAt b = .locked otherInner) (below : Coincides s inner otherInner) :
    Coincides s a b

/-- A wrapper that may only be read is part of the handle, or a path that is flagged as such. -/
inductive Guarded (s : Store) : Address → Prop
  | flagged {a scope : Address} {path : Path} (here : s.handleAt a = .path scope path true) :
    Guarded s a
  | wrapped {a inner : Address} (here : s.handleAt a = .locked inner) : Guarded s a
  | above {a parent : Address} {key : Segment} (here : s.handleAt a = .sub parent key)
    (guarded : Guarded s parent) : Guarded s a

/-- The handle that a handle is made on, if it is made on one. -/
def madeOn (s : Store) (a : Address) : List Address :=
  match s.handleAt a with
  | .sub parent _ => [parent]
  | .locked inner => [inner]
  | _ => []

/-- In what the handles are made on, wrappers stand at the same places. -/
inductive WrappedAlike (s : Store) : Address → Address → Prop
  | same (a : Address) : WrappedAlike s a a
  | bare {a b : Address} (left : s.madeOn a = []) (right : s.madeOn b = []) : WrappedAlike s a b
  | sub {a b parent otherParent : Address} {key otherKey : Segment}
    (left : s.handleAt a = .sub parent key) (right : s.handleAt b = .sub otherParent otherKey)
    (above : WrappedAlike s parent otherParent) : WrappedAlike s a b
  | locked {a b inner otherInner : Address} (left : s.handleAt a = .locked inner)
    (right : s.handleAt b = .locked otherInner) (below : WrappedAlike s inner otherInner) :
    WrappedAlike s a b

/-- Every handle is still there in the form it had. Cells may hold something else, and there may be
other handles. -/
def KeepsForms (s after : Store) : Prop :=
  ∀ a, a < s.handles.size → (after.handleAt a).form = (s.handleAt a).form

variable {s after : Store} {a b : Address}

theorem sameLocationWithin_self (fuel : Nat) (a : Address) : s.sameLocationWithin fuel a a = true := by
  induction fuel generalizing a with
  | zero => simp [sameLocationWithin]
  | succ fuel ih =>
    unfold sameLocationWithin
    cases s.handleAt a <;> simp [ih]

theorem coincides_of_sameLocationWithin : ∀ {fuel : Nat} {a b : Address},
    s.sameLocationWithin fuel a b = true → s.Coincides a b
  | 0,a,b,same => by
    obtain rfl : a = b := by simpa [sameLocationWithin] using same
    exact .same a
  | fuel + 1,a,b,same => by
    unfold sameLocationWithin at same
    split at same
    · next scope path locked left =>
      obtain same | same := Bool.or_eq_true_iff.mp same
      · obtain rfl : a = b := by simpa using same
        exact .same a
      · split at same
        · next other otherPath otherLocked right =>
          obtain ⟨equal,view⟩ := Bool.and_eq_true_iff.mp same
          obtain rfl : path = otherPath := by simpa using equal
          exact .path left right (by simpa using view)
        · cases same
    · next parent key left =>
      obtain same | same := Bool.or_eq_true_iff.mp same
      · obtain rfl : a = b := by simpa using same
        exact .same a
      · split at same
        · next otherParent otherKey right =>
          obtain ⟨equal,above⟩ := Bool.and_eq_true_iff.mp same
          obtain rfl : key = otherKey := by simpa using equal
          exact .sub left right (coincides_of_sameLocationWithin above)
        · cases same
    · next inner left =>
      split at same
      · next otherInner right => exact .bothLocked left right (coincides_of_sameLocationWithin same)
      · exact .locked left (coincides_of_sameLocationWithin same)
    · obtain rfl : a = b := by simpa using same
      exact .same a

theorem coincides_of_sameLocation (same : s.sameLocation a b = true) : s.Coincides a b :=
  coincides_of_sameLocationWithin same

namespace Coincides

/-- A wrapper on the right can be looked through. -/
theorem unlocked (here : s.Coincides a b) {inner : Address} (locked : s.handleAt b = .locked inner) :
    s.Coincides a inner := by
  induction here with
  | same a => exact .locked locked (.same inner)
  | path left right view => rw [right] at locked; cases locked
  | sub left right above => rw [right] at locked; cases locked
  | locked left below ih => exact .locked left (ih locked)
  | bothLocked left right below =>
    rw [right] at locked
    cases locked
    exact .locked left below

theorem trans {c : Address} (first : s.Coincides a b) (second : s.Coincides b c) :
    s.Coincides a c := by
  induction first generalizing c with
  | same a => exact second
  | path left right view =>
    cases second with
    | same => exact .path left right view
    | path left' right' view' =>
      rw [right] at left'
      cases left'
      refine .path left right' ?_
      obtain data | rfl := view
      · exact .inl data
      · exact view'
    | sub left' | locked left' | bothLocked left' => rw [right] at left'; cases left'
  | sub left right above ih =>
    cases second with
    | same => exact .sub left right above
    | sub left' right' above' =>
      rw [right] at left'
      cases left'
      exact .sub left right' (ih above')
    | path left' | locked left' | bothLocked left' => rw [right] at left'; cases left'
  | locked left below ih => exact .locked left (ih second)
  | bothLocked left right below ih =>
    cases second with
    | same => exact .bothLocked left right below
    | locked left' below' =>
      rw [right] at left'
      cases left'
      exact .locked left (ih below')
    | bothLocked left' right' below' =>
      rw [right] at left'
      cases left'
      exact .bothLocked left right' (ih below')
    | path left' | sub left' => rw [right] at left'; cases left'

end Coincides

/-- The test finds every location that is the same, if it is given as much fuel as the left handle is
made of handles. -/
theorem sameLocationWithin_of_coincides {fuel : Nat} {a b : Address}
    (nests : NestsWithin s.madeOn fuel a) (here : s.Coincides a b) :
    s.sameLocationWithin fuel a b = true := by
  induction fuel generalizing a b with
  | zero => cases nests
  | succ fuel ih =>
    have inner {c : Address} (on : c ∈ s.madeOn a) {d : Address} (below : s.Coincides c d) :
        s.sameLocationWithin fuel c d = true := ih (nests c on) below
    cases here with
    | same => exact sameLocationWithin_self _ a
    | path left right view =>
      unfold sameLocationWithin
      simp only [left,right]
      simpa using .inr view
    | sub left right above =>
      unfold sameLocationWithin
      simp only [left,right]
      simp [inner (by simp [madeOn,left]) above]
    | locked left below =>
      unfold sameLocationWithin
      simp only [left]
      split
      · next otherInner right => exact inner (by simp [madeOn,left]) (below.unlocked right)
      · exact inner (by simp [madeOn,left]) below
    | bothLocked left right below =>
      unfold sameLocationWithin
      simp only [left,right]
      exact inner (by simp [madeOn,left]) below

theorem WrappedAlike.inner {c d : Address} (alike : s.WrappedAlike a b) (differ : a ≠ b)
    (on : s.madeOn a = [c]) (otherOn : s.madeOn b = [d]) : s.WrappedAlike c d := by
  cases alike with
  | same => exact absurd rfl differ
  | bare none => rw [none] at on; cases on
  | sub left right above =>
    simp only [madeOn,left,right] at on otherOn
    cases on
    cases otherOn
    exact above
  | locked left right below =>
    simp only [madeOn,left,right] at on otherOn
    cases on
    cases otherOn
    exact below

/-- The test turned around finds the same exactly where wrappers stand at the same places. -/
theorem sameLocationWithin_turned {fuel : Nat} {a b : Address}
    (same : s.sameLocationWithin fuel a b = true) :
    s.sameLocationWithin fuel b a = true ↔ s.WrappedAlike a b := by
  induction fuel generalizing a b with
  | zero =>
    obtain rfl : a = b := by simpa [sameLocationWithin] using same
    exact ⟨fun _ => .same a,fun _ => same⟩
  | succ fuel ih =>
    by_cases differ : a = b
    · subst differ
      exact ⟨fun _ => .same a,fun _ => same⟩
    have unequal : (a == b) = false := beq_eq_false_iff_ne.mpr differ
    have unequalTurned : (b == a) = false := beq_eq_false_iff_ne.mpr (Ne.symm differ)
    unfold sameLocationWithin at same ⊢
    cases left : s.handleAt a with
    | path scope path flag =>
      cases right : s.handleAt b with
      | path other otherPath otherFlag =>
        simp only [left,right,unequal,unequalTurned,Bool.false_or,Bool.and_eq_true,beq_iff_eq,
          Bool.or_eq_true] at same ⊢
        obtain ⟨rfl,view⟩ := same
        exact ⟨fun _ => .bare (by simp [madeOn,left]) (by simp [madeOn,right]),
          fun _ => ⟨rfl,view.imp_right Eq.symm⟩⟩
      | _ => simp [left,right,unequal] at same
    | sub parent key =>
      cases right : s.handleAt b with
      | sub otherParent otherKey =>
        simp only [left,right,unequal,unequalTurned,Bool.false_or,Bool.and_eq_true,beq_iff_eq] at same ⊢
        obtain ⟨rfl,same⟩ := same
        rw [ih same]
        exact ⟨fun alike => .sub left right alike.2,fun alike =>
          ⟨rfl,alike.inner differ (by simp [madeOn,left]) (by simp [madeOn,right])⟩⟩
      | _ => simp [left,right,unequal] at same
    | locked inner =>
      have unlike (core : ∀ otherInner, s.handleAt b ≠ .locked otherInner) : ¬ s.WrappedAlike a b := by
        intro alike
        cases alike with
        | same => exact differ rfl
        | bare none => simp [madeOn,left] at none
        | sub left' => rw [left] at left'; cases left'
        | locked _ right' => exact core _ right'
      cases right : s.handleAt b with
      | locked otherInner =>
        simp only [left,right] at same ⊢
        rw [ih same]
        exact ⟨fun alike => .locked left right alike,fun alike =>
          alike.inner differ (by simp [madeOn,left]) (by simp [madeOn,right])⟩
      | _ => simpa [left,right,unequalTurned] using unlike (by simp [right])
    | cell held label => simp [left,unequal] at same

namespace KeepsForms

variable (keeps : s.KeepsForms after)
include keeps

theorem of_not_cell {handle : Handle} (here : s.handleAt a = handle)
    (other : ∀ v label, handle ≠ .cell v label) : after.handleAt a = handle := by
  have inside : a < s.handles.size := by
    by_contra outside
    exact other _ _ (here.symm.trans (s.handleAt_outside (Nat.le_of_not_lt outside)))
  have same := keeps a inside
  rw [here] at same
  cases there : after.handleAt a <;> cases handle <;> simp_all [Handle.form]

theorem coincides (here : s.Coincides a b) : after.Coincides a b := by
  induction here with
  | same a => exact .same a
  | path left right view =>
    exact .path (keeps.of_not_cell left nofun) (keeps.of_not_cell right nofun) view
  | sub left right _ ih =>
    exact .sub (keeps.of_not_cell left nofun) (keeps.of_not_cell right nofun) ih
  | locked left _ ih => exact .locked (keeps.of_not_cell left nofun) ih
  | bothLocked left right _ ih =>
    exact .bothLocked (keeps.of_not_cell left nofun) (keeps.of_not_cell right nofun) ih

end KeepsForms
end Store

namespace Runtime

/-- A data root is the same from wherever it is seen. -/
theorem rootSpot_everywhere {root : Root} (data : root.kind.dataRoot?.isSome = true) (r : Runtime)
    (scope other : Address) : r.rootSpot scope root = r.rootSpot other root := by
  unfold rootSpot
  split
  · rfl
  · cases kind : root.kind <;> rw [kind] at data <;> first | rfl | cases data

theorem rootSpot_view {path : Path} {scope other : Address}
    (view : path.root.kind.dataRoot?.isSome = true ∨ scope = other) (r : Runtime) :
    r.rootSpot scope path.root = r.rootSpot other path.root := by
  obtain data | rfl := view
  · exact rootSpot_everywhere data r scope other
  · rfl

variable {r : Runtime} {a b : Address}

theorem readReference_eq (r : Runtime) (a : Address) : r.readReference a =
    match r.store.handleAt a with
    | .cell v _ => .ok (.value v)
    | .locked inner => r.readReference inner
    | _ => r.resolve a := r.readWithin_unrolls.fixed a


end Runtime

namespace Store.Coincides

variable {r : Runtime} {a b : Address}

/-- Handles that name one location refer to the same. -/
theorem resolve (here : r.store.Coincides a b) : r.resolve a = r.resolve b := by
  induction here with
  | same a => rfl
  | path left right view =>
    rw [r.resolve_eq,left,r.resolve_eq,right]
    simp only [Runtime.readHandle,r.rootSpot_view view]
  | sub left right _ ih =>
    rw [r.resolve_eq,left,r.resolve_eq,right]
    simp only [Runtime.readHandle,ih]
  | locked left _ ih =>
    rw [r.resolve_eq,left]
    exact ih
  | bothLocked left right _ ih =>
    rw [r.resolve_eq,left,r.resolve_eq,right]
    exact ih

/-- They give the same when they are asked for their value. -/
theorem readReference (here : r.store.Coincides a b) : r.readReference a = r.readReference b := by
  have settled := here.resolve
  induction here with
  | same a => rfl
  | path left right view | sub left right above =>
    rw [r.readReference_eq,left,r.readReference_eq,right]
    exact settled
  | locked left below ih =>
    rw [r.readReference_eq,left]
    exact ih below.resolve
  | bothLocked left right below ih =>
    rw [r.readReference_eq,left,r.readReference_eq,right]
    exact ih below.resolve

end Store.Coincides

namespace Reference
open Step (Keeps Same)

/-- What handles are like, whatever cells hold. -/
def forms (r : Runtime) (a : Address) : Handle := (r.store.handleAt a).form

theorem supports_forms : Supports (Same forms) where
  fail _ _ := rfl
  record _ _ := rfl
  newList _ := rfl
  newDict _ := rfl
  putList _ _ _ := rfl
  putDict _ _ _ := rfl
  putCell r a held v label here := by
    funext b
    show ((r.store.putHandle a (.cell v label)).handleAt b).form = (r.store.handleAt b).form
    by_cases same : a = b
    · subst same
      by_cases inside : a < r.store.handles.size
      · rw [here,Store.handleAt,Store.putHandle,Table.get?_set_self _ _ inside]
        rfl
      · have outside := Nat.le_of_not_lt inside
        have outsideStill : (r.store.putHandle a (.cell v label)).handles.size ≤ a := by
          rwa [Store.putHandle,Table.size_set]
        rw [r.handleAt_outside outside,
          Store.handleAt_outside _ outsideStill]
    · rw [Store.handleAt,Store.putHandle,Table.get?_set_of_ne _ _ same]
      rfl

theorem setWithin_forms (fuel : Nat) (a : Address) (v : Value) :
    Keeps (Same forms) (setWithin fuel a v) :=
  setWithin_keeps supports_forms (fun _ _ _ _ locked _ _ writes v =>
    setPathValue_keeps supports_forms writes (fun _ _ _ _ _ => rfl) locked v) fuel a v

/-- A write to a path does the same from wherever its root is the same. -/
theorem setPathValue_view {path : Path} {scope other : Address}
    (view : path.root.kind.dataRoot?.isSome = true ∨ scope = other)
    (write : Address → Value → Act Unit) (locked : Bool) (v : Value) :
    setPathValue write scope path locked v = setPathValue write other path locked v := by
  have root : root scope path = root other path := by
    funext r
    show Act.ofExcept (r.rootSpot scope path.root) r = Act.ofExcept (r.rootSpot other path.root) r
    rw [r.rootSpot_view view]
  unfold setPathValue setBelowRoot
  rw [root]

section

variable {write : Address → Value → Act Unit} {parent other : Address} {r : Runtime}
  (reads : ∀ mid, Same forms r mid → mid.readReference parent = mid.readReference other)
  (writes : ∀ made mid, Same forms r mid → write parent made mid = write other made mid)
  (kept : ∀ made, Keeps (Same forms) (write parent made))
include reads writes kept

/-- Handles that are read alike and written alike, as long as handles keep their form, open alike. -/
theorem opened_alike (key : Segment) :
    opened write parent (read parent) key r = opened write other (read other) key r := by
  have readAlike (mid : Runtime) (same : Same forms r mid) : read parent mid = read other mid := by
    show Act.ofExcept (mid.readReference parent) mid = Act.ofExcept (mid.readReference other) mid
    rw [reads mid same]
  unfold opened
  rw [Step.bind_run,Step.bind_run,readAlike r rfl]
  split
  · next found after ran =>
    obtain ⟨-,rfl⟩ := Act.ofExcept_done ran
    split
    · rw [Step.bind_run,Step.bind_run]
      have unchanged := supports_forms.writing.emptyFor key after
      split
      · next made mid ran =>
        rw [ran] at unchanged
        rw [Step.bind_run,Step.bind_run,← writes made mid unchanged]
        have written := kept made mid
        split
        · next last ran =>
          rw [ran] at written
          exact readAlike last (Trans.trans unchanged written)
        · rfl
        · rfl
      · rfl
      · rfl
    · rfl
  · rfl
  · rfl

theorem setBelow_alike (key : Segment) (v : Value) :
    setBelow write parent key v r = setBelow write other key v r := by
  unfold setBelow
  rw [Step.bind_run,Step.bind_run,opened_alike reads writes kept]

end

/-- Without a lock in them, handles that name one location are written alike. -/
theorem setWithin_coincides {s : Store} {a b : Address} (here : s.Coincides a b)
    (free : ¬ s.Guarded a) (freeOther : ¬ s.Guarded b) (fuel : Nat) (v : Value) (r : Runtime)
    (keeps : s.KeepsForms r.store) : setWithin fuel a v r = setWithin fuel b v r := by
  induction here generalizing fuel v r with
  | same a => rfl
  | @path a b scope other path locked otherLocked left right view =>
    cases fuel with
    | zero => rfl
    | succ fuel =>
      obtain rfl : locked = false := Bool.eq_false_iff.mpr fun flagged => free (.flagged (flagged ▸ left))
      obtain rfl : otherLocked = false :=
        Bool.eq_false_iff.mpr fun flagged => freeOther (.flagged (flagged ▸ right))
      rw [setWithin,Step.bind_done (Act.store_run r),setWithin,Step.bind_done (Act.store_run r),
        keeps.of_not_cell left (by rintro _ _ ⟨⟩),keeps.of_not_cell right (by rintro _ _ ⟨⟩)]
      exact congrFun (setPathValue_view view _ false v) r
  | @sub a b parent otherParent key left right above ih =>
    cases fuel with
    | zero => rfl
    | succ fuel =>
      rw [setWithin,Step.bind_done (Act.store_run r),setWithin,Step.bind_done (Act.store_run r),
        keeps.of_not_cell left (by rintro _ _ ⟨⟩),keeps.of_not_cell right (by rintro _ _ ⟨⟩)]
      have still {mid : Runtime} (same : Same forms r mid) : s.KeepsForms mid.store :=
        fun c inside => (congrFun same c).trans (keeps c inside)
      exact setBelow_alike (fun mid same => ((still same).coincides above).readReference)
        (fun made mid same => ih (fun guarded => free (.above left guarded))
          (fun guarded => freeOther (.above right guarded)) fuel made mid (still same))
        (setWithin_forms fuel parent) key v
  | locked left below ih => exact absurd (.wrapped left) free
  | bothLocked left right below ih => exact absurd (.wrapped left) free

/-- In every state that has them, handles that name one location give the same value or fail alike,
and without a lock in them a write through the one leaves what a write through the other leaves,
whichever scopes they are seen from. -/
theorem sameLocation_alike {s : Store} {a b : Address} (same : s.sameLocation a b = true)
    {r : Runtime} (keeps : s.KeepsForms r.store) :
    get a r = get b r ∧
      (¬ s.Guarded a → ¬ s.Guarded b → ∀ v, set a v r = set b v r) := by
  have here := Store.coincides_of_sameLocation same
  constructor
  · show (Act.ofExcept (r.readReference a) >>= Spot.realize) r =
      (Act.ofExcept (r.readReference b) >>= Spot.realize) r
    rw [(keeps.coincides here).readReference]
  · intro free freeOther v
    rw [set,Step.bind_done (Act.store_run r),set,Step.bind_done (Act.store_run r)]
    exact setWithin_coincides here free freeOther _ v r keeps

/-- A page with two scopes and, for each, a handle on what lies below a missing part of the state. -/
def viewedTwice : Runtime :=
  let seen := (Scope.makeRoot (Scope.makeRoot Page.initial).2).2
  let path : Path := ⟨⟨.state,0⟩,[.field "a"]⟩
  let handles : Array Handle := #[.path 0 path false,.path 1 path false,.sub 0 (.field "b"),
    .sub 1 (.field "b")]
  { seen with store := { seen.store with handles := ⟨handles⟩ } }

theorem sameLocation_alike_viewedTwice : viewedTwice.store.sameLocation 2 3 = true ∧
    get 2 viewedTwice = get 3 viewedTwice ∧ ∃ after, set 2 (.int 7) viewedTwice = (.done (),after) ∧
      set 3 (.int 7) viewedTwice = (.done (),after) ∧ get 2 after = (.done (.int 7),after) := by
  have same : viewedTwice.store.sameLocation 2 3 = true := by decide
  have open0 : ¬ viewedTwice.store.Guarded 0 := by
    rintro (⟨flagged⟩ | ⟨wrapped⟩ | ⟨below,-⟩)
    · cases flagged
    · cases wrapped
    · cases below
  have open1 : ¬ viewedTwice.store.Guarded 1 := by
    rintro (⟨flagged⟩ | ⟨wrapped⟩ | ⟨below,-⟩)
    · cases flagged
    · cases wrapped
    · cases below
  have open2 : ¬ viewedTwice.store.Guarded 2 := by
    rintro (⟨flagged⟩ | ⟨wrapped⟩ | ⟨below,guarded⟩)
    · cases flagged
    · cases wrapped
    · cases below
      exact open0 guarded
  have open3 : ¬ viewedTwice.store.Guarded 3 := by
    rintro (⟨flagged⟩ | ⟨wrapped⟩ | ⟨below,guarded⟩)
    · cases flagged
    · cases wrapped
    · cases below
      exact open1 guarded
  obtain ⟨reads,writes⟩ := sameLocation_alike same (r := viewedTwice) fun _ _ => rfl
  exact ⟨same,reads,_,rfl,(writes open2 open3 (.int 7)).symm.trans rfl,rfl⟩

end Reference
end PageRuntime
