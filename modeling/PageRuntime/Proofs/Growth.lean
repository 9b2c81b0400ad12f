import PageRuntime.Proofs.Control
import PageRuntime.Proofs.Objects

/-! Growth. A step that only makes objects and writes the journal leaves every object there was as it
was, and everything outside the store. -/
namespace PageRuntime

/-- Every object is still there as it was; others may have come. -/
def Store.Grew (s after : Store) : Prop :=
  ∀ shelf a, a < s.sizeOf shelf →
    a < after.sizeOf shelf ∧ after.object shelf a = s.object shelf a

namespace Store.Grew

theorem refl (s : Store) : s.Grew s := fun _ _ inside => ⟨inside,rfl⟩

theorem trans {s between after : Store} (first : s.Grew between) (second : between.Grew after) :
    s.Grew after := by
  intro shelf a inside
  obtain ⟨between,same⟩ := first shelf a inside
  obtain ⟨after,still⟩ := second shelf a between
  exact ⟨after,still.trans same⟩

theorem of_adds {s after : Store} {shelf : Shelf} {o : Object} (adds : s.Adds after shelf o) :
    s.Grew after := by
  intro other a inside
  constructor
  · by_cases here : other = shelf
    · subst here
      rw [adds.size]
      omega
    · rwa [adds.sizes other here]
  · refine adds.others other a ?_
    by_cases here : other = shelf
    · subst here
      exact .inr (Nat.ne_of_lt inside)
    · exact .inl here

/-- Objects that have come may be written. -/
theorem put {s mid after : Store} (grew : s.Grew mid) {shelf : Shelf} {a : Address} {o : Object}
    (puts : mid.Puts after shelf a o) (new : s.sizeOf shelf ≤ a) : s.Grew after := by
  intro other b inside
  obtain ⟨still,same⟩ := grew other b inside
  refine ⟨(puts.sizes other).symm ▸ still,(puts.others other b ?_).trans same⟩
  by_cases here : other = shelf
  · subst here
    exact .inr (Nat.ne_of_lt (Nat.lt_of_lt_of_le inside new))
  · exact .inl here

theorem sizeOf_le {s after : Store} (grew : s.Grew after) (shelf : Shelf) :
    s.sizeOf shelf ≤ after.sizeOf shelf := by
  cases size : s.sizeOf shelf with
  | zero => exact Nat.zero_le _
  | succ n => exact (grew shelf n (by omega)).1

instance : Std.Refl Grew := ⟨refl⟩

instance : Trans Grew Grew Grew := ⟨trans⟩

theorem makes : Makes Grew :=
  ⟨fun s _ => .of_adds (s.newList_adds _),fun s _ => .of_adds (s.newTuple_adds _),
    fun s _ => .of_adds (s.newDict_adds _),fun s _ => .of_adds (s.newBlob_adds _)⟩

end Store.Grew

namespace Runtime

/-- A runtime without its objects and its journal. -/
def frame (r : Runtime) : Runtime := { r with store := .empty, journal := #[] }

/-- Nothing has changed but that objects were made and the journal written. -/
structure Grew (r after : Runtime) : Prop where
  store : r.store.Grew after.store
  frame : after.frame = r.frame

namespace Grew

theorem refl (r : Runtime) : r.Grew r := ⟨.refl _,rfl⟩

theorem trans {r between after : Runtime} (first : r.Grew between) (second : between.Grew after) :
    r.Grew after := ⟨first.store.trans second.store,second.frame.trans first.frame⟩

instance : Std.Refl Grew := ⟨refl⟩

instance : Trans Grew Grew Grew := ⟨trans⟩

variable {r after : Runtime} (grew : r.Grew after)
include grew

theorem roots : after.roots = r.roots :=
  show after.frame.roots = r.frame.roots by rw [grew.frame]

theorem lockedRoots : after.lockedRoots = r.lockedRoots :=
  show after.frame.lockedRoots = r.frame.lockedRoots by rw [grew.frame]

theorem alive : after.alive = r.alive :=
  show after.frame.alive = r.frame.alive by rw [grew.frame]

theorem document : after.document = r.document :=
  show after.frame.document = r.frame.document by rw [grew.frame]

theorem registry : after.registry = r.registry :=
  show after.frame.registry = r.frame.registry by rw [grew.frame]

theorem rootValue? (name : String) : after.rootValue? name = r.rootValue? name := by
  unfold Runtime.rootValue?
  rw [grew.roots]

theorem isLocked (name : String) : after.isLocked name = r.isLocked name := by
  unfold Runtime.isLocked
  rw [grew.lockedRoots]

end Grew
end Runtime

/-- The step makes objects and writes the journal, and does nothing else. -/
def Act.OnlyGrows {α : Type} (act : Act α) : Prop := Step.Keeps Runtime.Grew act

namespace Runtime

/-- Nothing has changed but that objects were made, no report among them. -/
structure Made (r after : Runtime) : Prop extends Grew r after where
  journal : after.journal = r.journal
  reports : after.store.sizeOf .report = r.store.sizeOf .report

instance : Std.Refl Made := ⟨fun r => ⟨.refl r,rfl,rfl⟩⟩

instance : Trans Made Made Made :=
  ⟨fun first second => ⟨first.toGrew.trans second.toGrew,second.journal.trans first.journal,
    second.reports.trans first.reports⟩⟩

end Runtime

/-- The step ends and makes objects that are no reports, and does nothing else. -/
def Act.OnlyMakes {α : Type} (act : Act α) : Prop := Step.Concludes Runtime.Made act

namespace Act.OnlyMakes

variable {α β : Type}

theorem onlyGrows {act : Act α} (only : act.OnlyMakes) : act.OnlyGrows :=
  only.keeps.imp fun _ _ => Runtime.Made.toGrew

theorem pure (x : α) : OnlyMakes (Pure.pure x) := Step.Concludes.pure x

theorem bind {act : Act α} {next : α → Act β} (only : act.OnlyMakes)
    (onlyNext : ∀ x, (next x).OnlyMakes) : (act >>= next).OnlyMakes :=
  Step.Concludes.bind only onlyNext

theorem ite_bind {c : Prop} [Decidable c] {one other : Act α} {next : α → Act β}
    (only : one.OnlyMakes) (otherOnly : other.OnlyMakes) (onlyNext : ∀ x, (next x).OnlyMakes) :
    (if c then one >>= next else other >>= next).OnlyMakes :=
  Step.Concludes.composes.ite_bind only otherOnly onlyNext

theorem mapM {act : α → Act β} (only : ∀ x, (act x).OnlyMakes) (items : List α) :
    OnlyMakes (items.mapM act) := Step.Concludes.composes.mapM only items

theorem read : OnlyMakes Step.read := Step.Concludes.read

theorem raise (failure : Address) : OnlyMakes (Step.raise failure : Act α) :=
  Step.Concludes.raise failure

theorem store : OnlyMakes Act.store := bind read fun _ => pure _

theorem make {change : Store → α × Store} {shelf : Shelf} {o : Object}
    (adds : ∀ s : Store, s.Adds (change s).2 shelf o) (other : shelf ≠ .report := by decide) :
    OnlyMakes (Act.make change) :=
  fun r => ⟨Step.done_ends _,⟨.of_adds (adds r.store),rfl⟩,rfl,
    (adds r.store).sizes .report other.symm⟩

theorem failWith (failure : Failure) : OnlyMakes (Act.failWith failure : Act α) :=
  bind (make fun s => s.newFailure_adds failure) raise

theorem fail (fault : Fault) : OnlyMakes (Act.fail fault : Act α) := failWith _

theorem ofExcept (result : Except Fault α) : OnlyMakes (Act.ofExcept result) := by
  cases result with
  | ok x => exact pure x
  | error fault => exact fail fault

end Act.OnlyMakes

namespace Act.OnlyGrows

variable {α β : Type}

theorem of_run {act : Act α} (only : act.OnlyGrows) {r after : Runtime} {ending : Outcome α}
    (ran : act r = (ending,after)) : r.Grew after := by
  have grew := only r
  rwa [ran] at grew

theorem pure (x : α) : OnlyGrows (Pure.pure x) := Step.Keeps.pure x

theorem bind {act : Act α} {next : α → Act β} (only : act.OnlyGrows)
    (onlyNext : ∀ x, (next x).OnlyGrows) : (act >>= next).OnlyGrows := Step.Keeps.bind only onlyNext

theorem ite_bind {c : Prop} [Decidable c] {one other : Act α} {next : α → Act β}
    (only : one.OnlyGrows) (otherOnly : other.OnlyGrows) (onlyNext : ∀ x, (next x).OnlyGrows) :
    (if c then one >>= next else other >>= next).OnlyGrows :=
  Step.Keeps.composes.ite_bind only otherOnly onlyNext

theorem mapM {act : α → Act β} (only : ∀ x, (act x).OnlyGrows) (items : List α) :
    OnlyGrows (items.mapM act) := Step.Keeps.mapM only items

theorem read : OnlyGrows Step.read := Step.Keeps.read

theorem store : OnlyGrows Act.store := OnlyMakes.store.onlyGrows

theorem make {change : Store → α × Store} {shelf : Shelf} {o : Object}
    (adds : ∀ s : Store, s.Adds (change s).2 shelf o) : OnlyGrows (Act.make change) :=
  fun r => ⟨.of_adds (adds r.store),rfl⟩

theorem fail (fault : Fault) : OnlyGrows (Act.fail fault : Act α) := (OnlyMakes.fail fault).onlyGrows

theorem ofExcept (result : Except Fault α) : OnlyGrows (Act.ofExcept result) :=
  (OnlyMakes.ofExcept result).onlyGrows

theorem record (entry : Entry) : OnlyGrows (Act.record entry) := fun r => ⟨.refl r.store,rfl⟩

theorem debugLine (text : String) : OnlyGrows (PageRuntime.debugLine text) := by
  refine bind read fun r => ?_
  split
  · exact record _
  · exact pure ()

end Act.OnlyGrows

theorem debugLine_run (text : String) (r : Runtime) : ∃ entries,
    debugLine text r = (.done (),{ r with journal := entries }) := by
  unfold debugLine
  rw [Step.bind_run,Step.read_run]
  dsimp only
  split
  · exact ⟨_,rfl⟩
  · exact ⟨r.journal,rfl⟩

theorem Spot.realize_onlyMakes : ∀ spot : Spot, spot.realize.OnlyMakes
  | .value v => .pure v
  | .bindings _ => .make fun s => s.newContext_adds _
  | .items _ => .make fun s => s.newList_adds _

theorem Spot.realize_onlyGrows (spot : Spot) : spot.realize.OnlyGrows :=
  spot.realize_onlyMakes.onlyGrows

theorem Scope.makeRoot_onlyGrows : Scope.makeRoot.OnlyGrows :=
  .bind (.make fun s => s.newDict_adds []) fun _ => .make fun s => s.newScope_adds _

theorem Reference.root_onlyGrows (scope : Address) (path : Path) : (root scope path).OnlyGrows :=
  .bind .read fun _ => .ofExcept _

theorem Reference.settle_onlyGrows (spot : Spot) : (settle spot).OnlyGrows :=
  .bind .read fun _ => .ofExcept _

theorem Reference.step_onlyGrows (spot : Spot) (key : Segment) : (step spot key).OnlyGrows :=
  .bind .read fun _ => .ofExcept _

theorem Reference.isLocked_onlyGrows (path : Path) (locked : Bool) :
    (isLocked path locked).OnlyGrows := by
  unfold isLocked
  split
  · exact .pure _
  · split
    · exact .pure _
    · refine .bind .read fun r => ?_
      split
      · exact .pure _
      · exact .fail _

end PageRuntime
