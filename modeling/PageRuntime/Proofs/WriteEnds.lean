import PageRuntime.Proofs.Control

/-! Writes come to an end. However many handles a write enters, it ends with success or with a failure:
the handles that it may still enter are counted, and all else goes along a path. -/
namespace PageRuntime
namespace Step

variable {σ α β : Type}

/-- The step ends, whichever state it starts from. -/
def Ends (step : Step σ α) : Prop := ∀ state, (step state).1 ≠ .exhausted

namespace Ends

theorem pure (x : α) : Ends (Pure.pure x : Step σ α) := fun _ => done_ends x

theorem read : Ends (Step.read : Step σ σ) := fun state => done_ends state

theorem modify (change : σ → σ) : Ends (Step.modify change) := fun _ => done_ends ()

theorem bind {first : Step σ α} {next : α → Step σ β} (ends : Ends first)
    (onwards : ∀ x, Ends (next x)) : Ends (first >>= next) := by
  intro state
  have here := ends state
  rw [bind_run]
  split
  · exact onwards _ _
  · exact raised_ends _
  · next ran => rw [ran] at here; exact absurd rfl here

end Ends
end Step

open Step (Ends)

namespace Act

variable {α : Type}

theorem store_ends : Ends store := fun _ => Step.done_ends _

theorem make_ends (change : Store → α × Store) : Ends (make change) := fun _ => Step.done_ends _

theorem fail_ends (fault : Fault) : Ends (fail fault : Act α) := fun _ => Step.raised_ends _

end Act

namespace Reference
open Act (store_ends make_ends fail_ends)

theorem writing_ends : Writing fun _ step => Ends step where
  pure := .pure
  read := .read
  bind := .bind
  fail := fail_ends
  record _ := .modify _
  newList := make_ends _
  newDict := make_ends _
  putList _ _ := .modify _
  putDict _ _ := .modify _

section

variable {write : Address → Value → Act Unit} (writes : ∀ a v, Ends (write a v))
include writes

theorem setRootPath_ends (path : Path) (v : Value) : Ends (setRootPath write path v) := by
  unfold setRootPath
  split
  · exact fail_ends _
  · refine .bind .read fun r => ?_
    split
    · exact writes _ _
    · exact .modify _

theorem setBelowRoot_ends (scope : Address) (path : Path) (key : Segment) (rest : List Segment)
    (v : Value) : Ends (setBelowRoot write scope path key rest v) := by
  refine .bind (writing_ends.look _) fun container => ?_
  split
  · split
    · exact fail_ends _
    · exact .bind (writing_ends.emptyFor key) fun made => .bind (.modify _) fun _ =>
        writing_ends.descend writes rest _ key v
  · exact writing_ends.descend writes rest container key v

theorem setPathValue_ends (scope : Address) (path : Path) (locked : Bool) (v : Value) :
    Ends (setPathValue write scope path locked v) := by
  refine .bind (writing_ends.isLocked path locked) fun shut => ?_
  split
  · exact writing_ends.debugLine _
  · split
    · exact setRootPath_ends writes path v
    · exact setBelowRoot_ends writes scope path _ _ v

end

theorem setWithin_ends : ∀ (fuel : Nat) (a : Address) (v : Value), Ends (setWithin fuel a v)
  | 0, _, _ => fail_ends _
  | fuel + 1, a, v => by
    have writes := setWithin_ends fuel
    refine .bind store_ends fun s => ?_
    split
    · exact setPathValue_ends writes _ _ _ v
    · exact writing_ends.setBelow writes _ _ v
    · exact .pure ()
    · exact .modify _

theorem set_ends (a : Address) (v : Value) : Ends (set a v) :=
  .bind store_ends fun _ => setWithin_ends _ a v

theorem pathOf_ends (path : Value) : Ends (pathOf path) := by
  unfold pathOf
  split
  · exact writing_ends.ofExcept _
  · exact .bind store_ends fun _ => fail_ends _

theorem setPath_ends (scope : Address) (path v : Value) : Ends (setPath scope path v) :=
  .bind (.bind (pathOf_ends path) fun _ => make_ends _) fun a => set_ends a v

theorem pathOf_onlyData (path : Value) : (pathOf path).OnlyData := by
  unfold pathOf
  split
  · exact .ofExcept _
  · exact .bind .store fun _ => .fail _

theorem setPath_onlyData (scope : Address) (path v : Value) : (setPath scope path v).OnlyData :=
  .bind (.bind (pathOf_onlyData path) fun _ => .make fun _ => rfl) fun a => set_onlyData a v

end Reference
end PageRuntime
