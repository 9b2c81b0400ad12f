import PageRuntime.ActionBatch
import PageRuntime.Proofs.Making
import PageRuntime.Proofs.WriteSteps

/-! What actions keep. An action reads, makes plain objects, writes and deletes. A relation that holds
across each of these holds across every action that reads and writes data, applied or failed. -/
namespace PageRuntime
open Step (Keeps)

section

variable {R : Runtime → Runtime → Prop} [Std.Refl R] [Trans R R R]
  (fails : ∀ {α : Type} (fault : Fault), Step.Keeps R (Act.fail fault : Act α))
include fails

omit [Trans R R R] in
theorem Act.ofExcept_keeps {α : Type} (result : Except Fault α) : Step.Keeps R (ofExcept result) := by
  cases result with
  | ok x => exact .pure x
  | error fault => exact fails fault

/-- Nodes that are built from plain forms are all that comes of it. -/
theorem Node.ofValueWithin_keeps (makes : ∀ node, Step.Keeps R (Act.make (·.newNode node))) :
    ∀ (fuel : Nat) (v : Value), Step.Keeps R (ofValueWithin fuel v)
  | 0, _ => fails _
  | fuel + 1, v => by
    have ofExcept {α : Type} (result : Except Fault α) := Act.ofExcept_keeps fails result
    unfold ofValueWithin
    split
    · contradiction
    · exact .pure _
    · refine .bind (.bind .read fun _ => .pure _) fun s => .bind (ofExcept _) fun named => ?_
      split
      · exact fails _
      · split
        · exact fails _
        · exact .bind (ofExcept _) fun listed =>
            .bind (.mapM (fun v => Node.ofValueWithin_keeps makes _ v) _) fun children =>
              .bind (ofExcept _) fun attrs => makes _

theorem Node.ofValue_keeps (makes : ∀ node, Step.Keeps R (Act.make (·.newNode node))) (v : Value) :
    Step.Keeps R (ofValue v) :=
  .bind (.bind .read fun _ => .pure _) fun _ => ofValueWithin_keeps fails makes _ v

end

/-- The relation holds across giving a runtime another store. -/
def Runtime.Across (R : Runtime → Runtime → Prop) (s after : Store) : Prop :=
  ∀ r : Runtime, r.store = s → R r { r with store := after }

instance (R : Runtime → Runtime → Prop) [Std.Refl R] : Std.Refl (Runtime.Across R) :=
  ⟨by
    rintro s r rfl
    exact Std.Refl.refl r⟩

instance (R : Runtime → Runtime → Prop) [Trans R R R] :
    Trans (Runtime.Across R) (Runtime.Across R) (Runtime.Across R) :=
  ⟨fun first second r here => Trans.trans (first r here) (second { r with store := _ } rfl)⟩

/-- The relation holds across all that an action does with data. -/
structure Act.Serves (R : Runtime → Runtime → Prop) : Prop where
  fail : ∀ {α : Type} (fault : Fault), Keeps R (Act.fail fault : Act α)
  record : ∀ line, Keeps R (Act.record (.debug line))
  makes : Store.Makes (Runtime.Across R)
  newContext : ∀ a, Keeps R (Act.make (·.newContext a))
  newNode : ∀ node, Keeps R (Act.make (·.newNode node))
  putList : ∀ r a items, R r { r with store := r.store.putList a items }
  putDict : ∀ r a d, R r { r with store := r.store.putDict a d }
  putBlob : ∀ r a b, R r { r with store := r.store.putBlob a b }
  putCell : ∀ r a held v label, r.store.handleAt a = .cell held label →
    R r { r with store := r.store.putHandle a (.cell v label) }
  setRoot : ∀ r name v, R r (r.setRoot name v)

namespace Act.Serves

variable {R : Runtime → Runtime → Prop} [Std.Refl R] [Trans R R R] (serves : Act.Serves R)
include serves

omit [Std.Refl R] [Trans R R R] in
theorem supports : Reference.Supports R where
  fail := serves.fail
  record := serves.record
  newList r := serves.makes.list r.store [] r rfl
  newDict r := serves.makes.dict r.store [] r rfl
  putList := serves.putList
  putDict := serves.putDict
  putCell := serves.putCell

omit serves [Trans R R R] in
theorem store : Keeps R Act.store := fun r => Std.Refl.refl r

omit [Trans R R R] in
theorem ofExcept {α : Type} (result : Except Fault α) : Keeps R (Act.ofExcept result) :=
  Act.ofExcept_keeps serves.fail result

theorem look {α : Type} (reads : Runtime → Except Fault α) :
    Keeps R (Step.read >>= fun r => Act.ofExcept (reads r)) := serves.supports.writing.look reads

omit [Trans R R R] in
theorem realize : ∀ spot : Spot, Keeps R spot.realize
  | .value v => .pure v
  | .bindings scope => serves.newContext scope
  | .items items => fun r => serves.makes.list r.store items r rfl

theorem setPathValue {write : Address → Value → Act Unit} (writes : ∀ a v, Keeps R (write a v))
    (scope : Address) (path : Path) (locked : Bool) (v : Value) :
    Keeps R (Reference.setPathValue write scope path locked v) := fun _ =>
  Reference.setPathValue_keeps serves.supports writes
    (fun name _ _ v r => serves.setRoot r name v) locked v

theorem setWithin (fuel : Nat) (a : Address) (v : Value) : Keeps R (Reference.setWithin fuel a v) :=
  Reference.setWithin_keeps serves.supports
    (fun r _ scope path locked _ _ writes v => serves.setPathValue writes scope path locked v r) fuel a v

theorem set (a : Address) (v : Value) : Keeps R (Reference.set a v) :=
  .bind store fun _ => serves.setWithin _ _ _

theorem dropMember (container : Spot) (key : Segment) :
    Keeps R (Reference.dropMember container key) := by
  have erased (scope : Address) (key : Key) : Keeps R (Context.erase scope key) :=
    fun r => serves.putDict r _ _
  refine .bind store fun s => ?_
  split
  · exact erased _ _
  · exact erased _ _
  · exact fun r => serves.putDict r _ _
  · split
    · split
      · exact fun r => serves.putList r _ _
      · exact .pure ()
    · exact .pure ()
  · exact .pure ()

theorem settle (spot : Spot) : Keeps R (Reference.settle spot) := serves.look _

theorem deletePath (scope : Address) (path : Path) (locked : Bool) :
    Keeps R (Reference.deletePath scope path locked) := by
  refine .bind (serves.supports.writing.isLocked _ _) fun isLocked => ?_
  split
  · exact .pure ()
  · split
    · exact .bind (serves.look _) fun start => .bind .read fun r => .bind (serves.ofExcept _)
        fun container => .bind (serves.settle _) fun settled => serves.dropMember _ _
    · exact .pure ()

theorem delete (a : Address) : Keeps R (Reference.delete a) := by
  refine .bind store fun s => ?_
  split
  · exact serves.deletePath _ _ _
  · exact .bind (serves.look _) fun container => .bind (serves.settle _) fun settled =>
      serves.dropMember _ _
  · exact .pure ()
  · exact .pure ()

open Reference (Target)

theorem targetGet : ∀ target : Target, Keeps R target.get
  | .handle _ => .bind .read fun _ => .bind (serves.ofExcept _) serves.realize
  | .place _ _ => .bind .read fun _ => .bind (serves.ofExcept _) serves.realize

theorem targetSet (v : Value) : ∀ target : Target, Keeps R (target.set v)
  | .handle a => serves.set a v
  | .place _ _ => .bind store fun _ => serves.setPathValue (serves.setWithin _) _ _ _ _

theorem targetDelete : ∀ target : Target, Keeps R target.delete
  | .handle a => serves.delete a
  | .place _ _ => serves.deletePath _ _ _

theorem addItem (target : Target) (setop : Setop) (v : Value) :
    Keeps R (Setop.addItem target setop v) := by
  have listed (items : List Value) : Keeps R (Act.make (·.newList items)) :=
    fun r => serves.makes.list r.store items r rfl
  refine .bind (serves.targetGet target) fun current => .bind store fun s => ?_
  split
  · exact .bind (listed _) fun made => serves.targetSet _ target
  · exact .bind (listed _) fun made => serves.targetSet _ target
  · exact serves.fail _

theorem mergeEntries (target : Target) (v : Value) : Keeps R (Setop.mergeEntries target v) := by
  refine .bind (serves.targetGet target) fun current => .bind store fun s => ?_
  split
  · exact serves.targetSet _ target
  · exact .bind (fun r => serves.makes.dict r.store _ r rfl) fun made => serves.targetSet _ target
  · exact serves.fail _

theorem applySetop (setop : Setop) (target : Target) (v : Value) :
    Keeps R (setop.apply target v) := by
  cases setop with
  | set => exact serves.targetSet _ target
  | setUnless =>
    refine .bind (serves.targetGet target) fun current => ?_
    split
    · exact serves.targetSet _ target
    · exact .pure ()
  | append => exact serves.addItem _ _ _
  | prepend => exact serves.addItem _ _ _
  | merge => exact serves.mergeEntries _ _
  | delete => exact serves.targetDelete target

theorem applyNamed (setop : Value) (target : Target) (v : Value) :
    Keeps R (Setop.applyNamed setop target v) := by
  unfold Setop.applyNamed
  dsimp only
  split
  · exact serves.applySetop _ _ _
  · exact .bind store fun s => serves.fail _

theorem makeBlob (mediaType base64 : Value) : Keeps R (Blob.make mediaType base64) :=
  .bind store fun _ => .bind (serves.ofExcept _) fun _ r =>
    serves.makes.blob r.store _ r rfl

theorem extendBlobBy (a : Address) (base64 : Value) : Keeps R (Blob.extend a base64) :=
  .bind store fun _ => .bind (serves.ofExcept _) fun _ r => serves.putBlob r _ _

theorem node (v : Value) : Keeps R (Node.ofValue v) := Node.ofValue_keeps serves.fail serves.newNode v

theorem copyOf (v : Value) : Keeps R (ActionBatch.copyOf v) := by
  intro r
  rw [ActionBatch.copyOf,Step.bind_done (Act.store_run r)]
  cases copies : r.store.deepCopy v with
  | error fault => exact serves.fail fault r
  | ok made => exact Store.deepCopy_leads serves.makes r.store v made.1 made.2 copies r rfl

theorem capture (action : Action) (returned : Value) :
    Keeps R (ActionBatch.capture action returned) := by
  unfold ActionBatch.capture
  split
  · exact .pure _
  · exact serves.makeBlob _ _
  · split
    · exact .bind (serves.extendBlobBy _ _) fun _ => .pure _
    · exact serves.fail _
  · exact .pure _
  · exact .pure _

theorem target (scope : Address) (action : Action) : Keeps R (ActionBatch.target scope action) :=
  .bind (serves.ofExcept _) fun _ => .pure _

theorem applyData (scope : Address) (action : Action) :
    Keeps R (ActionBatch.applyData scope action) :=
  .bind (serves.target _ _) fun _ => .bind (serves.copyOf _) fun _ => serves.applyNamed _ _ _

theorem applyBlob (scope : Address) (action : Action) :
    Keeps R (ActionBatch.applyBlob scope action) :=
  .bind (serves.target _ _) fun target => .bind (serves.makeBlob _ _) fun _ =>
    serves.targetSet _ target

theorem extendBlob (scope : Address) (action : Action) :
    Keeps R (ActionBatch.extendBlob scope action) := by
  refine .bind (serves.target _ _) fun target => .bind (serves.targetGet target) fun current => ?_
  split
  · exact serves.extendBlobBy _ _
  · exact serves.fail _

end Act.Serves
end PageRuntime
