import PageRuntime.Reference
import PageRuntime.Proofs.Step

/-! What writes keep. A write fails, makes empty containers, writes one entry of a container, gives a
cell or a root another value, and goes on at the handles that it meets. A relation that holds across
each of these holds across the whole write, however many handles it enters. -/
namespace PageRuntime
namespace Reference
open Step (Keeps)

theorem isLocked_still {path : Path} {locked shut : Bool} {r after : Runtime}
    (ran : isLocked path locked r = (.done shut,after)) : after = r := by
  unfold isLocked at ran
  split at ran
  · cases ran
    rfl
  · cases kind : path.root.kind.dataRoot? with
    | none =>
      rw [kind] at ran
      cases ran
      rfl
    | some name =>
      rw [kind] at ran
      dsimp only at ran
      rw [Step.bind_run,Step.read_run] at ran
      dsimp only at ran
      split at ran <;> cases ran
      rfl

/-- A property of steps that all that a write does has, and so what is made of it, but for writing
through handles and giving a root another value. -/
structure Writing (P : (α : Type) → Act α → Prop) : Prop extends Step.Composes P where
  fail : ∀ {α : Type} (fault : Fault), P α (Act.fail fault)
  record : ∀ line, P Unit (Act.record (.debug line))
  newList : P Value (Act.make (·.newList []))
  newDict : P Value (Act.make (·.newDict []))
  putList : ∀ a items, P Unit (Act.update (·.putList a items))
  putDict : ∀ a d, P Unit (Act.update (·.putDict a d))

theorem Context.set_eq (scope : Address) (key : Key) (label v : Value) :
    Context.set scope key label v = Act.store >>= fun s => Act.update
      (·.putDict (s.scopeAt scope).specials ((s.dictAt (s.scopeAt scope).specials).insert key label v)) :=
  rfl

namespace Writing

variable {P : (α : Type) → Act α → Prop} (writing : Writing P)
include writing

theorem store : P Store Act.store := writing.bind writing.read fun _ => writing.pure _

theorem ofExcept {α : Type} (result : Except Fault α) : P α (Act.ofExcept result) := by
  cases result with
  | ok x => exact writing.pure x
  | error fault => exact writing.fail fault

theorem look {α : Type} (reads : Runtime → Except Fault α) :
    P α (Step.read >>= fun r => Act.ofExcept (reads r)) :=
  writing.bind writing.read fun r => writing.ofExcept (reads r)

theorem debugLine (text : String) : P Unit (PageRuntime.debugLine text) := by
  refine writing.bind writing.read fun r => ?_
  split
  · exact writing.record _
  · exact writing.pure ()

theorem isLocked (path : Path) (locked : Bool) : P Bool (Reference.isLocked path locked) := by
  unfold Reference.isLocked
  split
  · exact writing.pure true
  · split
    · exact writing.pure false
    · refine writing.bind writing.read fun r => ?_
      split
      · exact writing.pure _
      · exact writing.fail _

theorem emptyFor (key : Segment) : P Value (Reference.emptyFor key) := by
  cases key with
  | index place => exact writing.newList
  | field name => exact writing.newDict

variable {write : Address → Value → Act Unit} (writes : ∀ a v, P Unit (write a v))
include writes

theorem putBinding (scope : Address) (key : Segment) (v : Value) :
    P Unit (Reference.putBinding write scope key v) := by
  refine writing.bind writing.store fun s => ?_
  split
  · exact writes _ _
  · rw [Context.set_eq]
    exact writing.bind writing.store fun _ => writing.putDict _ _

theorem putEntry (a : Address) (key : Segment) (v : Value) :
    P Unit (Reference.putEntry write a key v) := by
  refine writing.bind writing.store fun s => ?_
  split
  · exact writes _ _
  · exact writing.putDict _ _

theorem putItem {items : List Value} {store : List Value → Act Unit}
    (stores : ∀ items, P Unit (store items)) (key : Segment) (v : Value) :
    P Unit (Reference.putItem write items store key v) := by
  unfold Reference.putItem
  split
  · exact writing.fail _
  · split
    · split
      · exact writes _ _
      · exact stores _
    · split
      · exact writing.pure ()
      · exact stores _

theorem putInto (container : Spot) (key : Segment) (v : Value) :
    P Unit (Reference.putInto write container key v) := by
  refine writing.bind writing.store fun s => ?_
  split
  · exact writing.putBinding writes _ _ _
  · exact writing.putItem writes (fun _ => writing.pure ()) _ _
  · exact writing.putBinding writes _ _ _
  · exact writing.putEntry writes _ _ _
  · exact writing.putItem writes (fun items => writing.putList _ items) _ _
  · exact writing.pure ()
  · exact writing.pure ()
  · exact writing.pure ()
  · exact writing.fail _

theorem opened (a : Address) {reading : Act Spot} (reads : P Spot reading) (key : Segment) :
    P Spot (Reference.opened write a reading key) := by
  refine writing.bind reads fun found => ?_
  split
  · exact writing.bind (writing.emptyFor key) fun made =>
      writing.bind (writes a made) fun _ => reads
  · exact writing.pure _

theorem put (container : Spot) (key : Segment) (v : Value) :
    P Unit (Reference.put write container key v) := by
  unfold Reference.put
  split
  · refine writing.bind (writing.opened writes _ (writing.look _) key) fun target => ?_
    split
    · exact writing.pure ()
    · exact writing.putInto writes _ _ _
  · exact writing.putInto writes _ _ _

theorem descend (rest : List Segment) (container : Spot) (key : Segment) (v : Value) :
    P Unit (Reference.descend write container key rest v) := by
  induction rest generalizing container key with
  | nil => exact writing.put writes _ _ _
  | cons after rest ih =>
    refine writing.bind (writing.look _) fun next => ?_
    split
    · refine writing.bind (writing.look _) fun settled => ?_
      split
      · exact writing.pure ()
      · exact writing.bind (writing.emptyFor after) fun made =>
          writing.bind (writing.put writes container key made) fun _ => ih _ _
    · exact ih _ _

theorem setBelow (parent : Address) (key : Segment) (v : Value) :
    P Unit (Reference.setBelow write parent key v) := by
  refine writing.bind (writing.opened writes parent (writing.look _) key) fun container => ?_
  split
  · exact writing.pure ()
  · exact writing.put writes _ _ _

end Writing

/-- The relation holds across all that a write does, but for giving a root another value. -/
structure Supports (R : Runtime → Runtime → Prop) : Prop where
  fail : ∀ {α : Type} (fault : Fault), Keeps R (Act.fail fault : Act α)
  record : ∀ line, Keeps R (Act.record (.debug line))
  newList : Keeps R (Act.make (·.newList []))
  newDict : Keeps R (Act.make (·.newDict []))
  putList : ∀ r a items, R r { r with store := r.store.putList a items }
  putDict : ∀ r a d, R r { r with store := r.store.putDict a d }
  putCell : ∀ r a held v label, r.store.handleAt a = .cell held label →
    R r { r with store := r.store.putHandle a (.cell v label) }

variable {R : Runtime → Runtime → Prop} [Std.Refl R] [Trans R R R] (supports : Supports R)
include supports

theorem Supports.writing : Writing fun _ step => Keeps R step := { Keeps.composes with
  fail := supports.fail
  record := supports.record
  newList := supports.newList
  newDict := supports.newDict
  putList := fun a items r => supports.putList r a items
  putDict := fun a d r => supports.putDict r a d }

section

variable {write : Address → Value → Act Unit} (writes : ∀ a v, Keeps R (write a v))
include writes

theorem setRootPath_keeps {path : Path} (roots : ∀ name, path.root.kind.dataRoot? = some name →
      ∀ v, Keeps R (setRootValue name v)) (v : Value) : Keeps R (setRootPath write path v) := by
  unfold setRootPath
  split
  · exact supports.fail _
  · next name named =>
    refine .bind .read fun r => ?_
    split
    · exact writes _ _
    · exact roots name named v

theorem setBelowRoot_keeps {r : Runtime} {scope : Address} {path : Path}
    (roots : ∀ name, path.root.kind.dataRoot? = some name → r.rootSpot scope path.root = .ok .null →
      ∀ v, Keeps R (setRootValue name v)) (key : Segment) (rest : List Segment) (v : Value) :
    R r (setBelowRoot write scope path key rest v r).2 := by
  refine Keeps.bind_from (supports.writing.look _) fun container after found => ?_
  obtain ⟨rooted,rfl⟩ := Act.ofExcept_done found
  by_cases missing : container = .null
  · rw [if_pos missing]
    cases named : path.root.kind.dataRoot? with
    | none => exact supports.fail _ _
    | some name =>
      exact Keeps.bind (supports.writing.emptyFor key) (fun made =>
        .bind (roots name named (missing ▸ rooted) made) fun _ =>
          supports.writing.descend writes rest _ key v) _
  · rw [if_neg missing]
    exact supports.writing.descend writes rest container key v _

/-- A write to a path, where its root is given another value only if the path is bare or the root
reads as null. -/
theorem setPathValue_keeps {r : Runtime} {scope : Address} {path : Path}
    (roots : ∀ name, path.root.kind.dataRoot? = some name →
      path.segments = [] ∨ r.rootSpot scope path.root = .ok .null →
        ∀ v, Keeps R (setRootValue name v)) (locked : Bool) (v : Value) :
    R r (setPathValue write scope path locked v r).2 := by
  refine Keeps.bind_from (supports.writing.isLocked path locked) fun shut after ran => ?_
  obtain rfl := isLocked_still ran
  cases shut with
  | true => exact supports.writing.debugLine _ _
  | false =>
    cases segments : path.segments with
    | nil => exact setRootPath_keeps supports writes (fun name named => roots name named (.inl segments)) v _
    | cons key rest =>
      exact setBelowRoot_keeps supports writes (fun name named null => roots name named (.inr null)) key rest v

end

/-- A write through a handle, where the paths of handles may be written. -/
theorem setWithin_keeps (paths : ∀ r a scope path locked, r.store.handleAt a = .path scope path locked →
      ∀ write : Address → Value → Act Unit, (∀ b w, Keeps R (write b w)) → ∀ v,
        R r (setPathValue write scope path locked v r).2) :
    ∀ (fuel : Nat) (a : Address) (v : Value), Keeps R (setWithin fuel a v)
  | 0, _, _ => supports.fail _
  | fuel + 1, a, v => by
    have writes := setWithin_keeps paths fuel
    intro r
    rw [setWithin,Step.bind_done (Act.store_run r)]
    cases handle : r.store.handleAt a with
    | path scope path locked => exact paths r a scope path locked handle _ writes v
    | sub parent key => exact supports.writing.setBelow writes parent key v r
    | locked inner => exact Keeps.pure () r
    | cell held label => exact supports.putCell r a held v label handle

end Reference
end PageRuntime
