import PageRuntime.Proofs.Containment
import PageRuntime.Proofs.Nesting
import PageRuntime.Wire.Format

/-! Plain trees: null, scalars, and lists and dictionaries of plain trees, with texts as keys. Both
formats have a text for every one of them. -/
namespace PageRuntime

/-- Every key is a text, spelled as it is, and none comes twice. -/
structure Dict.Textual (d : Dict) : Prop where
  texts : ∀ slot ∈ d, ∃ name, slot.key = .text name ∧ slot.label = .str name
  once : (d.map (·.key)).Nodup

def Kind.scalars : List Kind := [.null,.bool,.number,.string]

namespace Store

variable {s after : Store} {shelf : Shelf} {a : Address} {o : Object} {v w : Value}

/-- The object is there, at that place. -/
def Has (s : Store) (shelf : Shelf) (a : Address) (o : Object) : Prop :=
  a < s.sizeOf shelf ∧ s.object shelf a = o

theorem Has.grew (has : s.Has shelf a o) (grew : s.Grew after) : after.Has shelf a o :=
  ⟨(grew shelf a has.1).1,(grew shelf a has.1).2.trans has.2⟩

theorem Has.listAt {items : List Value} (has : s.Has .list a (.items items)) : s.listAt a = items :=
  Object.items.inj has.2

theorem Has.dictAt {d : Dict} (has : s.Has .dict a (.entries d)) : s.dictAt a = d :=
  Object.entries.inj has.2

theorem Adds.has (adds : s.Adds after shelf o) : after.Has shelf (s.sizeOf shelf) o :=
  ⟨by rw [adds.size]; exact Nat.lt_succ_self _,adds.object⟩

inductive Tree (s : Store) : Value → Prop
  | leaf {v : Value} (scalar : v.kind ∈ Kind.scalars) : Tree s v
  | list {a : Address} {items : List Value} (has : s.Has .list a (.items items))
    (trees : ∀ v ∈ items, Tree s v) : Tree s (.list a)
  | dict {a : Address} {d : Dict} (has : s.Has .dict a (.entries d)) (textual : d.Textual)
    (trees : ∀ slot ∈ d, Tree s slot.value) : Tree s (.dict a)

/-- Trees of one shape: the same scalars, lists of the same length and dictionaries with the same keys
in the same order, and within them trees of one shape side by side. -/
inductive SameTree (s : Store) : Value → Value → Prop
  | leaf {v : Value} (scalar : v.kind ∈ Kind.scalars) : SameTree s v v
  | list {a b : Address} (length : (s.listAt b).length = (s.listAt a).length)
    (items : ∀ pair ∈ (s.listAt a).zip (s.listAt b), SameTree s pair.1 pair.2) :
    SameTree s (.list a) (.list b)
  | dict {a b : Address} (keys : (s.dictAt b).map (fun slot => (slot.key,slot.label)) =
      (s.dictAt a).map fun slot => (slot.key,slot.label))
    (values : ∀ pair ∈ (s.dictAt a).zip (s.dictAt b), SameTree s pair.1.value pair.2.value) :
    SameTree s (.dict a) (.dict b)

theorem members_of_scalar (scalar : v.kind ∈ Kind.scalars) : s.members v = [] := by
  refine members_of_leaf ?_
  unfold Value.isMapping
  revert scalar
  generalize v.kind = kind
  revert kind
  decide

namespace Tree

theorem grew (tree : s.Tree v) (grew : s.Grew after) : after.Tree v := by
  induction tree with
  | leaf scalar => exact .leaf scalar
  | list has _ ih => exact .list (has.grew grew) ih
  | dict has textual _ ih => exact .dict (has.grew grew) textual ih

theorem member (tree : s.Tree v) (held : w ∈ s.members v) : s.Tree w := by
  cases tree with
  | leaf scalar => rw [members_of_scalar scalar] at held; cases held
  | @list a items has trees =>
    have held : w ∈ s.listAt a := held
    exact trees w (has.listAt ▸ held)
  | @dict a d has textual trees =>
    have held : w ∈ Dict.values (s.dictAt a) := held
    rw [has.dictAt] at held
    obtain ⟨slot,member,rfl⟩ := List.mem_map.mp held
    exact trees slot member

theorem unlooped (tree : s.Tree v) : Unlooped s.members v := by
  induction tree with
  | leaf scalar =>
    refine .of_parts fun w held => ?_
    rw [members_of_scalar scalar] at held
    cases held
  | @list a items has _ ih =>
    refine .of_parts fun w held => ?_
    have held : w ∈ s.listAt a := held
    exact ih w (has.listAt ▸ held)
  | @dict a d has _ _ ih =>
    refine .of_parts fun w held => ?_
    have held : w ∈ Dict.values (s.dictAt a) := held
    rw [has.dictAt] at held
    obtain ⟨slot,member,rfl⟩ := List.mem_map.mp held
    exact ih slot member

theorem nestsWithin (tree : s.Tree v) : NestsWithin s.members (s.size + 2) v := by
  have length := s.containers_card
  rw [← Finset.length_toList] at length
  refine (tree.unlooped.nestsWithin_succ s.containers.toList fun w _ => ?_).mono (by omega)
  by_cases parts : s.members w = []
  · exact .inr parts
  · obtain ⟨u,held⟩ := List.exists_mem_of_ne_nil _ parts
    exact .inl (Finset.mem_toList.mpr (containers_of_held held))

end Tree
end Store

theorem List.mapM_answers {α β ε : Type} {step : α → Except ε β} {xs : List α}
    (answers : ∀ x ∈ xs, ∃ y, step x = .ok y) : ∃ ys, xs.mapM step = .ok ys := by
  induction xs with
  | nil => exact ⟨[],rfl⟩
  | cons x xs ih =>
    obtain ⟨y,here⟩ := answers x List.mem_cons_self
    obtain ⟨ys,rest⟩ := ih fun z member => answers z (List.mem_cons_of_mem _ member)
    rw [List.mapM_cons,here]
    exact ⟨y :: ys,by rw [rest]; rfl⟩

namespace Json

variable {s : Store} {layout : Layout}

/-- No container is met within itself, since the containers on the way hold what is written. -/
theorem writeWithin_tree {fuel : Nat} : ∀ {active : List Value} {v : Value}, s.Tree v →
    NestsWithin s.members fuel v → Unlooped s.members v →
    (∀ u ∈ active, Relation.TransGen (HasPart s.members) u v) →
    ∃ text, writeWithin s layout fuel active v = .ok text := by
  induction fuel with
  | zero => exact fun _ nests => nests.elim
  | succ fuel ih =>
    intro active v tree nests unlooped around
    have outside : active.contains v = false := by
      rw [Bool.eq_false_iff,ne_eq,List.contains_iff_mem]
      exact fun member => unlooped v .refl (around v member)
    have inner (w : Value) (held : w ∈ s.members v) :
        ∃ text, writeWithin s layout fuel (v :: active) w = .ok text := by
      refine ih (tree.member held) (nests w held) (unlooped.part held) fun u on => ?_
      obtain rfl | on := List.mem_cons.mp on
      · exact .single held
      · exact (around u on).tail held
    unfold writeWithin
    cases tree with
    | leaf scalar =>
      cases v with
      | bool truth => cases truth <;> exact ⟨_,rfl⟩
      | null | int | float | str => exact ⟨_,rfl⟩
      | _ => simp [Value.kind,Kind.scalars] at scalar
    | @list a items has trees =>
      obtain ⟨texts,written⟩ := List.mapM_answers inner
      have written : (s.listAt a).mapM (writeWithin s layout fuel (.list a :: active)) = .ok texts :=
        written
      simp only [outside,written]
      exact ⟨_,rfl⟩
    | @dict a d has textual trees =>
      have answers : ∀ slot ∈ s.dictAt a, ∃ text, (do
          let key ← keyText s layout slot.label
          .ok (key ++ ": " ++ (← writeWithin s layout fuel (.dict a :: active) slot.value)) :
            Except Fault String) = .ok text := by
        intro slot member
        obtain ⟨text,written⟩ := inner slot.value (List.mem_map_of_mem member)
        rw [has.dictAt] at member
        obtain ⟨name,-,label⟩ := textual.texts slot member
        rw [label,written]
        exact ⟨_,rfl⟩
      obtain ⟨members,written⟩ := List.mapM_answers answers
      simp only [outside,written]
      exact ⟨_,rfl⟩

theorem write_tree {v : Value} (tree : s.Tree v) : ∃ text, write s layout v = .ok text :=
  writeWithin_tree tree tree.nestsWithin tree.unlooped nofun

end Json

namespace Yaml

variable {s : Store}

theorem meet_parts {fuel : Nat} {parts : List Value}
    (meets : ∀ v ∈ parts, ∀ m, ∃ met, meet s fuel v m = some met) :
    ∀ m, ∃ met, parts.foldlM (fun m part => meet s fuel part m) m = some met := by
  induction parts with
  | nil => exact fun m => ⟨m,rfl⟩
  | cons v parts ih =>
    intro m
    obtain ⟨mid,here⟩ := meets v List.mem_cons_self m
    obtain ⟨met,rest⟩ := ih (fun w member => meets w (List.mem_cons_of_mem _ member)) mid
    exact ⟨met,by rw [List.foldlM_cons,here]; exact rest⟩

theorem meet_tree {fuel : Nat} : ∀ {v : Value}, s.Tree v → NestsWithin s.members fuel v →
    ∀ m, ∃ met, meet s fuel v m = some met := by
  induction fuel with
  | zero => exact fun _ nests => nests.elim
  | succ fuel ih =>
    intro v tree nests m
    have below (w : Value) (held : w ∈ s.members v) := ih (tree.member held) (nests w held)
    unfold meet
    split
    · exact ⟨m,rfl⟩
    · next compound =>
      cases tree with
      | leaf scalar =>
        refine absurd ?_ compound
        cases v with
        | bool truth => cases truth <;> rfl
        | float x => unfold scalarText?; dsimp only; split <;> [rfl; (split <;> rfl)]
        | null | int | str => rfl
        | _ => simp [Value.kind,Kind.scalars] at scalar
      | @list a items has trees =>
        dsimp only [parts?]
        split
        · exact ⟨m,rfl⟩
        · split
          · exact ⟨_,rfl⟩
          · exact meet_parts below _
      | @dict a d has textual trees =>
        dsimp only [parts?]
        split
        · exact ⟨m,rfl⟩
        · split
          · exact ⟨_,rfl⟩
          · refine meet_parts (fun part member => ?_) _
            obtain ⟨slot,here,part⟩ := List.mem_flatMap.mp member
            have value := below slot.value (List.mem_map_of_mem here)
            simp only [List.mem_cons,List.not_mem_nil,or_false] at part
            obtain rfl | rfl := part
            · rw [has.dictAt] at here
              obtain ⟨name,-,label⟩ := textual.texts slot here
              rw [label]
              cases fuel with
              | zero => exact absurd (nests slot.value (List.mem_map_of_mem (has.dictAt ▸ here))) id
              | succ fuel => exact fun m => ⟨m,rfl⟩
            · exact value

theorem write_tree {v : Value} (tree : s.Tree v) : ∃ text, write s v = .ok text := by
  obtain ⟨met,here⟩ := meet_tree tree tree.nestsWithin ⟨[],[]⟩
  unfold write
  simp only [here]
  exact ⟨_,rfl⟩

end Yaml
end PageRuntime
