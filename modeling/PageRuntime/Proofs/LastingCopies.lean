import PageRuntime.Proofs.Copies
import PageRuntime.Proofs.RecordReading
import PageRuntime.Proofs.WriteFrames

/-! Copies that last. A value that is intact can still be copied as it could at first, and its copy remains
one of the value as it was as long as it is intact itself. -/
namespace PageRuntime
namespace Store

variable {s t mid after : Store} {v w : Value}

namespace Intact

variable (intact : s.Intact t v)
include intact

theorem settled {u : Value} (within : s.Within v u) : u.Settled s t :=
  fun shelf a here _ => intact u within shelf a here

theorem within_back {u : Value} (within : t.Within v u) : s.Within v u :=
  .of_settled (fun _ => intact.settled) within

theorem acyclic (acyclic : ¬ s.Cyclic v) : ¬ t.Cyclic v := by
  rintro ⟨c,within,w,held,inner⟩
  have within := intact.within_back within
  rw [(intact.settled within).members] at held
  exact acyclic ⟨c,within,w,held,(intact.of_within (.member within held)).within_back inner⟩

theorem proper (proper : s.Proper v) (wider : ∀ shelf a, a < s.sizeOf shelf → a < t.sizeOf shelf) :
    t.Proper v where
  inside u within shelf a here := wider shelf a (proper.inside u (intact.within_back within) shelf a here)
  keys u within := by
    have within := intact.within_back within
    rw [entries,(intact.settled within).mapping?]
    exact proper.keys u within

end Intact

/-- A copy remains one of an original that had been intact, as long as it is intact itself. -/
theorem Copied.intact (copied : Copied t mid v w) (before : s.Intact t v) (later : mid.Intact after w)
    (wider : ∀ shelf a, a < s.sizeOf shelf → a < t.sizeOf shelf)
    (still : ∀ shelf a, a < mid.sizeOf shelf → a < after.sizeOf shelf) : Copied s after v w := by
  have new {shelf : Shelf} {a : Address} (new : t.New mid shelf a) : s.New after shelf a :=
    ⟨Nat.not_lt.mp fun inside => Nat.not_lt.mpr new.1 (wider shelf a inside),still shelf a new.2⟩
  induction copied with
  | same plain => exact .same plain
  | @empty a nothing =>
    have original := Object.items.inj (before _ .self .tuple a rfl)
    exact .empty (original.symm.trans nothing)
  | @blob a b made content =>
    have original := Object.blob.inj (before _ .self .blob a rfl)
    have copy := Object.blob.inj (later _ .self .blob b rfl)
    exact .blob (new made) (copy.trans (content.trans original))
  | @list a b made length items ih =>
    have original : t.listAt a = s.listAt a := Object.items.inj (before _ .self .list a rfl)
    have copy : after.listAt b = mid.listAt b := Object.items.inj (later _ .self .list b rfl)
    refine .list (new made) (by rw [copy,length,original]) fun pair member => ?_
    rw [copy] at member
    obtain ⟨first,second⟩ := List.of_mem_zip member
    exact ih pair (original ▸ member) (before.of_within (.member .self first))
      (later.of_within (.member .self second))
  | @tuple a b made length items ih =>
    have original : t.tupleAt a = s.tupleAt a := Object.items.inj (before _ .self .tuple a rfl)
    have copy : after.tupleAt b = mid.tupleAt b := Object.items.inj (later _ .self .tuple b rfl)
    refine .tuple (new made) (by rw [copy,length,original]) fun pair member => ?_
    rw [copy] at member
    obtain ⟨first,second⟩ := List.of_mem_zip member
    exact ih pair (original ▸ member) (before.of_within (.member .self first))
      (later.of_within (.member .self second))
  | @mapping v b mapping made keys values ih =>
    have original : t.entries v = s.entries v := by
      rw [entries,(before.settled .self).mapping?]
      rfl
    have copy : after.dictAt b = mid.dictAt b := Object.entries.inj (later _ .self .dict b rfl)
    refine .mapping mapping (new made) (by rw [copy,keys,original]) fun pair member => ?_
    rw [copy] at member
    obtain ⟨first,second⟩ := List.of_mem_zip member
    exact ih pair (original ▸ member) (before.of_within (.member .self (held_of_entry first)))
      (later.of_within (.member .self (held_of_entry (v := .dict b) second)))

/-- Everything in a copy is an object of the later store or a scalar. -/
theorem Copied.inside (copied : Copied s after v w) (grew : s.Grew after) (proper : s.Proper v)
    {u : Value} (within : after.Within w u) : u.Inside after := by
  obtain ⟨x,inner,copied⟩ := copied.within grew proper within
  have inside : x.Inside after := fun shelf a here => (grew shelf a (proper.inside x inner shelf a here)).1
  have new {shelf : Shelf} {a : Address} (made : s.New after shelf a) (here : u.spot? = some (shelf,a)) :
      u.Inside after := by
    intro other b there
    obtain ⟨rfl,rfl⟩ := Prod.mk.inj (Option.some.inj (here.symm.trans there))
    exact made.2
  cases copied with
  | same plain => exact inside
  | empty nothing => exact inside
  | blob made => exact new made rfl
  | list made => exact new made rfl
  | tuple made => exact new made rfl
  | mapping mapping made => exact new made rfl

/-- What holds nothing is its own copy. -/
theorem Copied.plain (copied : Copied s after v w) (plain : v.isContainer = false) : w = v := by
  cases copied with
  | same => rfl
  | mapping mapping => cases v <;> cases mapping <;> cases plain
  | _ => cases plain

/-- The copy of a mapping is a dictionary that has no key twice. -/
theorem Copied.dict (copied : Copied s after v w) (proper : s.Proper v) (mapping : v.isMapping = true) :
    ∃ a, w = .dict a ∧ ((after.dictAt a).map (·.key)).Nodup := by
  cases copied with
  | same plain => cases v <;> cases mapping <;> cases plain
  | @mapping _ b _ _ keys =>
    refine ⟨b,rfl,?_⟩
    have once := proper.keys v .self
    have firsts := congrArg (List.map Prod.fst) keys
    rw [List.map_map,List.map_map] at firsts
    exact (show (after.dictAt b).map (·.key) = (s.entries v).map (·.key) from firsts) ▸ once
  | _ => cases mapping

theorem deepCopy_made (proper : s.Proper v) (acyclic : ¬ s.Cyclic v) :
    ∃ w after, s.deepCopy v = .ok (w,after) ∧ s.Grew after ∧ Copied s after v w := by
  have ends : Ends (s.hasCycle v) (s.deepCopy v) := copyWithin_ends _ proper (.refl s)
  rw [show s.hasCycle v = false from Bool.not_eq_true _ ▸ mt (s.hasCycle_iff v).mp acyclic] at ends
  obtain ⟨⟨w,after⟩,made⟩ := ends.made
  exact ⟨w,after,made,deepCopy_leads Grew.makes s v w after made,
    copied_of_copyWithin _ proper (.refl s) made⟩

end Store
end PageRuntime
