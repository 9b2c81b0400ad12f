import Mathlib.Data.List.Forall2
import PageRuntime.Proofs.Containment
import PageRuntime.Proofs.SameLocation
import PageRuntime.Value.Equal

/-! Copies of plain data. Copying goes through a value once and fails where the search for a cycle
would find one. What it makes has the form of the original all the way down, is new wherever it can
change, and is deeply equal to the original, since both nest as deep as the search went. -/
namespace PageRuntime

/-- Not a number, which no number equals, itself included. -/
def Value.isNaN : Value → Bool
  | .float x => x.isNaN
  | _ => false

namespace Store

/-- Everything in the value is an object of the store or a scalar, and no mapping in it has a key
twice. -/
structure Proper (s : Store) (v : Value) : Prop where
  inside : ∀ w, s.Within v w → w.Inside s
  keys : ∀ w, s.Within v w → ((s.entries w).map (·.key)).Nodup

def mediaType? (s : Store) : Value → Option Value
  | .blob a => some (s.blobAt a).mediaType
  | _ => none

/-- No number in the value, and no media type of a blob in it, is NaN. -/
def NoNaN (s : Store) (v : Value) : Prop :=
  ∀ w, s.Within v w → w.isNaN = false ∧ ∀ media ∈ s.mediaType? w, media.isNaN = false

/-- An object of the later store that the earlier one does not have. -/
def New (s after : Store) (shelf : Shelf) (a : Address) : Prop :=
  s.sizeOf shelf ≤ a ∧ a < after.sizeOf shelf

/-- The second value, read in the later store, is a copy of the first as the earlier store has it.
Sequences and blobs are new ones of the same form, except for the empty tuple, mappings are new
dictionaries with the keys as they were, and everything else is the same object. -/
inductive Copied (s after : Store) : Value → Value → Prop
  | same {v : Value} (plain : v.isContainer = false) : Copied s after v v
  | empty {a : Address} (nothing : s.tupleAt a = []) : Copied s after (.tuple a) (.tuple a)
  | blob {a b : Address} (new : s.New after .blob b) (content : after.blobAt b = s.blobAt a) :
    Copied s after (.blob a) (.blob b)
  | list {a b : Address} (new : s.New after .list b)
    (length : (after.listAt b).length = (s.listAt a).length)
    (items : ∀ pair ∈ (s.listAt a).zip (after.listAt b), Copied s after pair.1 pair.2) :
    Copied s after (.list a) (.list b)
  | tuple {a b : Address} (new : s.New after .tuple b)
    (length : (after.tupleAt b).length = (s.tupleAt a).length)
    (items : ∀ pair ∈ (s.tupleAt a).zip (after.tupleAt b), Copied s after pair.1 pair.2) :
    Copied s after (.tuple a) (.tuple b)
  | mapping {v : Value} {b : Address} (mapping : v.isMapping = true) (new : s.New after .dict b)
    (keys : (after.dictAt b).map (fun slot => (slot.key,slot.label)) =
      (s.entries v).map fun slot => (slot.key,slot.label))
    (values : ∀ pair ∈ (s.entries v).zip (after.dictAt b),
      Copied s after pair.1.value pair.2.value) :
    Copied s after v (.dict b)

variable {α β : Type} {s : Store}

/-- Each item is taken a step on in some store on the way. -/
theorem mapStore_ok {step : α → Store → Except Fault (β × Store)}
    (grows : ∀ x s, Leads Grew s (step x s)) : ∀ {xs : List α} {ys : List β} {t after : Store},
    mapStore step xs t = .ok (ys,after) →
      List.Forall₂ (fun x y => ∃ here there, t.Grew here ∧ step x here = .ok (y,there) ∧
        there.Grew after) xs ys
  | [],ys,t,after,ran => by
    cases ran
    exact .nil
  | x :: xs,ys,t,after,ran => by
    obtain ⟨⟨y,mid⟩,first,ran⟩ := ok_of_bind ran
    obtain ⟨⟨rest,last⟩,others,ran⟩ := ok_of_bind ran
    cases ran
    have started := grows x t y mid first
    have ended := mapStore_leads grows xs mid _ _ others
    refine .cons ⟨t,mid,.refl t,first,ended⟩ ((mapStore_ok grows others).imp ?_)
    rintro x y ⟨here,there,grew,ran,still⟩
    exact ⟨here,there,started.trans grew,ran,still⟩

theorem mapSlot_ok {step : Value → Store → Except Fault (Value × Store)} {slot made : Slot}
    {t after : Store} (ran : mapSlot step slot t = .ok (made,after)) :
    step slot.value t = .ok (made.value,after) ∧ made.key = slot.key ∧ made.label = slot.label := by
  obtain ⟨⟨value,last⟩,ran,ended⟩ := ok_of_bind ran
  cases ended
  exact ⟨ran,rfl,rfl⟩

theorem mapSlot_leads {step : Value → Store → Except Fault (Value × Store)}
    (grows : ∀ x t, Leads Grew t (step x t)) (slot : Slot) (t : Store) :
    Leads Grew t (mapSlot step slot t) := fun _ _ ran => grows _ _ _ _ (mapSlot_ok ran).1

/-- All that copying a value can do, by what copying its parts does. -/
inductive CopyStep (inner : Value → Store → Except Fault (Value × Store)) (t : Store) :
    Value → Value × Store → Prop
  | same {v : Value} (plain : v.isContainer = false) : CopyStep inner t v (v,t)
  | empty {a : Address} (nothing : t.tupleAt a = []) : CopyStep inner t (.tuple a) (.tuple a,t)
  | blob {a : Address} : CopyStep inner t (.blob a) (t.newBlob (t.blobAt a))
  | list {a : Address} {items : List Value} {mid : Store}
    (copied : mapStore inner (t.listAt a) t = .ok (items,mid)) :
    CopyStep inner t (.list a) (mid.newList items)
  | tuple {a : Address} {items : List Value} {mid : Store}
    (copied : mapStore inner (t.tupleAt a) t = .ok (items,mid)) :
    CopyStep inner t (.tuple a) (mid.newTuple items)
  | mapping {v : Value} {d : Dict} {mid : Store} (mapping : v.isMapping = true)
    (copied : mapStore (mapSlot inner) (t.entries v) t = .ok (d,mid)) :
    CopyStep inner t v (mid.newDict d)

theorem copyWithin_step {fuel : Nat} {active : List Value} {v : Value} {t : Store}
    {made : Value × Store} (ran : copyWithin (fuel + 1) active v t = .ok made) :
    CopyStep (copyWithin fuel (v :: active)) t v made := by
  unfold copyWithin at ran
  dsimp only at ran
  split at ran
  · cases ran
  · split at ran
    · obtain ⟨⟨d,mid⟩,copied,ran⟩ := ok_of_bind ran
      cases ran
      exact .mapping rfl copied
    · obtain ⟨⟨d,mid⟩,copied,ran⟩ := ok_of_bind ran
      cases ran
      exact .mapping rfl copied
    · obtain ⟨⟨items,mid⟩,copied,ran⟩ := ok_of_bind ran
      cases ran
      exact .list copied
    · split at ran
      · next empty =>
        cases ran
        exact .empty (List.isEmpty_iff.mp empty)
      · obtain ⟨⟨items,mid⟩,copied,ran⟩ := ok_of_bind ran
        cases ran
        exact .tuple copied
    · cases ran
      exact .blob
    · next notDict notFrozen notList notTuple notBlob =>
      cases ran
      refine .same ?_
      cases v with
      | dict a => exact absurd rfl (notDict a)
      | frozen a => exact absurd rfl (notFrozen a)
      | list a => exact absurd rfl (notList a)
      | tuple a => exact absurd rfl (notTuple a)
      | blob a => exact absurd rfl (notBlob a)
      | _ => rfl

theorem Proper.of_held {v w : Value} (proper : s.Proper v) (held : w ∈ s.members v) :
    s.Proper w where
  inside _ within := proper.inside _ (within.of_held held)
  keys _ within := proper.keys _ (within.of_held held)

theorem Proper.of_within {v w : Value} (proper : s.Proper v) (within : s.Within v w) :
    s.Proper w := by
  induction within with
  | self => exact proper
  | member _ held ih => exact ih.of_held held

theorem Copied.mono {mid after : Store} (grew : mid.Grew after) {v w : Value}
    (copied : Copied s mid v w) : Copied s after v w := by
  have same {shelf : Shelf} {a : Address} (new : s.New mid shelf a) :
      s.New after shelf a ∧ after.object shelf a = mid.object shelf a :=
    ⟨⟨new.1,(grew shelf a new.2).1⟩,(grew shelf a new.2).2⟩
  induction copied with
  | same plain => exact .same plain
  | empty nothing => exact .empty nothing
  | blob new content =>
    have content' := Object.blob.inj (same new).2
    exact .blob (same new).1 (content'.trans content)
  | list new length items ih =>
    have content := Object.items.inj (same new).2
    exact .list (same new).1 (by rw [content]; exact length) (by rw [content]; exact ih)
  | tuple new length items ih =>
    have content := Object.items.inj (same new).2
    exact .tuple (same new).1 (by rw [content]; exact length) (by rw [content]; exact ih)
  | mapping mapping new keys values ih =>
    have content := Object.entries.inj (same new).2
    exact .mapping mapping (same new).1 (by rw [content]; exact keys) (by rw [content]; exact ih)

theorem members_mapping {v : Value} (mapping : v.isMapping = true) :
    s.members v = Dict.values (s.entries v) := by
  cases v <;> first | rfl | cases mapping

theorem Grew.size_le {after : Store} (grew : s.Grew after) : s.size ≤ after.size := by
  unfold size
  have le := grew.sizeOf_le
  repeat' apply Nat.add_le_add
  exacts [le .list,le .tuple,le .dict,le .frozen,le .fset,le .blob,le .node,le .failure,le .report,
    le .handle,le .context,le .scope]

theorem held_of_entry {v : Value} {slot : Slot} (member : slot ∈ s.entries v) :
    slot.value ∈ s.members v := by
  cases v <;> first | exact List.mem_map_of_mem member | cases member

theorem Grew.entries {after : Store} (grew : s.Grew after) {v : Value} (inside : v.Inside s) :
    after.entries v = s.entries v := by
  cases v with
  | dict a => exact Object.entries.inj (grew .dict a (inside .dict a rfl)).2
  | frozen a => exact Object.entries.inj (grew .frozen a (inside .frozen a rfl)).2
  | _ => rfl

theorem New.of_adds {mid after : Store} (grew : s.Grew mid) {shelf : Shelf} {o : Object}
    (adds : mid.Adds after shelf o) : s.New after shelf (mid.sizeOf shelf) :=
  ⟨grew.sizeOf_le shelf,by rw [adds.size]; exact Nat.lt_succ_self _⟩

section Making

variable {mid : Store} (grew : s.Grew mid)
include grew

theorem Copied.newList {a : Address} {items : List Value}
    (length : items.length = (s.listAt a).length)
    (made : ∀ pair ∈ (s.listAt a).zip items, Copied s mid pair.1 pair.2) :
    Copied s (mid.newList items).2 (.list a) (mid.newList items).1 := by
  have adds := mid.newList_adds items
  have content : (mid.newList items).2.listAt mid.lists.size = items := Object.items.inj adds.object
  refine .list (.of_adds grew adds) (by rw [content,length]) ?_
  rw [content]
  exact fun pair member => (made pair member).mono (.of_adds adds)

theorem Copied.newTuple {a : Address} {items : List Value}
    (length : items.length = (s.tupleAt a).length)
    (made : ∀ pair ∈ (s.tupleAt a).zip items, Copied s mid pair.1 pair.2) :
    Copied s (mid.newTuple items).2 (.tuple a) (mid.newTuple items).1 := by
  have adds := mid.newTuple_adds items
  have content : (mid.newTuple items).2.tupleAt mid.tuples.size = items :=
    Object.items.inj adds.object
  refine .tuple (.of_adds grew adds) (by rw [content,length]) ?_
  rw [content]
  exact fun pair member => (made pair member).mono (.of_adds adds)

theorem Copied.newDict {v : Value} {d : Dict} (mapping : v.isMapping = true)
    (keys : d.map (fun slot => (slot.key,slot.label)) =
      (s.entries v).map fun slot => (slot.key,slot.label))
    (made : ∀ pair ∈ (s.entries v).zip d, Copied s mid pair.1.value pair.2.value) :
    Copied s (mid.newDict d).2 v (mid.newDict d).1 := by
  have adds := mid.newDict_adds d
  have content : (mid.newDict d).2.dictAt mid.dicts.size = d := Object.entries.inj adds.object
  refine .mapping mapping (.of_adds grew adds) (by rw [content,keys]) ?_
  rw [content]
  exact fun pair member => (made pair member).mono (.of_adds adds)

theorem Copied.newBlob {a : Address} (inside : a < s.blobs.size) :
    Copied s (mid.newBlob (mid.blobAt a)).2 (.blob a) (mid.newBlob (mid.blobAt a)).1 := by
  have same : mid.blobAt a = s.blobAt a := Object.blob.inj (grew .blob a inside).2
  have adds := mid.newBlob_adds (mid.blobAt a)
  exact .blob (.of_adds grew adds) ((Object.blob.inj adds.object).trans same)

end Making

/-- The copies of parts, each made in the store that the ones before it left. -/
theorem copied_parts (of : α → Value) (onto : β → Value)
    {step : α → Store → Except Fault (β × Store)} {xs : List α} {ys : List β} {t mid : Store}
    (grows : ∀ x t, Leads Grew t (step x t))
    (copies : ∀ x ∈ xs, ∀ here made, t.Grew here → step x here = .ok made →
      Copied s made.2 (of x) (onto made.1))
    (ran : mapStore step xs t = .ok (ys,mid)) :
    ys.length = xs.length ∧ ∀ pair ∈ xs.zip ys, Copied s mid (of pair.1) (onto pair.2) := by
  obtain ⟨length,steps⟩ := List.forall₂_iff_zip.mp (mapStore_ok grows ran)
  refine ⟨length.symm,fun pair member => ?_⟩
  obtain ⟨here,there,grew,ran,still⟩ := steps member
  exact (copies pair.1 (List.of_mem_zip member).1 here (pair.2,there) grew ran).mono still

theorem mapSlot_keys {step : Value → Store → Except Fault (Value × Store)} {d copies : Dict}
    {t mid : Store} (grows : ∀ slot t, Leads Grew t (mapSlot step slot t))
    (ran : mapStore (mapSlot step) d t = .ok (copies,mid)) :
    copies.map (fun slot => (slot.key,slot.label)) = d.map fun slot => (slot.key,slot.label) := by
  have steps := mapStore_ok grows ran
  clear ran
  induction steps with
  | nil => rfl
  | cons one _ ih =>
    obtain ⟨here,there,-,ran,-⟩ := one
    obtain ⟨-,key,label⟩ := mapSlot_ok ran
    rw [List.map_cons,List.map_cons,key,label,ih]

theorem copied_of_copyWithin (fuel : Nat) : ∀ {active : List Value} {v : Value} {t : Store}
    {made : Value × Store}, s.Proper v → s.Grew t → copyWithin fuel active v t = .ok made →
    Copied s made.2 v made.1 := by
  induction fuel with
  | zero =>
    intro active v t made _ _ ran
    cases ran
  | succ fuel ih =>
    intro active v t made proper grew ran
    have inside := proper.inside v .self
    have grows (x : Value) (t : Store) := copyWithin_leads Grew.makes fuel (v :: active) x t
    have items {xs ys : List Value} {mid : Store} (held : s.members v = xs)
        (ran : mapStore (copyWithin fuel (v :: active)) xs t = .ok (ys,mid)) :=
      copied_parts (fun x => x) (fun y => y) grows
        (fun x member _ _ later ran =>
          ih (proper.of_held (held ▸ member)) (grew.trans later) ran) ran
    cases copyWithin_step ran with
    | same plain => exact .same plain
    | empty nothing =>
      have same : t.tupleAt _ = s.tupleAt _ :=
        Object.items.inj (grew .tuple _ (inside .tuple _ rfl)).2
      exact .empty (same ▸ nothing)
    | blob => exact .newBlob grew (inside .blob _ rfl)
    | @list a values mid copied =>
      rw [show t.listAt a = s.listAt a from
        Object.items.inj (grew .list a (inside .list a rfl)).2] at copied
      obtain ⟨length,made⟩ := items rfl copied
      exact .newList (grew.trans (mapStore_leads grows _ _ _ _ copied)) length made
    | @tuple a values mid copied =>
      rw [show t.tupleAt a = s.tupleAt a from
        Object.items.inj (grew .tuple a (inside .tuple a rfl)).2] at copied
      obtain ⟨length,made⟩ := items rfl copied
      exact .newTuple (grew.trans (mapStore_leads grows _ _ _ _ copied)) length made
    | @mapping _ d mid mapping copied =>
      rw [grew.entries inside] at copied
      obtain ⟨-,made⟩ := copied_parts (·.value) (·.value) (mapSlot_leads grows)
        (fun slot member _ made later ran =>
          ih (proper.of_held (held_of_entry member)) (grew.trans later) (mapSlot_ok ran).1) copied
      exact .newDict (grew.trans (mapStore_leads (mapSlot_leads grows) _ _ _ _ copied)) mapping
        (mapSlot_keys (mapSlot_leads grows) copied) made

/-- What is held in a copy is a copy of something held in the original. -/
theorem Copied.held {after : Store} (grew : s.Grew after) {v w y : Value} (proper : s.Proper v)
    (copied : Copied s after v w) (held : y ∈ after.members w) :
    ∃ x ∈ s.members v, Copied s after x y := by
  have paired {xs ys : List Value} (length : ys.length = xs.length)
      (items : ∀ pair ∈ xs.zip ys, Copied s after pair.1 pair.2) (held : y ∈ ys) :
      ∃ x ∈ xs, Copied s after x y := by
    obtain ⟨place,short,rfl⟩ := List.mem_iff_getElem.mp held
    have long : place < xs.length := length ▸ short
    refine ⟨xs[place],List.getElem_mem long,?_⟩
    exact items (xs[place],ys[place]) (List.mem_iff_getElem.mpr ⟨place,by simp [*],by simp⟩)
  cases copied with
  | same plain =>
    rw [members_none plain] at held
    cases held
  | empty nothing =>
    rw [grew.members (proper.inside _ .self),show s.members (.tuple _) = [] from nothing] at held
    cases held
  | blob => cases held
  | list new length items => exact paired length items held
  | tuple new length items => exact paired length items held
  | @mapping _ b mapping new keys values =>
    rw [members_mapping mapping]
    have held : y ∈ Dict.values (after.dictAt b) := held
    refine paired ?_ (fun pair member => ?_) held
    · simpa [Dict.values] using congrArg List.length keys
    · rw [Dict.values,Dict.values,List.zip_map] at member
      obtain ⟨slots,among,rfl⟩ := List.mem_map.mp member
      exact values slots among

/-- Everything in a copy is a copy of something in the original. -/
theorem Copied.within {after : Store} (grew : s.Grew after) {v w y : Value} (proper : s.Proper v)
    (copied : Copied s after v w) (within : after.Within w y) :
    ∃ x, s.Within v x ∧ Copied s after x y := by
  induction within with
  | self => exact ⟨v,.self,copied⟩
  | member _ held ih =>
    obtain ⟨outer,within,copied⟩ := ih
    obtain ⟨x,member,copied⟩ := copied.held grew (proper.of_within within) held
    exact ⟨x,.member within member,copied⟩

/-- Nothing that can change lies in a copy and was there before. -/
theorem Copied.fresh {after : Store} (grew : s.Grew after) {v w y : Value} (proper : s.Proper v)
    (copied : Copied s after v w) (within : after.Within w y) (mutable : y.isMutable = true) :
    ¬ y.Inside s := by
  obtain ⟨x,-,copied⟩ := copied.within grew proper within
  have outside {shelf : Shelf} {a : Address} (here : y.spot? = some (shelf,a))
      (new : s.New after shelf a) : ¬ y.Inside s :=
    fun inside => Nat.not_lt.mpr new.1 (inside shelf a here)
  cases copied with
  | same plain =>
    rw [Value.isContainer_of_isMutable mutable] at plain
    cases plain
  | empty => cases mutable
  | blob new => exact outside rfl new
  | list new => exact outside rfl new
  | tuple new => exact outside rfl new
  | mapping _ new => exact outside rfl new

theorem allPairs_true {compare : α → β → Except Fault Bool} {pairs : List (α × β)}
    (equal : ∀ pair ∈ pairs, compare pair.1 pair.2 = .ok true) :
    allPairs compare pairs = .ok true := by
  induction pairs with
  | nil => rfl
  | cons pair pairs ih =>
    rw [allPairs,equal pair List.mem_cons_self]
    exact ih fun other member => equal other (List.mem_cons_of_mem _ member)

theorem sameKeys_of_keys {d other : Dict} (keys : other.map (·.key) = d.map (·.key)) :
    sameKeys d other = true := by
  have length : other.length = d.length := by simpa using congrArg List.length keys
  rw [sameKeys,length,beq_self_eq_true,Bool.true_and,List.all_eq_true]
  intro slot member
  have present : slot.key ∈ other.map (·.key) := keys ▸ List.mem_map_of_mem member
  obtain ⟨twin,among,same⟩ := List.mem_map.mp present
  exact List.any_eq_true.mpr ⟨twin,among,by simpa using same⟩

theorem pairedEntries_zip {d other : Dict} (keys : other.map (·.key) = d.map (·.key))
    (once : (d.map (·.key)).Nodup) :
    pairedEntries d other = (d.zip other).map fun pair => (pair.1.value,pair.2.value) := by
  induction d generalizing other with
  | nil => rfl
  | cons slot d ih =>
    cases other with
    | nil => cases keys
    | cons twin other =>
      obtain ⟨(same : twin.key = slot.key),keys⟩ := List.cons.inj keys
      obtain ⟨absent,once⟩ := List.nodup_cons.mp once
      have skipped (later : Slot) (member : later ∈ d) :
          Dict.get (twin :: other) later.key = Dict.get other later.key := by
        have apart : twin.key ≠ later.key := by
          rw [same]
          intro equal
          exact absent (List.mem_map.mpr ⟨later,member,equal.symm⟩)
        simp [Dict.get,Dict.get?,apart]
      have first : Dict.get (twin :: other) slot.key = twin.value := by
        simp [Dict.get,Dict.get?,same,Value.ofOption]
      have rest : pairedEntries d (twin :: other) = pairedEntries d other :=
        List.map_congr_left fun later member => by rw [skipped later member]
      rw [List.zip_cons_cons,List.map_cons,← ih keys once,← rest,← first]
      rfl

theorem equalWithin_self {v : Value} (number : v.isNaN = false) (fuel : Nat) :
    s.equalWithin (fuel + 1) v v = .ok true := by
  unfold equalWithin
  dsimp only
  cases v with
  | float x =>
    have number : x.isNaN = false := number
    simp [Value.number?,Value.numbersEqual,Number.Binary64.equal,number]
  | _ => simp [Value.number?,Value.numbersEqual]

theorem sameLocation_self (a : Address) : s.sameLocation a a = true := sameLocationWithin_self _ a

theorem equal_blob {a b : Address} (content : s.blobAt b = s.blobAt a)
    (number : (s.blobAt a).mediaType.isNaN = false) : s.equal (.blob a) (.blob b) = .ok true := by
  obtain ⟨less,slack⟩ : ∃ less, s.size + comparisonSlack = less + 2 := ⟨s.size + 998,rfl⟩
  have equal : blobsEqual (s.equalWithin (less + 1)) (s.blobAt a) (s.blobAt b) = .ok true := by
    rw [content,blobsEqual,equalWithin_self number]
    simp [bind,Except.bind]
  rw [Store.equal,slack,equalWithin]
  simp [Value.number?,equal]

/-- Copies are deeply equal to what they are copies of. The search for a cycle that has ended bounds
how deep the value nests. -/
theorem Copied.deepEqual {after : Store} (grew : s.Grew after) (fuel : Nat) :
    ∀ {active : List Value} {v w : Value} {more : Nat}, s.Proper v → s.NoNaN v →
    s.cyclicWithin fuel active v = false → fuel ≤ more → Copied s after v w →
    after.deepEqualWithin more v w = .ok true := by
  induction fuel with
  | zero =>
    intro active v w more _ _ ends
    cases ends
  | succ fuel ih =>
    intro active v w more proper numbers ends enough copied
    obtain ⟨more,rfl⟩ : ∃ less, more = less + 1 := ⟨more - 1,by omega⟩
    have inside := proper.inside v .self
    have number := (numbers v .self).1
    unfold deepEqualWithin
    dsimp only
    have part {x y : Value} (held : x ∈ s.members v) (copied : Copied s after x y) :
        after.deepEqualWithin more x y = .ok true := by
      unfold cyclicWithin at ends
      rw [if_pos (isContainer_of_held held),Bool.or_eq_false_iff,List.any_eq_false] at ends
      refine ih (proper.of_held held) ?_ (Bool.not_eq_true _ ▸ ends.2 x held) (by omega) copied
      exact fun u within => numbers u (within.of_held held)
    have self : after.equal v v = .ok true := equalWithin_self number _
    have sequence (length : (after.members w).length = (s.members v).length)
        (items : ∀ pair ∈ (s.members v).zip (after.members w), Copied s after pair.1 pair.2) :
        (if v == w then .ok true
          else if (after.members v).length == (after.members w).length then
            allPairs (after.deepEqualWithin more) ((after.members v).zip (after.members w))
          else .ok false) = .ok true := by
      rw [grew.members inside,length,beq_self_eq_true,if_pos rfl,allPairs_true,ite_self]
      exact fun pair member => part (List.of_mem_zip member).1 (items pair member)
    cases copied with
    | same plain =>
      rw [bne_self_eq_false,if_neg Bool.false_ne_true]
      cases v with
      | null => rfl
      | ref a => exact congrArg Except.ok (sameLocation_self a)
      | list a => cases plain
      | tuple a => cases plain
      | dict a => cases plain
      | frozen a => cases plain
      | blob a => cases plain
      | _ => exact self
    | empty nothing => simp [Value.kind]
    | @blob a b new content =>
      have before : after.blobAt a = s.blobAt a :=
        Object.blob.inj (grew .blob a (inside .blob a rfl)).2
      have whole : after.equal (.blob a) (.blob b) = .ok true :=
        equal_blob (content.trans before.symm) (before ▸ (numbers _ .self).2 _ rfl)
      exact whole
    | list new length items => exact sequence length items
    | tuple new length items => exact sequence length items
    | @mapping _ b mapping new keys values =>
      have kind : v.kind = .mapping := by simpa [Value.isMapping] using mapping
      have keys : (after.dictAt b).map (·.key) = (s.entries v).map (·.key) := by
        have firsts := congrArg (List.map Prod.fst) keys
        rwa [List.map_map,List.map_map] at firsts
      have equal : allPairs (after.deepEqualWithin more)
          (pairedEntries (s.entries v) (after.dictAt b)) = .ok true := by
        rw [pairedEntries_zip keys (proper.keys v .self)]
        refine allPairs_true fun pair member => ?_
        obtain ⟨slots,among,rfl⟩ := List.mem_map.mp member
        exact part (held_of_entry (List.of_mem_zip among).1) (values slots among)
      rw [kind]
      show (if v == .dict b then _ else if sameKeys (after.entries v) (after.dictAt b) then
        allPairs _ (pairedEntries (after.entries v) (after.dictAt b)) else _) = _
      rw [grew.entries inside,sameKeys_of_keys keys,if_pos rfl,equal,ite_self]

/-- How copying ends, by whether there is a cycle. -/
inductive Ends : Bool → Except Fault α → Prop
  | error : Ends true (.error .cyclicCopy)
  | ok (made : α) : Ends false (.ok made)

theorem Ends.error_iff {result : Except Fault α} {cyclic : Bool} (ends : Ends cyclic result) :
    cyclic = true ↔ result = .error .cyclicCopy := by
  cases ends <;> simp

theorem Ends.made {result : Except Fault α} (ends : Ends false result) :
    ∃ made, result = .ok made := by
  cases ends with
  | ok made => exact ⟨made,rfl⟩

theorem Ends.bind {first : Except Fault α} {next : α → Except Fault β} {cyclic more : Bool}
    (ends : Ends cyclic first) (onwards : ∀ made, first = .ok made → Ends more (next made)) :
    Ends (cyclic || more) (first >>= next) := by
  cases ends with
  | error => exact .error
  | ok made => exact onwards made rfl

theorem Ends.map {first : Except Fault α} {next : α → β} {cyclic : Bool}
    (ends : Ends cyclic first) :
    Ends cyclic (first >>= fun made => .ok (next made)) := by
  cases ends with
  | error => exact .error
  | ok made => exact .ok (next made)

theorem mapStore_ends {cyclic : α → Bool} {step : α → Store → Except Fault (β × Store)}
    (grows : ∀ x t, Leads Grew t (step x t)) : ∀ {xs : List α} {t : Store}, s.Grew t →
    (∀ x ∈ xs, ∀ t, s.Grew t → Ends (cyclic x) (step x t)) →
    Ends (xs.any cyclic) (mapStore step xs t)
  | [],t,_,_ => .ok ([],t)
  | x :: xs,t,grew,steps => by
    rw [List.any_cons]
    refine (steps x List.mem_cons_self t grew).bind fun made ran => ?_
    have later := grew.trans (grows x t made.1 made.2 ran)
    exact (mapStore_ends grows later fun x member => steps x (List.mem_cons_of_mem _ member)).map

/-- Copying fails where the search for a cycle finds one, and nowhere else. -/
theorem copyWithin_ends (fuel : Nat) : ∀ {active : List Value} {v : Value} {t : Store},
    s.Proper v → s.Grew t → Ends (s.cyclicWithin fuel active v) (copyWithin fuel active v t) := by
  induction fuel with
  | zero => exact fun _ _ => .error
  | succ fuel ih =>
    intro active v t proper grew
    have inside := proper.inside v .self
    have grows (x : Value) (t : Store) := copyWithin_leads Grew.makes fuel (v :: active) x t
    have items : Ends ((s.members v).any (s.cyclicWithin fuel (v :: active)))
        (mapStore (copyWithin fuel (v :: active)) (t.members v) t) := by
      rw [grew.members inside]
      exact mapStore_ends grows grew fun x member t later => ih (proper.of_held member) later
    have entries (mapping : v.isMapping = true) :
        Ends ((s.members v).any (s.cyclicWithin fuel (v :: active)))
          (mapStore (mapSlot (copyWithin fuel (v :: active))) (t.entries v) t) := by
      rw [grew.entries inside,members_mapping mapping,Dict.values,List.any_map]
      exact mapStore_ends (mapSlot_leads grows) grew fun slot member t later =>
        (ih (proper.of_held (held_of_entry member)) later).map
    unfold cyclicWithin copyWithin
    dsimp only
    cases container : v.isMapping || v.kind == .sequence with
    | false =>
      rw [Bool.and_false,if_neg Bool.false_ne_true,if_neg Bool.false_ne_true]
      cases v <;> first | exact .ok _ | cases container
    | true =>
      rw [Bool.and_true,if_pos rfl]
      cases again : active.contains v with
      | true => exact .error
      | false =>
        rw [if_neg Bool.false_ne_true,Bool.false_or]
        cases v with
        | dict a => exact (entries rfl).map
        | frozen a => exact (entries rfl).map
        | list a => exact items.map
        | tuple a =>
          dsimp only
          split
          · next empty =>
            have none : s.members (.tuple a) = [] := by
              rw [← grew.members inside]
              exact List.isEmpty_iff.mp empty
            rw [none]
            exact .ok _
          · exact items.map
        | _ => cases container

theorem Within.among {values : List Value} {v w : Value} (within : s.Within v w)
    (start : v ∈ values) (closed : ∀ x ∈ values, ∀ y ∈ s.members x, y ∈ values) : w ∈ values := by
  induction within with
  | self => exact start
  | member _ held ih => exact closed _ ih _ held

/-- What holds of values that hold no others holds of everything in one of them. -/
theorem Proper.of_among (values : List Value) {v : Value} (start : v ∈ values)
    (closed : ∀ x ∈ values, ∀ y ∈ s.members x, y ∈ values)
    (inside : ∀ x ∈ values, ∀ spot ∈ x.spot?, spot.2 < s.sizeOf spot.1)
    (keys : ∀ x ∈ values, ((s.entries x).map (·.key)).Nodup) : s.Proper v where
  inside _ within shelf a here := inside _ (within.among start closed) (shelf,a) here
  keys _ within := keys _ (within.among start closed)

/-- A read-only mapping over a dictionary that holds one list twice, with a reference, a blob and an
empty tuple, and a list that contains itself. -/
def tangled : Store :=
  { Store.empty with
    lists := ⟨#[[.int 1,.ref 0],[.str "x",.list 1]]⟩
    tuples := ⟨#[[.blob 0,.tuple 1],[]]⟩
    dicts := ⟨#[[⟨.text "a",.str "a",.list 0⟩,⟨.text "b",.str "b",.list 0⟩,
      ⟨.text "c",.str "c",.tuple 0⟩]]⟩
    frozens := ⟨#[[⟨.text "d",.str "d",.dict 0⟩]]⟩
    blobs := ⟨#[⟨.str "text/plain",[97]⟩]⟩
    handles := ⟨#[.cell .null "cell"]⟩ }

def layered : List Value :=
  [.frozen 0,.dict 0,.list 0,.tuple 0,.tuple 1,.blob 0,.int 1,.ref 0]

/-- A blob with a list for its media type, and a tuple around a list that contains itself. -/
def labelled : Store :=
  { Store.empty with
    lists := ⟨#[[.str "x"],[.list 1]]⟩
    tuples := ⟨#[[.list 1]]⟩
    blobs := ⟨#[⟨.list 0,[97]⟩]⟩ }

end Store
end PageRuntime
