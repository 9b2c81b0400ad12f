import Mathlib.Data.Finset.Union
import PageRuntime.Proofs.Following
import PageRuntime.Proofs.LikeValues
import PageRuntime.Value.Copy

/-! Copies in stores that are alike. Copying only makes objects, so it leaves the stores alike, with
the copies paired. -/
namespace PageRuntime
namespace Store

/-- Both stores have only gained objects, which are paired in the order they came. -/
structure Gained (link : Link) (s other after otherAfter : Store) : Prop where
  paced : s.Abreast other after otherAfter
  grew : s.Grew after
  otherGrew : other.Grew otherAfter
  alike : after.Alike (link.extend s other after) otherAfter

namespace Gained

variable {link : Link} {s other mid otherMid after otherAfter : Store}

theorem refl (alike : s.Alike link other) : Gained link s other s other where
  paced _ := ⟨0,rfl,rfl⟩
  grew := .refl s
  otherGrew := .refl other
  alike := by
    rw [link.extend_of_sizes fun _ => rfl]
    exact alike

theorem trans (first : Gained link s other mid otherMid)
    (second : Gained (link.extend s other mid) mid otherMid after otherAfter) :
    Gained link s other after otherAfter where
  paced := first.paced.trans second.paced
  grew := first.grew.trans second.grew
  otherGrew := first.otherGrew.trans second.otherGrew
  alike := by
    rw [← first.paced.extend second.paced]
    exact second.alike

theorem of_adds (alike : s.Alike link other) {shelf : Shelf} {o p : Object}
    (adds : s.Adds after shelf o) (otherAdds : other.Adds otherAfter shelf p)
    (notScope : Shelf.scope ≠ shelf)
    (new : o.Alike (link.add shelf (s.sizeOf shelf) (other.sizeOf shelf)) p) :
    Gained link s other after otherAfter where
  paced k := by
    by_cases here : k = shelf
    · subst here
      exact ⟨1,adds.size,otherAdds.size⟩
    · exact ⟨0,adds.sizes k here,otherAdds.sizes k here⟩
  grew := .of_adds adds
  otherGrew := .of_adds otherAdds
  alike := by
    rw [link.extend_of_adds adds]
    exact alike.of_adds adds otherAdds (alike.ordered.of_adds adds notScope)
      (alike.otherOrdered.of_adds otherAdds notScope) new

theorem onward {r otherRuntime : Runtime} (twin : r.Twin link otherRuntime)
    (gained : Gained link r.store otherRuntime.store after otherAfter) :
    Runtime.Onward link r otherRuntime { r with store := after }
      { otherRuntime with store := otherAfter } where
  paced := gained.paced
  only := .of_grew gained.grew link
  twin := by
    have le := link.le_extend r.store otherRuntime.store after
    refine ⟨⟨gained.alike,twin.alike.roots.imp fun _ _ one => ⟨one.1,one.2.mono le⟩,
      le.option twin.alike.document,twin.alike.surroundings⟩,?_⟩
    obtain ⟨n,left,right⟩ := gained.paced .handle
    have handles : r.store.sizeOf .handle = otherRuntime.store.sizeOf .handle := twin.handles
    show after.sizeOf .handle = otherAfter.sizeOf .handle
    rw [left,right,handles]

end Gained

variable {α β γ δ : Type}

/-- If one result is a value and a store then so is the other, and both stores have gained alike
objects. -/
def Matches (link : Link) (s other : Store) (rel : Link → α → β → Prop)
    (result : Except Fault (α × Store)) (otherResult : Except Fault (β × Store)) : Prop :=
  ∀ x after, result = .ok (x,after) → ∃ y otherAfter, otherResult = .ok (y,otherAfter) ∧
    Gained link s other after otherAfter ∧ rel (link.extend s other after) x y

namespace Matches

variable {link : Link} {s other : Store} {rel : Link → α → β → Prop} {relNext : Link → γ → δ → Prop}

theorem ok (alike : s.Alike link other) {x : α} {y : β} (related : rel link x y) :
    Matches link s other rel (.ok (x,s)) (.ok (y,other)) := by
  rintro _ _ ⟨⟩
  refine ⟨y,other,rfl,.refl alike,?_⟩
  rwa [link.extend_of_sizes fun _ => rfl]

theorem error (fault : Fault) (otherResult : Except Fault (β × Store)) :
    Matches link s other rel (.error fault) otherResult := by
  rintro x after ⟨⟩

theorem bind {result : Except Fault (α × Store)} {otherResult : Except Fault (β × Store)}
    {next : α × Store → Except Fault (γ × Store)} {otherNext : β × Store → Except Fault (δ × Store)}
    (first : Matches link s other rel result otherResult)
    (later : ∀ x y mid otherMid, Gained link s other mid otherMid → rel (link.extend s other mid) x y →
      Matches (link.extend s other mid) mid otherMid relNext (next (x,mid)) (otherNext (y,otherMid))) :
    Matches link s other relNext (result >>= next) (otherResult >>= otherNext) := by
  intro z after ran
  obtain ⟨⟨x,mid⟩,here,ranNext⟩ := ok_of_bind ran
  obtain ⟨y,otherMid,there,gained,related⟩ := first x mid here
  obtain ⟨w,otherAfter,otherRan,further,relatedNext⟩ := later x y mid otherMid gained related z after ranNext
  refine ⟨w,otherAfter,by rw [there]; exact otherRan,gained.trans further,?_⟩
  rw [← gained.paced.extend further.paced]
  exact relatedNext

theorem make (alike : s.Alike link other) {x : α} {y : β} {after otherAfter : Store} {shelf : Shelf}
    {o p : Object} (adds : s.Adds after shelf o) (otherAdds : other.Adds otherAfter shelf p)
    (notScope : Shelf.scope ≠ shelf)
    (new : o.Alike (link.add shelf (s.sizeOf shelf) (other.sizeOf shelf)) p)
    (related : rel (link.add shelf (s.sizeOf shelf) (other.sizeOf shelf)) x y) :
    Matches link s other rel (.ok (x,after)) (.ok (y,otherAfter)) := by
  rintro _ _ ⟨⟩
  refine ⟨y,otherAfter,rfl,.of_adds alike adds otherAdds notScope new,?_⟩
  rwa [link.extend_of_adds adds]

end Matches

/-- Two stores some time after stores that were alike: they have only gained objects. -/
structure Later (base : Link) (s other : Store) (link : Link) (t u : Store) : Prop where
  le : base.Le link
  grew : s.Grew t
  otherGrew : other.Grew u
  alike : t.Alike link u

theorem Later.gained {base link : Link} {s other t u mid otherMid : Store}
    (later : Later base s other link t u) (gained : Gained link t u mid otherMid) :
    Later base s other (link.extend t u mid) mid otherMid where
  le := later.le.trans (link.le_extend t u mid)
  grew := later.grew.trans gained.grew
  otherGrew := later.otherGrew.trans gained.otherGrew
  alike := gained.alike

/-- Steps that match on all related inputs match on lists of them. -/
theorem mapStore_matches {base : Link} {s other : Store} {relIn : α → β → Prop}
    {rel : Link → γ → δ → Prop}
    (mono : ∀ link more x y, Link.Le link more → rel link x y → rel more x y)
    {step : α → Store → Except Fault (γ × Store)} {otherStep : β → Store → Except Fault (δ × Store)}
    (steps : ∀ link t u x y, Later base s other link t u → relIn x y →
      Matches link t u rel (step x t) (otherStep y u))
    {xs : List α} {ys : List β} (inputs : List.Forall₂ relIn xs ys) {link : Link} {t u : Store}
    (later : Later base s other link t u) :
    Matches link t u (fun link => List.Forall₂ (rel link)) (mapStore step xs t)
      (mapStore otherStep ys u) := by
  induction inputs generalizing link t u with
  | nil => exact .ok later.alike .nil
  | @cons x y xs ys one _ ih =>
    refine .bind (steps link t u x y later one) fun x' y' mid otherMid gained made => ?_
    refine .bind (ih (later.gained gained)) fun rest others last otherLast further made' => ?_
    exact .ok further.alike (.cons (mono _ _ _ _ (Link.le_extend _ _ _ _) made) made')

/-- The values of a store that hold other values. -/
def containers (s : Store) : Finset Value :=
  (Finset.range s.lists.size).image .list ∪ (Finset.range s.tuples.size).image .tuple ∪
    (Finset.range s.dicts.size).image .dict ∪ (Finset.range s.frozens.size).image .frozen ∪
    (Finset.range s.fsets.size).image .fset

theorem mem_containers {s : Store} {v : Value} {shelf : Shelf} {a : Address}
    (place : v.spot? = some (shelf,a)) (inside : a < s.sizeOf shelf)
    (holds : shelf ∈ [Shelf.list,.tuple,.dict,.frozen,.fset]) : v ∈ s.containers := by
  simp only [containers,Finset.mem_union,Finset.mem_image,Finset.mem_range]
  cases v with
  | list a => cases place; exact .inl (.inl (.inl (.inl ⟨a,inside,rfl⟩)))
  | tuple a => cases place; exact .inl (.inl (.inl (.inr ⟨a,inside,rfl⟩)))
  | dict a => cases place; exact .inl (.inl (.inr ⟨a,inside,rfl⟩))
  | frozen a => cases place; exact .inl (.inr ⟨a,inside,rfl⟩)
  | fset a => cases place; exact .inr ⟨a,inside,rfl⟩
  | _ => cases place <;> simp at holds

theorem containers_card (s : Store) : s.containers.card ≤ s.size := by
  have counts (f : Nat → Value) (n : Nat) : ((Finset.range n).image f).card ≤ n :=
    Finset.card_image_le.trans_eq (Finset.card_range n)
  have lists := counts .list s.lists.size
  have tuples := counts .tuple s.tuples.size
  have dicts := counts .dict s.dicts.size
  have frozens := counts .frozen s.frozens.size
  have fsets := counts .fset s.fsets.size
  unfold containers size
  refine (Finset.card_union_le _ _).trans ?_
  have most := (Finset.card_union_le _ _).trans (Nat.add_le_add_right ((Finset.card_union_le _ _).trans
    (Nat.add_le_add_right (Finset.card_union_le ((Finset.range s.lists.size).image Value.list)
      ((Finset.range s.tuples.size).image .tuple)) ((Finset.range s.dicts.size).image .dict).card))
    ((Finset.range s.frozens.size).image .frozen).card)
  omega

theorem nested_length (s : Store) {active : List Value} (distinct : active.Nodup)
    (inside : ∀ v ∈ active, v ∈ s.containers) : active.length ≤ s.size := by
  rw [← List.toFinset_card_of_nodup distinct]
  refine (Finset.card_le_card fun v member => ?_).trans s.containers_card
  exact inside v (List.mem_toFinset.mp member)

theorem contains_alike {link : Link} (paired : link.Paired) {active otherActive : List Value}
    (alike : Values.Alike link active otherActive) {v w : Value} (same : v.Alike link w) :
    otherActive.contains w = active.contains v := by
  induction alike with
  | nil => rfl
  | @cons x y _ _ one _ ih =>
    rw [List.contains_cons,List.contains_cons,ih]
    congr 1
    have equal := same.eq_iff paired one
    by_cases here : v = x
    · simp [here,equal.mp here]
    · simp [here,mt equal.mpr here]

/-- What of a copy remains to be made: the copies that are being made around it are of different
containers, so there are no more of them than the fuel was given for. -/
structure Nested (other : Store) (fuel : Nat) (active : List Value) : Prop where
  distinct : active.Nodup
  inside : ∀ v ∈ active, v ∈ other.containers
  enough : other.size + 2 ≤ fuel + active.length

theorem Nested.inner {other : Store} {fuel : Nat} {active : List Value} {v : Value}
    (nested : other.Nested (fuel + 1) active) (new : active.contains v = false)
    (container : v ∈ other.containers) : other.Nested fuel (v :: active) where
  distinct := by
    refine List.nodup_cons.mpr ⟨fun member => ?_,nested.distinct⟩
    rw [List.contains_iff_mem.mpr member] at new
    cases new
  inside w member := by
    obtain rfl | member := List.mem_cons.mp member
    · exact container
    · exact nested.inside w member
  enough := by
    have enough := nested.enough
    rw [List.length_cons]
    omega

theorem Nested.pos {other : Store} {fuel : Nat} {active : List Value}
    (nested : other.Nested fuel active) : ∃ less, fuel = less + 1 := by
  have few := other.nested_length nested.distinct nested.inside
  have enough := nested.enough
  exact ⟨fuel - 1,by omega⟩

section Copying

variable {base : Link} {s other : Store} (before : s.Alike base other)
include before

theorem Later.listAt {link : Link} {t u : Store} (later : Later base s other link t u) {a b : Address}
    (linked : base .list a b) : Values.Alike base (t.listAt a) (u.listAt b) := by
  obtain ⟨inside,otherInside⟩ := before.inside _ _ _ linked
  rw [show t.listAt a = s.listAt a from Object.items.inj (later.grew .list a inside).2,
    show u.listAt b = other.listAt b from Object.items.inj (later.otherGrew .list b otherInside).2]
  exact before.listAt linked

theorem Later.tupleAt {link : Link} {t u : Store} (later : Later base s other link t u)
    {a b : Address} (linked : base .tuple a b) :
    Values.Alike base (t.tupleAt a) (u.tupleAt b) := by
  obtain ⟨inside,otherInside⟩ := before.inside _ _ _ linked
  rw [show t.tupleAt a = s.tupleAt a from Object.items.inj (later.grew .tuple a inside).2,
    show u.tupleAt b = other.tupleAt b from Object.items.inj (later.otherGrew .tuple b otherInside).2]
  exact before.tupleAt linked

theorem Later.dictAt {link : Link} {t u : Store} (later : Later base s other link t u) {a b : Address}
    (linked : base .dict a b) : Dict.Alike base (t.dictAt a) (u.dictAt b) := by
  obtain ⟨inside,otherInside⟩ := before.inside _ _ _ linked
  rw [show t.dictAt a = s.dictAt a from Object.entries.inj (later.grew .dict a inside).2,
    show u.dictAt b = other.dictAt b from Object.entries.inj (later.otherGrew .dict b otherInside).2]
  exact before.dictAt linked

theorem Later.frozenAt {link : Link} {t u : Store} (later : Later base s other link t u)
    {a b : Address} (linked : base .frozen a b) :
    Dict.Alike base (t.frozenAt a) (u.frozenAt b) := by
  obtain ⟨inside,otherInside⟩ := before.inside _ _ _ linked
  rw [show t.frozenAt a = s.frozenAt a from Object.entries.inj (later.grew .frozen a inside).2,
    show u.frozenAt b = other.frozenAt b from
      Object.entries.inj (later.otherGrew .frozen b otherInside).2]
  exact before.frozenAt linked

theorem copyWithin_matches (fuel : Nat) : ∀ {otherFuel : Nat} {active otherActive : List Value}
    {v w : Value} {link : Link} {t u : Store}, other.Nested otherFuel otherActive →
    Values.Alike base active otherActive → v.Alike base w → Later base s other link t u →
    Matches link t u Value.Alike (copyWithin fuel active v t)
      (copyWithin otherFuel otherActive w u) := by
  induction fuel with
  | zero =>
    intro _ _ _ _ _ _ _ _ _ _ _ _
    exact .error _ _
  | succ fuel ih =>
    intro otherFuel active otherActive v w link t u nested around same later
    obtain ⟨otherFuel,rfl⟩ := nested.pos
    unfold copyWithin
    dsimp only
    rw [contains_alike before.paired around same,same.isMapping,same.kind]
    have inner (fresh : active.contains v = false) (container : w ∈ other.containers) (more : Link)
        (t u : Store) (x y : Value) (later : Later base s other more t u) (one : x.Alike base y) :
        Matches more t u Value.Alike (copyWithin fuel (v :: active) x t)
          (copyWithin otherFuel (w :: otherActive) y u) := by
      rw [← contains_alike before.paired around same] at fresh
      exact ih (nested.inner fresh container) (.cons same around) one later
    have items {values others : List Value} (fresh : active.contains v = false)
        (container : w ∈ other.containers) (held : Values.Alike base values others) :
        Matches link t u Values.Alike (mapStore (copyWithin fuel (v :: active)) values t)
          (mapStore (copyWithin otherFuel (w :: otherActive)) others u) :=
      mapStore_matches (fun _ _ _ _ le one => one.mono le) (inner fresh container) held later
    have entries {d otherDict : Dict} (fresh : active.contains v = false)
        (container : w ∈ other.containers) (held : Dict.Alike base d otherDict) :
        Matches link t u Dict.Alike (mapStore (mapSlot (copyWithin fuel (v :: active))) d t)
          (mapStore (mapSlot (copyWithin otherFuel (w :: otherActive))) otherDict u) := by
      have mono (link more : Link) (x y : Slot) (le : link.Le more) (one : x.Alike link y) :
          x.Alike more y := ⟨one.key.mono le,one.label.mono le,one.value.mono le⟩
      refine mapStore_matches mono (fun more t u x y later one => ?_) held later
      refine .bind (inner fresh container more t u _ _ later one.value) ?_
      intro value otherValue mid otherMid gained made
      have wider := later.le.trans (more.le_extend t u mid)
      exact .ok gained.alike ⟨one.key.mono wider,one.label.mono wider,made⟩
    have isNew (contained : v.isMapping || v.kind == .sequence)
        (passed : ¬ (active.contains v && (v.isMapping || v.kind == .sequence)) = true) :
        active.contains v = false := by
      rw [contained,Bool.and_true] at passed
      exact Bool.not_eq_true _ ▸ passed
    have inside {shelf : Shelf} {a b : Address} (linked : base shelf a b)
        (place : w.spot? = some (shelf,b)) (holds : shelf ∈ [Shelf.list,.tuple,.dict,.frozen,.fset]) :
        w ∈ other.containers := mem_containers place (before.inside _ _ _ linked).2 holds
    split
    · exact .error _ _
    · next passed =>
      cases same with
      | dict linked =>
        refine .bind (entries (isNew rfl passed) (inside linked rfl (by simp))
          (later.dictAt before linked)) fun d otherDict mid otherMid gained made => ?_
        exact .make gained.alike (mid.newDict_adds d) (otherMid.newDict_adds otherDict) (by simp)
          (.entries (Dict.Alike.mono (Link.le_add _ _ _ _) made)) (.dict (Link.add_self _ _ _ _))
      | frozen linked =>
        refine .bind (entries (isNew rfl passed) (inside linked rfl (by simp))
          (later.frozenAt before linked)) fun d otherDict mid otherMid gained made => ?_
        exact .make gained.alike (mid.newDict_adds d) (otherMid.newDict_adds otherDict) (by simp)
          (.entries (Dict.Alike.mono (Link.le_add _ _ _ _) made)) (.dict (Link.add_self _ _ _ _))
      | list linked =>
        refine .bind (items (isNew rfl passed) (inside linked rfl (by simp))
          (later.listAt before linked)) fun xs ys mid otherMid gained made => ?_
        exact .make gained.alike (mid.newList_adds xs) (otherMid.newList_adds ys) (by simp)
          (.items (Values.Alike.mono (Link.le_add _ _ _ _) made)) (.list (Link.add_self _ _ _ _))
      | @tuple a b linked =>
        have held := later.tupleAt before linked
        dsimp only
        rw [List.isEmpty_alike held]
        split
        · exact .ok later.alike (.tuple (later.le _ _ _ linked))
        · refine .bind (items (isNew rfl passed) (inside linked rfl (by simp)) held)
            fun xs ys mid otherMid gained made => ?_
          exact .make gained.alike (mid.newTuple_adds xs) (otherMid.newTuple_adds ys) (by simp)
            (.items (Values.Alike.mono (Link.le_add _ _ _ _) made)) (.tuple (Link.add_self _ _ _ _))
      | blob linked =>
        have held := later.alike.blobAt (later.le _ _ _ linked)
        exact .make later.alike (t.newBlob_adds _) (u.newBlob_adds _) (by simp)
          (.blob ⟨held.mediaType.mono (Link.le_add _ _ _ _),held.data⟩)
          (.blob (Link.add_self _ _ _ _))
      | _ => exact .ok later.alike (by constructor; try exact later.le _ _ _ ‹_›)

/-- Copies of values that are alike are alike. -/
theorem deepCopy_matches {v w : Value} (same : v.Alike base w) :
    Matches base s other Value.Alike (s.deepCopy v) (other.deepCopy w) :=
  copyWithin_matches before _ ⟨.nil,nofun,by simp⟩ .nil same ⟨.refl base,.refl s,.refl other,before⟩

end Copying
end Store
end PageRuntime
