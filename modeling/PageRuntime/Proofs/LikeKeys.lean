import PageRuntime.Proofs.LikeCopies
import PageRuntime.Value.Items

/-! Keys, items and dictionaries of values in stores that are alike. The fuel of a key is enough for
every value that has one, since tuples and sets that contain themselves have none. -/
namespace PageRuntime

theorem List.mapM_alike {α β γ δ : Type} {rel : α → β → Prop} {relMade : γ → δ → Prop}
    {make : α → Option γ} {otherMake : β → Option δ}
    (makes : ∀ x y, rel x y → Option.Rel relMade (make x) (otherMake y)) {xs : List α} {ys : List β}
    (alike : List.Forall₂ rel xs ys) :
    Option.Rel (List.Forall₂ relMade) (xs.mapM make) (ys.mapM otherMake) := by
  induction alike with
  | nil => exact .some .nil
  | @cons x y xs ys one _ ih =>
    rw [List.mapM_cons,List.mapM_cons]
    have made := makes x y one
    revert made ih
    generalize make x = first
    generalize otherMake y = otherFirst
    generalize xs.mapM make = rest
    generalize ys.mapM otherMake = otherRest
    intro ih made
    cases made with
    | none => exact .none
    | some made =>
      cases ih with
      | none => exact .none
      | some ih => exact .some (.cons made ih)

theorem List.mapM_isSome {α β : Type} {make : α → Option β} {xs : List α} :
    (xs.mapM make).isSome ↔ ∀ x ∈ xs, (make x).isSome := by
  induction xs with
  | nil => simp
  | cons x xs ih =>
    rw [List.mapM_cons,List.forall_mem_cons,← ih]
    cases make x with
    | none => simp
    | some y => cases xs.mapM make <;> simp

namespace Store

theorem atom?_alike {link : Link} {v w : Value} (same : v.Alike link w) :
    Option.Rel (Atom.Alike link) (atom? v) (atom? w) := by
  have identity {v w : Value} (same : v.Alike link w) :
      Option.Rel (Atom.Alike link) (some (.identity v)) (some (.identity w)) := .some (.identity same)
  have scalar (v : Value) (plain : ∀ x, atom? v = some x → x.Alike link x) :
      Option.Rel (Atom.Alike link) (atom? v) (atom? v) := by
    cases found : atom? v with
    | none => exact .none
    | some x => exact .some (plain x found)
  cases same with
  | null => exact .some .null
  | bool truth => exact .some (.int _)
  | int number => exact .some (.int number)
  | str text => exact .some (.str text)
  | bytes data => exact .some (.bytes data)
  | float number =>
    refine scalar _ fun x found => ?_
    simp only [atom?] at found
    split at found <;> cases found
    · exact .int _
    · exact .float _
  | ref linked => exact identity (.ref linked)
  | scope linked => exact identity (.scope linked)
  | context linked => exact identity (.context linked)
  | failure linked => exact identity (.failure linked)
  | trail linked => exact identity (.trail linked)
  | callable a => exact identity (.callable a)
  | _ => exact .none

theorem parts_alike {link : Link} {key otherKey : Key} (same : key.Alike link otherKey) :
    List.Forall₂ (KeyPart.Alike link) key.parts otherKey.parts := by
  cases same with
  | atom same => exact .cons (.atom same) .nil
  | compound same => exact same

theorem wrapped_alike {link : Link} {openPart : KeyPart} (opens : openPart.Alike link openPart)
    {keys otherKeys : Option (List Key)}
    (same : Option.Rel (List.Forall₂ (Key.Alike link)) keys otherKeys) :
    Option.Rel (Key.Alike link)
      (do some (.compound (openPart :: ((← keys).flatMap Key.parts ++ [.close]))))
      (do some (.compound (openPart :: ((← otherKeys).flatMap Key.parts ++ [.close])))) := by
  cases same with
  | none => exact .none
  | some same =>
    exact .some (.compound (.cons opens (List.rel_append
      (List.rel_flatMap same fun _ _ one => parts_alike one) (.cons .close .nil))))

section

variable {link : Link} {s other : Store} (alike : s.Alike link other)
include alike

theorem keyWithin_alike (fuel : Nat) {v w : Value} (same : v.Alike link w) :
    Option.Rel (Key.Alike link) (s.keyWithin fuel v) (other.keyWithin fuel w) := by
  have atom {v w : Value} (same : v.Alike link w) :
      Option.Rel (Key.Alike link) ((atom? v).map .atom) ((atom? w).map .atom) := by
    have held := atom?_alike same
    revert held
    generalize atom? v = x
    generalize atom? w = y
    intro held
    cases held with
    | none => exact .none
    | some held => exact .some (.atom held)
  induction fuel generalizing v w with
  | zero => exact atom same
  | succ fuel ih =>
    have plain := atom same
    cases same with
    | tuple linked =>
      exact wrapped_alike .openTuple (List.mapM_alike (fun _ _ one => ih one) (alike.tupleAt linked))
    | fset linked =>
      exact wrapped_alike .openSet (List.mapM_alike (fun _ _ one => ih one) (alike.fsetAt linked))
    | _ => exact plain

omit alike in
/-- A key that was found with some fuel is found with more. -/
theorem keyWithin_more {n m : Nat} (more : n ≤ m) {v : Value} {key : Key}
    (found : s.keyWithin n v = some key) : s.keyWithin m v = some key := by
  have step (n : Nat) : ∀ (v : Value) (key : Key), s.keyWithin n v = some key →
      s.keyWithin (n + 1) v = some key := by
    induction n with
    | zero =>
      intro v key found
      cases v with
      | tuple a => cases found
      | fset a => cases found
      | _ => exact found
    | succ n ih =>
      have mapped {values : List Value} {keys : List Key}
          (found : values.mapM (s.keyWithin n) = some keys) :
          values.mapM (s.keyWithin (n + 1)) = some keys := by
        induction values generalizing keys with
        | nil => exact found
        | cons v values rest =>
          rw [List.mapM_cons] at found ⊢
          cases first : s.keyWithin n v with
          | none =>
            rw [first] at found
            cases found
          | some key =>
            cases others : values.mapM (s.keyWithin n) with
            | none =>
              rw [first,others] at found
              cases found
            | some keys =>
              rw [first,others] at found
              rw [ih v key first,rest others]
              exact found
      have wrapped {values : List Value} {wrap : List Key → Key} {key : Key}
          (found : (do some (wrap (← values.mapM (s.keyWithin n)))) = some key) :
          (do some (wrap (← values.mapM (s.keyWithin (n + 1))))) = some key := by
        cases keys : values.mapM (s.keyWithin n) with
        | none =>
          rw [keys] at found
          cases found
        | some keys =>
          rw [keys] at found
          rw [mapped keys]
          exact found
      intro v key found
      cases v with
      | tuple a => exact wrapped found
      | fset a => exact wrapped found
      | _ => exact found
  induction more with
  | refl => exact found
  | step _ ih => exact step _ _ _ ih

end

/-- The values that a link pairs with others, and that have a key with so much fuel. -/
def Keyed (link : Link) (other : Store) (n : Nat) (w : Value) : Prop :=
  (∃ v : Value, v.Alike link w) ∧ (other.keyWithin n w).isSome

/-- The values whose keys are spelled out. -/
def compounds (s : Store) : Finset Value :=
  (Finset.range s.tuples.size).image .tuple ∪ (Finset.range s.fsets.size).image .fset

theorem compounds_card (s : Store) : s.compounds.card ≤ s.tuples.size + s.fsets.size := by
  have counts (f : Nat → Value) (n : Nat) : ((Finset.range n).image f).card ≤ n :=
    Finset.card_image_le.trans_eq (Finset.card_range n)
  exact (Finset.card_union_le _ _).trans (Nat.add_le_add (counts .tuple _) (counts .fset _))

theorem wrapped_isSome {values : List Value} {make : Value → Option Key} {wrap : List Key → Key} :
    (do some (wrap (← values.mapM make)) : Option Key).isSome ↔ ∀ v ∈ values, (make v).isSome := by
  rw [← List.mapM_isSome]
  cases values.mapM make <;> exact Iff.rfl

section

variable {link : Link} {s other : Store} (alike : s.Alike link other)
include alike

theorem keyed_joins (n : Nat) (w : Value) (keyed : Keyed link other (n + 1) w)
    (before : ¬ Keyed link other n w) : w ∈ other.compounds := by
  obtain ⟨⟨v,same⟩,found⟩ := keyed
  have early (found : (other.keyWithin n w).isSome) : False := before ⟨⟨v,same⟩,found⟩
  simp only [compounds,Finset.mem_union,Finset.mem_image,Finset.mem_range]
  cases same with
  | tuple linked => exact .inl ⟨_,(alike.inside _ _ _ linked).2,rfl⟩
  | fset linked => exact .inr ⟨_,(alike.inside _ _ _ linked).2,rfl⟩
  | _ => cases n <;> exact (early found).elim

theorem keyed_staged : Staged (Keyed link other) other.compounds where
  grows n w keyed := by
    obtain ⟨paired,found⟩ := keyed
    obtain ⟨key,found⟩ := Option.isSome_iff_exists.mp found
    exact ⟨paired,Option.isSome_iff_exists.mpr ⟨key,keyWithin_more (Nat.le_succ n) found⟩⟩
  closes n back w keyed := by
    obtain ⟨⟨v,same⟩,found⟩ := keyed
    have earlier {xs ys : List Value} (items : Values.Alike link xs ys)
        (found : ∀ y ∈ ys, (other.keyWithin (n + 1) y).isSome) :
        ∀ y ∈ ys, (other.keyWithin n y).isSome := fun y member =>
      (back y ⟨(List.forall₂_beside items.flip member).imp fun _ => And.right,found y member⟩).2
    refine ⟨⟨v,same⟩,?_⟩
    cases same with
    | tuple linked =>
      exact wrapped_isSome.mpr (earlier (alike.tupleAt linked) (wrapped_isSome.mp found))
    | fset linked =>
      exact wrapped_isSome.mpr (earlier (alike.fsetAt linked) (wrapped_isSome.mp found))
    | _ => exact found
  inside n w keyed before := keyed_joins alike (n + 1) w keyed before

/-- A value that is alike one with a key has a key that is alike. -/
theorem key?_alike {v w : Value} (same : v.Alike link w) {key : Key} (found : s.key? v = some key) :
    ∃ otherKey, other.key? w = some otherKey ∧ key.Alike link otherKey := by
  let fuel := s.tuples.size + s.fsets.size
  have held := keyWithin_alike alike fuel same
  rw [show s.keyWithin fuel v = some key from found] at held
  obtain ⟨otherKey,here,related⟩ : ∃ otherKey, other.keyWithin fuel w = some otherKey ∧
      key.Alike link otherKey := by
    revert held
    generalize other.keyWithin fuel w = result
    intro held
    cases held with
    | some related => exact ⟨_,rfl,related⟩
  have keyed := (keyed_staged alike).stable_from (keyed_joins alike 0) fuel w
    ⟨⟨v,same⟩,Option.isSome_iff_exists.mpr ⟨otherKey,here⟩⟩
  obtain ⟨last,there⟩ := Option.isSome_iff_exists.mp keyed.2
  have enough := keyWithin_more other.compounds_card there
  refine ⟨last,enough,?_⟩
  have both := (keyWithin_more (Nat.le_max_left fuel (other.tuples.size + other.fsets.size)) here).symm.trans
    (keyWithin_more (Nat.le_max_right _ _) enough)
  rwa [← Option.some.inj both]

/-! Iteration and dictionaries. -/

theorem itemsOf_yields {v w : Value} (same : v.Alike link w) :
    Yields (Values.Alike link) (s.itemsOf v) (other.itemsOf w) := by
  have labels {d otherDict : Dict} (held : d.Alike link otherDict) :
      Values.Alike link (Dict.labels d) (Dict.labels otherDict) :=
    List.rel_map (R := Slot.Alike link) (fun _ _ one => one.label) held
  have scalars {α : Type} (make : α → Value) (plain : ∀ x, (make x).Alike link (make x))
      (xs : List α) : Values.Alike link (xs.map make) (xs.map make) := by
    induction xs with
    | nil => exact .nil
    | cons x xs ih => exact .cons (plain x) ih
  cases same with
  | list linked => exact .ok (alike.listAt linked)
  | tuple linked => exact .ok (alike.tupleAt linked)
  | fset linked => exact .ok (alike.fsetAt linked)
  | dict linked => exact .ok (labels (alike.dictAt linked))
  | frozen linked => exact .ok (labels (alike.frozenAt linked))
  | str text => exact .ok (scalars _ (fun _ => .str _) _)
  | bytes data => exact .ok (scalars _ (fun _ => .int _) _)
  | _ => exact .error _ _

theorem keyOf_yields {v w : Value} (same : v.Alike link w) :
    Yields (Key.Alike link) (s.keyOf v) (other.keyOf w) := by
  intro key ran
  unfold keyOf at ran ⊢
  cases found : s.key? v with
  | none =>
    rw [found] at ran
    cases ran
  | some here =>
    rw [found] at ran
    cases ran
    obtain ⟨otherKey,there,related⟩ := key?_alike alike same found
    rw [there]
    exact ⟨otherKey,rfl,related⟩

theorem dictOfPairs_yields {d otherDict : Dict} (entries : d.Alike link otherDict)
    {items others : List Value} (pairs : Values.Alike link items others) :
    Yields (Dict.Alike link) (s.dictOfPairs d items) (other.dictOfPairs otherDict others) := by
  induction pairs generalizing d otherDict with
  | nil => exact .ok entries
  | cons one _ ih =>
    refine .bind (itemsOf_yields alike one) fun values otherValues held => ?_
    cases held with
    | nil => exact .error _ _
    | cons label held =>
      cases held with
      | nil => exact .error _ _
      | cons value held =>
        cases held with
        | nil =>
          refine .bind (keyOf_yields alike label) fun key otherKey same => ?_
          exact ih (Reference.insert_alike alike.paired entries same label value)
        | cons => exact .error _ _

theorem dictOrEmpty_yields {v w : Value} (same : v.Alike link w) :
    Yields (Dict.Alike link) (s.dictOrEmpty v) (other.dictOrEmpty w) := by
  have held := alike.mapping? same
  unfold dictOrEmpty dictOf
  rw [alike.isTrue same]
  split
  · revert held
    generalize s.mapping? v = d
    generalize other.mapping? w = otherDict
    intro held
    cases held with
    | none =>
      exact .bind (itemsOf_yields alike same) fun _ _ items => dictOfPairs_yields alike .nil items
    | some held => exact .ok held
  · exact .ok .nil

end
end Store
end PageRuntime
