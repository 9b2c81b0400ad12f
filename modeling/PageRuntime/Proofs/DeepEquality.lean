import PageRuntime.Proofs.EqualSteps

/-! The laws of deep equality. On values that do not contain themselves or NaN it always answers, and
it is reflexive and transitive. It is symmetric except for references: a wrapper that locks is looked
through on the right wherever there is none on the left, but not the other way round, so the two
directions agree exactly where wrappers stand at the same places. -/
namespace PageRuntime
namespace Store

variable {s : Store} {v w u : Value}

/-- What comparing a value may come to. -/
def Compares (s : Store) : Value → Value → Prop := Relation.ReflTransGen (HasPart s.comparedParts)

/-- A value that can be compared: its parts are objects of the store, none of them contains itself or
is NaN, and no mapping in it has a key twice. -/
structure Comparable (s : Store) (v : Value) : Prop where
  inside : ∀ w, s.Compares v w → w.Inside s
  numbers : ∀ w, s.Compares v w → w.isNaN = false
  keys : ∀ w, s.Compares v w → ((s.keyed w).map (·.key)).Nodup
  unlooped : Unlooped s.comparedParts v

namespace Comparable

theorem part (comparable : s.Comparable v) (part : w ∈ s.comparedParts v) : s.Comparable w where
  inside u reached := comparable.inside u (.head part reached)
  numbers u reached := comparable.numbers u (.head part reached)
  keys u reached := comparable.keys u (.head part reached)
  unlooped := comparable.unlooped.part part

/-- A value whose parts can be compared does not lie in them. -/
theorem of_parts (inside : v.Inside s) (number : v.isNaN = false)
    (keys : ((s.keyed v).map (·.key)).Nodup) (parts : ∀ w ∈ s.comparedParts v, s.Comparable w) :
    s.Comparable v := by
  have every {P : Value → Prop} (here : P v) (below : ∀ w, s.Comparable w → P w) (w : Value)
      (reached : s.Compares v w) : P w := by
    obtain rfl | ⟨x,part,onward⟩ := Relation.ReflTransGen.cases_head reached
    · exact here
    · refine below w ⟨?_,?_,?_,?_⟩
      · exact fun u later => (parts x part).inside u (onward.trans later)
      · exact fun u later => (parts x part).numbers u (onward.trans later)
      · exact fun u later => (parts x part).keys u (onward.trans later)
      · exact fun u later => (parts x part).unlooped u (onward.trans later)
  exact ⟨every inside fun w ok => ok.inside w .refl,every number fun w ok => ok.numbers w .refl,
    every keys fun w ok => ok.keys w .refl,.of_parts fun w part => (parts w part).unlooped⟩

end Comparable

/-- The objects of a store that have parts, as values. -/
def holders (s : Store) : List Value :=
  s.valuesOn [(.list,.list),(.tuple,.tuple),(.dict,.dict),(.frozen,.frozen),(.blob,.blob),(.node,.node),
    (.handle,.ref)]

theorem holders_length (s : Store) : s.holders.length ≤ s.size := by
  simp [holders,valuesOn,size,sizeOf]
  omega

theorem mem_holders (inside : v.Inside s) : v ∈ s.holders ∨ s.comparedParts v = [] := by
  cases v with
  | list a => exact .inl (mem_valuesOn (by simp) (inside .list a rfl))
  | tuple a => exact .inl (mem_valuesOn (by simp) (inside .tuple a rfl))
  | dict a => exact .inl (mem_valuesOn (by simp) (inside .dict a rfl))
  | frozen a => exact .inl (mem_valuesOn (by simp) (inside .frozen a rfl))
  | blob a => exact .inl (mem_valuesOn (by simp) (inside .blob a rfl))
  | node a => exact .inl (mem_valuesOn (by simp) (inside .node a rfl))
  | ref a => exact .inl (mem_valuesOn (by simp) (inside .handle a rfl))
  | _ => exact .inr rfl

/-- Comparing goes no deeper than the store has holders. -/
theorem Comparable.nestsWithin (comparable : s.Comparable v) {fuel : Nat} (enough : s.size < fuel) :
    NestsWithin s.comparedParts fuel v := by
  have length := s.holders_length
  refine (comparable.unlooped.nestsWithin_succ s.holders fun w reached => ?_).mono (by omega)
  exact mem_holders (comparable.inside w reached)

/-- A handle is made on no more handles than the store has. -/
theorem Comparable.madeOn_nestsWithin {a : Address} (comparable : s.Comparable (.ref a)) :
    NestsWithin s.madeOn s.handles.size a := by
  have lift {b c : Address} (on : HasPart s.madeOn b c) :
      HasPart s.comparedParts (.ref b) (.ref c) := List.mem_map_of_mem on
  have unlooped : Unlooped s.madeOn a := fun b reached around =>
    comparable.unlooped (.ref b) (reached.lift Value.ref fun _ _ => lift)
      (around.lift Value.ref fun _ _ => lift)
  have nests := unlooped.nestsWithin (List.range s.handles.size) fun b reached =>
    List.mem_range.mpr (comparable.inside (.ref b) (reached.lift Value.ref fun _ _ => lift) .handle b rfl)
  rwa [List.length_range] at nests

/-! Comparing ends. -/

section

variable {compare : Value → Value → Except Fault Bool}

theorem allPairs_answers {pairs : List (Value × Value)}
    (answers : ∀ pair ∈ pairs, ∃ equal, compare pair.1 pair.2 = .ok equal) :
    ∃ equal, allPairs compare pairs = .ok equal := by
  induction pairs with
  | nil => exact ⟨true,rfl⟩
  | cons pair pairs ih =>
    obtain ⟨first,here⟩ := answers pair List.mem_cons_self
    rw [allPairs,here]
    cases first with
    | false => exact ⟨false,rfl⟩
    | true => exact ih fun other member => answers other (List.mem_cons_of_mem _ member)

theorem items_answers {xs ys : List Value} (answers : ∀ x ∈ xs, ∀ y, ∃ equal, compare x y = .ok equal) :
    ∃ equal, (if xs.length == ys.length then allPairs compare (xs.zip ys) else .ok false) =
      .ok equal := by
  split
  · exact allPairs_answers fun pair member => answers pair.1 (List.of_mem_zip member).1 pair.2
  · exact ⟨false,rfl⟩

theorem entries_answers {d other : Dict}
    (answers : ∀ x ∈ Dict.values d, ∀ y, ∃ equal, compare x y = .ok equal) :
    ∃ equal, (if sameKeys d other then allPairs compare (pairedEntries d other) else .ok false) =
      .ok equal := by
  split
  · refine allPairs_answers fun pair member => ?_
    obtain ⟨slot,among,rfl⟩ := List.mem_map.mp member
    exact answers slot.value (List.mem_map_of_mem among) _
  · exact ⟨false,rfl⟩

theorem bind_answers {first : Except Fault Bool} {next : Except Fault Bool}
    (here : ∃ equal, first = .ok equal) (answers : ∃ equal, next = .ok equal) :
    ∃ equal, (first >>= fun equal => if !equal then .ok false else next) = .ok equal := by
  obtain ⟨equal,rfl⟩ := here
  cases equal with
  | false => exact ⟨false,rfl⟩
  | true => exact answers

end

theorem equalWithin_answers {fuel : Nat} : ∀ {v : Value} (w : Value),
    NestsWithin s.comparedParts fuel v → ∃ equal, s.equalWithin fuel v w = .ok equal := by
  induction fuel with
  | zero => exact fun _ nests => nests.elim
  | succ fuel ih =>
    intro v w nests
    have inner (x : Value) (part : x ∈ s.comparedParts v) (y : Value) := ih y (nests x part)
    unfold equalWithin
    dsimp only
    split
    · exact ⟨_,rfl⟩
    · split
      · exact ⟨true,rfl⟩
      · split
        · exact items_answers inner
        · exact items_answers inner
        · exact ⟨_,rfl⟩
        · unfold blobsEqual
          obtain ⟨equal,media⟩ := inner _ List.mem_cons_self _
          rw [media]
          cases equal <;> exact ⟨_,rfl⟩
        · exact ⟨_,rfl⟩
        · obtain ⟨tag,style,text,attrs,children⟩ := forall_node_parts.mp inner
          exact bind_answers (tag _) (bind_answers (entries_answers attrs)
            (bind_answers (items_answers children) (bind_answers (style _) (text _))))
        · split
          · next mappings =>
            rw [s.comparedParts_mapping (Bool.and_eq_true_iff.mp mappings).1] at inner
            exact entries_answers inner
          · exact ⟨false,rfl⟩

theorem Comparable.equal_answers (comparable : s.Comparable v) (w : Value) :
    ∃ equal, s.equal v w = .ok equal :=
  equalWithin_answers w (comparable.nestsWithin (by unfold comparisonSlack; omega))

theorem deepEqualWithin_answers {fuel : Nat} : ∀ {v : Value} (w : Value), s.Comparable v →
    NestsWithin s.comparedParts fuel v → ∃ equal, s.deepEqualWithin fuel v w = .ok equal := by
  induction fuel with
  | zero => exact fun _ _ nests => nests.elim
  | succ fuel ih =>
    intro v w comparable nests
    have inner (x : Value) (part : x ∈ s.comparedParts v) (y : Value) :=
      ih y (comparable.part part) (nests x part)
    unfold deepEqualWithin
    dsimp only
    split
    · exact ⟨false,rfl⟩
    · split
      · exact ⟨true,rfl⟩
      · split <;> exact ⟨_,rfl⟩
      · next mapping =>
        split
        · exact ⟨true,rfl⟩
        · rw [s.comparedParts_mapping (beq_iff_eq.mpr mapping)] at inner
          exact entries_answers inner
      · next sequence =>
        split
        · exact ⟨true,rfl⟩
        · rw [s.comparedParts_sequence sequence] at inner
          exact items_answers inner
      · exact comparable.equal_answers w

theorem Comparable.deepEqual_answers (comparable : s.Comparable v) (w : Value) :
    ∃ equal, s.deepEqual v w = .ok equal :=
  deepEqualWithin_answers w comparable (comparable.nestsWithin (by unfold comparisonSlack; omega))

/-! The laws, each along the steps of the comparisons that they are about. -/

theorem equalWithin_symm {fuel : Nat} : ∀ {v w : Value}, s.Comparable v → s.Comparable w →
    s.equalWithin fuel v w = .ok true → s.equalWithin fuel w v = .ok true := by
  induction fuel with
  | zero => exact fun _ _ equal => by cases equal
  | succ fuel ih =>
    intro v w left right equal
    exact equalWithin_true_iff.mpr ((equalWithin_true_iff.mp equal).symm (left.keys v .refl)
      (right.keys w .refl) fun x part y otherPart => ih (left.part part) (right.part otherPart))

theorem equalWithin_trans {fuel : Nat} : ∀ {v w u : Value}, s.equalWithin fuel v w = .ok true →
    s.equalWithin fuel w u = .ok true → s.equalWithin fuel v u = .ok true := by
  induction fuel with
  | zero => exact fun first => by cases first
  | succ fuel ih =>
    intro v w u first second
    exact equalWithin_true_iff.mpr ((equalWithin_true_iff.mp first).trans
      (equalWithin_true_iff.mp second) fun x _ y _ z _ => ih)

theorem deepEqual_refl (number : v.isNaN = false) : s.deepEqual v v = .ok true := by
  refine deepEqualWithin_true_iff.mpr ?_
  by_cases leaf : v.kind ∈ [Kind.null,.reference,.mapping,.sequence]
  · simp only [List.mem_cons,List.not_mem_nil,or_false] at leaf
    obtain null | reference | mapping | sequence := leaf
    · rw [null_of_kind null]
      exact .null
    · obtain ⟨a,rfl⟩ := reference_cases reference
      exact .reference (sameLocation_self a)
    · exact .mapping mapping mapping (.inl rfl)
    · exact .sequence sequence sequence (.inl rfl)
  · exact .plain rfl leaf (equalWithin_self number _)

theorem Comparable.sameLocation_trans {a b c : Address} (comparable : s.Comparable (.ref a))
    (first : s.sameLocation a b = true) (second : s.sameLocation b c = true) :
    s.sameLocation a c = true :=
  sameLocationWithin_of_coincides comparable.madeOn_nestsWithin
    ((coincides_of_sameLocation first).trans (coincides_of_sameLocation second))

theorem DeepStep.trans {R : Value → Value → Prop} (comparable : s.Comparable v)
    (first : s.DeepStep R v w) (second : s.DeepStep R w u)
    (chains : ∀ x ∈ s.comparedParts v, ∀ y z, R x y → R y z → R x z) : s.DeepStep R v u := by
  cases first with
  | null => exact second
  | reference same =>
    cases second with
    | reference same' => exact .reference (comparable.sameLocation_trans same same')
    | mapping left | sequence left => cases left
    | plain _ leaf => simp [Value.kind] at leaf
  | mapping left right entries =>
    cases second with
    | mapping _ last entries' =>
      refine .mapping left last ?_
      rw [s.comparedParts_mapping (beq_iff_eq.mpr left)] at chains
      obtain rfl | entries := entries
      · exact entries'
      · obtain rfl | entries' := entries'
        · exact .inr entries
        · exact .inr (entries.trans entries' fun x part y _ z _ => chains x part y z)
    | null | reference => cases right
    | sequence left' => rw [left'] at right; cases right
    | plain _ leaf => simp [right] at leaf
  | sequence left right items =>
    cases second with
    | sequence _ last items' =>
      refine .sequence left last ?_
      rw [s.comparedParts_sequence left] at chains
      obtain rfl | items := items
      · exact items'
      · obtain rfl | items' := items'
        · exact .inr items
        · exact .inr (forall₂_trans items items' fun x part y _ z _ => chains x part y z)
    | null | reference => cases right
    | mapping left' => rw [left'] at right; cases right
    | plain _ leaf => simp [right] at leaf
  | plain same leaf equal =>
    cases second with
    | plain same' _ equal' => exact .plain (same.trans same') leaf (equalWithin_trans equal equal')
    | null | reference => exact absurd (by rw [same]; simp [Value.kind]) leaf
    | mapping left | sequence left => simp [same,left] at leaf

theorem deepEqualWithin_trans {fuel : Nat} : ∀ {v w u : Value}, s.Comparable v →
    s.deepEqualWithin fuel v w = .ok true → s.deepEqualWithin fuel w u = .ok true →
    s.deepEqualWithin fuel v u = .ok true := by
  induction fuel with
  | zero => exact fun _ first => by cases first
  | succ fuel ih =>
    intro v w u comparable first second
    exact deepEqualWithin_true_iff.mpr ((deepEqualWithin_true_iff.mp first).trans comparable
      (deepEqualWithin_true_iff.mp second) fun x part y z => ih (comparable.part part))

/-- Comparing the two values comes to comparing two handles. -/
inductive Faces (s : Store) : Value → Value → Address → Address → Prop
  | here {a b : Address} : Faces s (.ref a) (.ref b) a b
  | entry {v w : Value} {slot : Slot} {a b : Address} (left : v.kind = .mapping)
    (right : w.kind = .mapping) (member : slot ∈ s.entries v)
    (below : Faces s slot.value ((s.entries w).get slot.key) a b) : Faces s v w a b
  | item {v w x y : Value} {a b : Address} (left : v.kind = .sequence) (right : w.kind = .sequence)
    (member : (x,y) ∈ (s.members v).zip (s.members w)) (below : Faces s x y a b) : Faces s v w a b

theorem Faces.mapping_iff {a b : Address} (left : v.kind = .mapping) (right : w.kind = .mapping) :
    s.Faces v w a b ↔ ∃ slot ∈ s.entries v, s.Faces slot.value ((s.entries w).get slot.key) a b := by
  refine ⟨fun faces => ?_,fun ⟨slot,member,below⟩ => .entry left right member below⟩
  cases faces with
  | here => cases left
  | entry _ _ member below => exact ⟨_,member,below⟩
  | item left' => rw [left'] at left; cases left

theorem Faces.sequence_iff {a b : Address} (left : v.kind = .sequence) (right : w.kind = .sequence) :
    s.Faces v w a b ↔ ∃ pair ∈ (s.members v).zip (s.members w), s.Faces pair.1 pair.2 a b := by
  refine ⟨fun faces => ?_,fun ⟨pair,member,below⟩ => .item left right member below⟩
  cases faces with
  | here => cases left
  | entry left' => rw [left'] at left; cases left
  | item _ _ member below => exact ⟨_,member,below⟩

theorem Faces.of_self {a b : Address} (faces : s.Faces v w a b) (same : v = w)
    (comparable : s.Comparable v) : a = b := by
  induction faces with
  | here => exact Value.ref.inj same
  | @entry v w slot a b left right member below ih =>
    subst same
    have mapping := beq_iff_eq.mpr left
    have once := comparable.keys v .refl
    rw [s.keyed_mapping mapping] at once
    refine ih (Dict.get_of_mem once member).symm (comparable.part ?_)
    rw [s.comparedParts_mapping mapping]
    exact List.mem_map_of_mem member
  | @item v w x y a b left right member below ih =>
    subst same
    obtain ⟨place,inside,pair⟩ := List.mem_iff_getElem.mp member
    rw [List.getElem_zip] at pair
    obtain ⟨rfl,rfl⟩ := Prod.mk.inj pair
    refine ih rfl (comparable.part ?_)
    rw [s.comparedParts_sequence left]
    exact List.getElem_mem _

/-- Values that are deeply equal are so the other way round exactly where the handles that are compared
with each other are wrapped alike. -/
theorem deepEqualWithin_turned {fuel : Nat} : ∀ {v w : Value}, s.Comparable v → s.Comparable w →
    s.deepEqualWithin fuel v w = .ok true →
    (s.deepEqualWithin fuel w v = .ok true ↔ ∀ a b, s.Faces v w a b → s.WrappedAlike a b) := by
  induction fuel with
  | zero => exact fun _ _ equal => by cases equal
  | succ fuel ih =>
    intro v w comparable other equal
    have turned {x y : Value} (part : x ∈ s.comparedParts v) (otherPart : y ∈ s.comparedParts w)
        (here : s.deepEqualWithin fuel x y = .ok true) :=
      ih (comparable.part part) (other.part otherPart) here
    by_cases identical : v = w
    · subst identical
      exact ⟨fun _ a b faces => faces.of_self rfl comparable ▸ .same a,fun _ => equal⟩
    rw [deepEqualWithin_true_iff]
    cases deepEqualWithin_true_iff.mp equal with
    | null => exact absurd rfl identical
    | @reference a b same =>
      rw [DeepStep.reference_iff,sameLocation,sameLocationWithin_turned same]
      refine ⟨fun alike x y faces => ?_,fun alike => alike a b .here⟩
      cases faces with
      | here => exact alike
      | entry left | item left => cases left
    | mapping left right entries =>
      have entries := entries.resolve_left identical
      have once := comparable.keys v .refl
      have otherOnce := other.keys w .refl
      rw [s.keyed_mapping (beq_iff_eq.mpr left)] at once
      rw [s.keyed_mapping (beq_iff_eq.mpr right)] at otherOnce
      rw [s.comparedParts_mapping (beq_iff_eq.mpr left),
        s.comparedParts_mapping (beq_iff_eq.mpr right)] at turned
      have beside (slot : Slot) (member : slot ∈ s.entries v) :=
        turned (List.mem_map_of_mem member) (entries.get_mem member) (entries.values slot member)
      rw [DeepStep.mapping_iff right left (Ne.symm identical),entries.turned_iff once otherOnce]
      simp only [Faces.mapping_iff left right]
      exact ⟨fun back a b ⟨slot,member,below⟩ => (beside slot member).mp (back slot member) a b below,
        fun alike slot member => (beside slot member).mpr fun a b below => alike a b ⟨slot,member,below⟩⟩
    | sequence left right items =>
      obtain ⟨length,pairs⟩ := List.forall₂_iff_zip.mp (items.resolve_left identical)
      rw [s.comparedParts_sequence left,s.comparedParts_sequence right] at turned
      have beside (pair : Value × Value) (member : pair ∈ (s.members v).zip (s.members w)) :=
        turned (List.of_mem_zip member).1 (List.of_mem_zip member).2 (pairs member)
      rw [DeepStep.sequence_iff right left (Ne.symm identical),forall₂_turned_iff length]
      simp only [Faces.sequence_iff left right]
      exact ⟨fun back a b ⟨pair,member,below⟩ => (beside pair member).mp (back pair member) a b below,
        fun alike pair member => (beside pair member).mpr fun a b below => alike a b ⟨pair,member,below⟩⟩
    | plain same leaf here =>
      refine ⟨fun _ a b faces => ?_,fun _ =>
        .plain same.symm (same ▸ leaf) (equalWithin_symm comparable other here)⟩
      cases faces with
      | here => simp [Value.kind] at leaf
      | entry left | item left => simp [left] at leaf

/-- On values that can be compared, deep equality always answers; it is reflexive and transitive, and it
is symmetric exactly where the handles compared with each other are wrapped alike. -/
theorem deepEqual_laws (comparable : s.Comparable v) (other : s.Comparable w) :
    (∃ equal, s.deepEqual v w = .ok equal) ∧ s.deepEqual v v = .ok true ∧
      (∀ u, s.deepEqual v w = .ok true → s.deepEqual w u = .ok true → s.deepEqual v u = .ok true) ∧
      (s.deepEqual v w = .ok true →
        (s.deepEqual w v = .ok true ↔ ∀ a b, s.Faces v w a b → s.WrappedAlike a b)) :=
  ⟨comparable.deepEqual_answers w,deepEqual_refl (comparable.numbers v .refl),
    fun _ => deepEqualWithin_trans comparable,deepEqualWithin_turned comparable other⟩

/-- A reference to a part of the state, the same behind a lock, and both in lists. -/
def wrappedOnce : Store :=
  { empty with
    handles := ⟨#[.path 0 ⟨⟨.state,0⟩,[.field "x"]⟩ false,.locked 0]⟩
    lists := ⟨#[[.ref 1],[.ref 0]]⟩ }

theorem wrappedOnce_comparable : wrappedOnce.Comparable (.ref 0) ∧ wrappedOnce.Comparable (.ref 1) := by
  have bare : wrappedOnce.Comparable (.ref 0) :=
    .of_parts (by rintro _ _ ⟨⟩; decide) rfl .nil nofun
  refine ⟨bare,.of_parts (by rintro _ _ ⟨⟩; decide) rfl .nil fun w part => ?_⟩
  obtain rfl := List.mem_singleton.mp part
  exact bare

theorem deepEqual_laws_wrappedOnce : wrappedOnce.deepEqual (.list 0) (.list 1) = .ok true ∧
    wrappedOnce.deepEqual (.list 1) (.list 0) ≠ .ok true := by
  have holds {a b : Address} (content : wrappedOnce.listAt a = [.ref b])
      (inside : (Value.list a).Inside wrappedOnce) (comparable : wrappedOnce.Comparable (.ref b)) :
      wrappedOnce.Comparable (.list a) := by
    refine .of_parts inside rfl .nil fun w part => ?_
    have part : w ∈ wrappedOnce.listAt a := part
    rw [content] at part
    obtain rfl := List.mem_singleton.mp part
    exact comparable
  obtain ⟨bare,wrapped⟩ := wrappedOnce_comparable
  obtain ⟨-,-,-,turned⟩ := deepEqual_laws (s := wrappedOnce) (v := .list 0) (w := .list 1)
    (holds rfl (by rintro _ _ ⟨⟩; decide) wrapped) (holds rfl (by rintro _ _ ⟨⟩; decide) bare)
  have equal : wrappedOnce.deepEqual (.list 0) (.list 1) = .ok true := by decide +kernel
  refine ⟨equal,fun back => ?_⟩
  have alike := (turned equal).mp back 1 0 (.item rfl rfl List.mem_cons_self .here)
  cases alike with
  | bare none => cases none
  | sub left => cases left
  | locked _ right => cases right

/-- A lock is looked through on the right of a comparison but not on the left. -/
theorem deepEqual_lopsided : wrappedOnce.Comparable (.ref 1) ∧ wrappedOnce.Comparable (.ref 0) ∧
    wrappedOnce.deepEqual (.ref 1) (.ref 0) = .ok true ∧
      wrappedOnce.deepEqual (.ref 0) (.ref 1) = .ok false :=
  ⟨wrappedOnce_comparable.2,wrappedOnce_comparable.1,by decide +kernel,by decide +kernel⟩

end Store
end PageRuntime
