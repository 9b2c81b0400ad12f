import PageRuntime.Proofs.Copies
import PageRuntime.Proofs.NumberEquality

/-! One step of comparing values. Both equalities go one level down at a time, so each is described by
how it relates two values in terms of how their parts compare. -/
namespace PageRuntime
namespace Store

/-- Two mappings have the same keys and related values beside each other. -/
structure SameEntries (R : Value → Value → Prop) (d other : Dict) : Prop where
  keys : sameKeys d other = true
  values : ∀ slot ∈ d, R slot.value (other.get slot.key)

/-- All the ways in which values are equal as members of a dictionary, one level down. -/
inductive EqualStep (s : Store) (R : Value → Value → Prop) : Value → Value → Prop
  | numbers {v w : Value} {x y : Int ⊕ Number.Binary64} (left : v.number? = some x)
    (right : w.number? = some y) (same : Value.numbersEqual x y = true) : EqualStep s R v w
  | same {v : Value} (other : v.number? = none) : EqualStep s R v v
  | list {a b : Address} (items : List.Forall₂ R (s.listAt a) (s.listAt b)) :
    EqualStep s R (.list a) (.list b)
  | tuple {a b : Address} (items : List.Forall₂ R (s.tupleAt a) (s.tupleAt b)) :
    EqualStep s R (.tuple a) (.tuple b)
  | fset {a b : Address} (keys : (s.fsetAt a).mapM s.key? = (s.fsetAt b).mapM s.key?) :
    EqualStep s R (.fset a) (.fset b)
  | blob {a b : Address} (mediaType : R (s.blobAt a).mediaType (s.blobAt b).mediaType)
    (data : (s.blobAt a).data = (s.blobAt b).data) : EqualStep s R (.blob a) (.blob b)
  | report {a b : Address} (content : s.reportAt a = s.reportAt b) :
    EqualStep s R (.report a) (.report b)
  | node {a b : Address} (tag : R (s.nodeAt a).tag (s.nodeAt b).tag)
    (attrs : SameEntries R (s.nodeAt a).attrs (s.nodeAt b).attrs)
    (children : List.Forall₂ R ((s.nodeAt a).children.map .node) ((s.nodeAt b).children.map .node))
    (style : R (s.nodeAt a).style (s.nodeAt b).style)
    (text : R (s.nodeAt a).text (s.nodeAt b).text) : EqualStep s R (.node a) (.node b)
  | mapping {v w : Value} (left : v.isMapping = true) (right : w.isMapping = true)
    (entries : SameEntries R (s.entries v) (s.entries w)) : EqualStep s R v w

/-- All the ways in which values are deeply equal, one level down. -/
inductive DeepStep (s : Store) (R : Value → Value → Prop) : Value → Value → Prop
  | null : DeepStep s R .null .null
  | reference {a b : Address} (same : s.sameLocation a b = true) : DeepStep s R (.ref a) (.ref b)
  | mapping {v w : Value} (left : v.kind = .mapping) (right : w.kind = .mapping)
    (entries : v = w ∨ SameEntries R (s.entries v) (s.entries w)) : DeepStep s R v w
  | sequence {v w : Value} (left : v.kind = .sequence) (right : w.kind = .sequence)
    (items : v = w ∨ List.Forall₂ R (s.members v) (s.members w)) : DeepStep s R v w
  | plain {v w : Value} (same : v.kind = w.kind)
    (leaf : v.kind ∉ [.null,.reference,.mapping,.sequence]) (equal : s.equal v w = .ok true) :
    DeepStep s R v w

namespace DeepStep

variable {s : Store} {R : Value → Value → Prop} {v w : Value}

theorem kind (step : s.DeepStep R v w) : v.kind = w.kind := by
  cases step with
  | null | reference => rfl
  | mapping left right | sequence left right => exact left.trans right.symm
  | plain same => exact same

theorem reference_iff {a b : Address} :
    s.DeepStep R (.ref a) (.ref b) ↔ s.sameLocation a b = true := by
  refine ⟨fun step => ?_,.reference⟩
  cases step with
  | reference same => exact same
  | mapping left | sequence left => cases left
  | plain _ leaf => simp [Value.kind] at leaf

theorem mapping_iff (left : v.kind = .mapping) (right : w.kind = .mapping) (differ : v ≠ w) :
    s.DeepStep R v w ↔ SameEntries R (s.entries v) (s.entries w) := by
  refine ⟨fun step => ?_,fun entries => .mapping left right (.inr entries)⟩
  cases step with
  | mapping _ _ entries => exact entries.resolve_left differ
  | null | reference => cases left
  | sequence left' => rw [left'] at left; cases left
  | plain _ leaf => simp [left] at leaf

theorem sequence_iff (left : v.kind = .sequence) (right : w.kind = .sequence) (differ : v ≠ w) :
    s.DeepStep R v w ↔ List.Forall₂ R (s.members v) (s.members w) := by
  refine ⟨fun step => ?_,fun items => .sequence left right (.inr items)⟩
  cases step with
  | sequence _ _ items => exact items.resolve_left differ
  | null | reference => cases left
  | mapping left' => rw [left'] at left; cases left
  | plain _ leaf => simp [left] at leaf

end DeepStep

variable {α β : Type}

theorem allPairs_true_iff {compare : α → β → Except Fault Bool} {pairs : List (α × β)} :
    allPairs compare pairs = .ok true ↔ ∀ pair ∈ pairs, compare pair.1 pair.2 = .ok true := by
  refine ⟨fun equal => ?_,allPairs_true⟩
  induction pairs with
  | nil => exact nofun
  | cons pair pairs ih =>
    rw [allPairs] at equal
    obtain ⟨first,here,rest⟩ := ok_of_bind equal
    cases first with
    | false => cases rest
    | true =>
      intro other member
      obtain rfl | member := List.mem_cons.mp member
      · exact here
      · exact ih rest other member

section

variable {compare : Value → Value → Except Fault Bool}

theorem items_true_iff {xs ys : List Value} :
    (if xs.length == ys.length then allPairs compare (xs.zip ys) else .ok false) = .ok true ↔
      List.Forall₂ (fun x y => compare x y = .ok true) xs ys := by
  rw [List.forall₂_iff_zip]
  by_cases length : xs.length = ys.length
  · rw [if_pos (beq_iff_eq.mpr length),allPairs_true_iff]
    exact ⟨fun all => ⟨length,fun {x y} member => all (x,y) member⟩,fun all pair member => all.2 member⟩
  · rw [if_neg (mt beq_iff_eq.mp length)]
    exact ⟨nofun,fun all => absurd all.1 length⟩

theorem entries_true_iff {d other : Dict} :
    (if sameKeys d other then allPairs compare (pairedEntries d other) else .ok false) = .ok true ↔
      SameEntries (fun x y => compare x y = .ok true) d other := by
  by_cases keys : sameKeys d other = true
  · rw [if_pos keys,allPairs_true_iff]
    constructor
    · exact fun all => ⟨keys,fun slot member => all _ (List.mem_map_of_mem member)⟩
    · intro same pair member
      obtain ⟨slot,among,rfl⟩ := List.mem_map.mp member
      exact same.values slot among
  · rw [if_neg keys]
    exact ⟨nofun,fun same => absurd same.keys keys⟩

theorem blobsEqual_true_iff {b c : Blob} : blobsEqual compare b c = .ok true ↔
    compare b.mediaType c.mediaType = .ok true ∧ b.data = c.data := by
  unfold blobsEqual
  constructor
  · intro equal
    obtain ⟨media,here,rest⟩ := ok_of_bind equal
    cases media with
    | false => cases rest
    | true => exact ⟨here,beq_iff_eq.mp (Except.ok.inj rest)⟩
  · rintro ⟨media,data⟩
    rw [media,data]
    exact congrArg Except.ok (beq_self_eq_true _)

/-- A comparison that fails ends what it is part of; one that differs decides it. -/
theorem bind_true_iff {first next : Except Fault Bool} :
    (first >>= fun equal => if !equal then .ok false else next) = .ok true ↔
      first = .ok true ∧ next = .ok true := by
  cases first with
  | error fault => exact ⟨nofun,nofun⟩
  | ok equal => cases equal <;> exact ⟨by simp [bind,Except.bind],by simp [bind,Except.bind]⟩

end

variable {s : Store}

theorem mapping_cases {v : Value} (mapping : v.isMapping = true) :
    ∃ a, v = .dict a ∨ v = .frozen a := by
  cases v with
  | dict a => exact ⟨a,.inl rfl⟩
  | frozen a => exact ⟨a,.inr rfl⟩
  | _ => cases mapping

theorem reference_cases {v : Value} (reference : v.kind = .reference) : ∃ a, v = .ref a := by
  cases v with
  | ref a => exact ⟨a,rfl⟩
  | _ => cases reference

theorem null_of_kind {v : Value} (null : v.kind = .null) : v = .null := by
  cases v with
  | null => rfl
  | _ => cases null

theorem ite_true_of {c : Prop} [Decidable c] {otherwise : Except Fault Bool}
    (equal : otherwise = .ok true) : (if c then .ok true else otherwise) = .ok true := by
  split
  · rfl
  · exact equal

theorem equalWithin_true_iff {fuel : Nat} {v w : Value} : s.equalWithin (fuel + 1) v w = .ok true ↔
    s.EqualStep (fun x y => s.equalWithin fuel x y = .ok true) v w := by
  constructor
  · intro equal
    unfold equalWithin at equal
    dsimp only at equal
    split at equal
    · next x y left right => exact .numbers left right (Except.ok.inj equal)
    · next other =>
      split at equal
      · next same =>
        obtain rfl : v = w := beq_iff_eq.mp same
        cases number : v.number? with
        | none => exact .same number
        | some x => exact absurd number (other x x number)
      · split at equal
        · exact .list (items_true_iff.mp equal)
        · exact .tuple (items_true_iff.mp equal)
        · exact .fset (beq_iff_eq.mp (Except.ok.inj equal))
        · obtain ⟨media,data⟩ := blobsEqual_true_iff.mp equal
          exact .blob media data
        · exact .report (beq_iff_eq.mp (Except.ok.inj equal))
        · obtain ⟨tag,equal⟩ := bind_true_iff.mp equal
          obtain ⟨attrs,equal⟩ := bind_true_iff.mp equal
          obtain ⟨children,equal⟩ := bind_true_iff.mp equal
          obtain ⟨style,text⟩ := bind_true_iff.mp equal
          exact .node tag (entries_true_iff.mp attrs) (items_true_iff.mp children) style text
        · split at equal
          · next mappings =>
            obtain ⟨left,right⟩ := Bool.and_eq_true_iff.mp mappings
            exact .mapping left right (entries_true_iff.mp equal)
          · cases equal
  · intro equal
    unfold equalWithin
    dsimp only
    cases equal with
    | numbers left right same =>
      rw [left,right]
      exact congrArg Except.ok same
    | same other =>
      rw [other]
      exact if_pos (beq_self_eq_true v)
    | list items => exact ite_true_of (items_true_iff.mpr items)
    | tuple items => exact ite_true_of (items_true_iff.mpr items)
    | fset keys => exact ite_true_of (congrArg Except.ok (beq_iff_eq.mpr keys))
    | blob media data => exact ite_true_of (blobsEqual_true_iff.mpr ⟨media,data⟩)
    | report content => exact ite_true_of (congrArg Except.ok (beq_iff_eq.mpr content))
    | node tag attrs children style text =>
      exact ite_true_of (bind_true_iff.mpr ⟨tag,bind_true_iff.mpr ⟨entries_true_iff.mpr attrs,
        bind_true_iff.mpr ⟨items_true_iff.mpr children,bind_true_iff.mpr ⟨style,text⟩⟩⟩⟩)
    | mapping left right entries =>
      have equal := entries_true_iff.mpr entries
      obtain ⟨a,rfl | rfl⟩ := mapping_cases left <;> obtain ⟨b,rfl | rfl⟩ := mapping_cases right <;>
        exact ite_true_of equal

theorem deepEqualWithin_true_iff {fuel : Nat} {v w : Value} :
    s.deepEqualWithin (fuel + 1) v w = .ok true ↔
      s.DeepStep (fun x y => s.deepEqualWithin fuel x y = .ok true) v w := by
  conv_lhs => unfold deepEqualWithin
  dsimp only
  by_cases kinds : v.kind = w.kind
  · rw [if_neg (by simpa using kinds)]
    constructor
    · intro equal
      split at equal
      · next null =>
        rw [null_of_kind null,null_of_kind (kinds.symm.trans null)]
        exact .null
      · next reference =>
        obtain ⟨a,rfl⟩ := reference_cases reference
        obtain ⟨b,rfl⟩ := reference_cases (kinds.symm.trans reference)
        exact .reference (Except.ok.inj equal)
      · next mapping =>
        refine .mapping mapping (kinds.symm.trans mapping) ?_
        split at equal
        · next same => exact .inl (beq_iff_eq.mp same)
        · exact .inr (entries_true_iff.mp equal)
      · next sequence =>
        refine .sequence sequence (kinds.symm.trans sequence) ?_
        split at equal
        · next same => exact .inl (beq_iff_eq.mp same)
        · exact .inr (items_true_iff.mp equal)
      · next null reference mapping sequence =>
        refine .plain kinds ?_ equal
        simpa using ⟨null,reference,mapping,sequence⟩
    · intro equal
      cases equal with
      | null => rfl
      | reference same => exact congrArg Except.ok same
      | mapping left right entries =>
        rw [left]
        obtain rfl | entries := entries
        · exact if_pos (beq_self_eq_true v)
        · exact ite_true_of (entries_true_iff.mpr entries)
      | sequence left right items =>
        rw [left]
        obtain rfl | items := items
        · exact if_pos (beq_self_eq_true v)
        · exact ite_true_of (items_true_iff.mpr items)
      | plain same leaf equal =>
        split
        · next null => simp [null] at leaf
        · next reference => simp [reference] at leaf
        · next mapping => simp [mapping] at leaf
        · next sequence => simp [sequence] at leaf
        · exact equal
  · rw [if_pos (by simpa using kinds)]
    exact ⟨nofun,fun equal => absurd equal.kind kinds⟩

/-- What comparing a value goes on to compare. -/
def comparedParts (s : Store) : Value → List Value
  | .blob a => [(s.blobAt a).mediaType]
  | .node a =>
    let node := s.nodeAt a
    node.tag :: node.style :: node.text :: (Dict.values node.attrs ++ node.children.map .node)
  | .ref a => (s.madeOn a).map .ref
  | v => s.members v

/-- The parts of a value that are compared under their keys. -/
def keyed (s : Store) : Value → Dict
  | .node a => (s.nodeAt a).attrs
  | v => s.entries v

theorem comparedParts_mapping (s : Store) {v : Value} (mapping : v.isMapping = true) :
    s.comparedParts v = Dict.values (s.entries v) := by
  obtain ⟨a,rfl | rfl⟩ := mapping_cases mapping <;> rfl

theorem comparedParts_sequence (s : Store) {v : Value} (sequence : v.kind = .sequence) :
    s.comparedParts v = s.members v := by
  cases v <;> first | rfl | cases sequence

theorem keyed_mapping (s : Store) {v : Value} (mapping : v.isMapping = true) :
    s.keyed v = s.entries v := by
  obtain ⟨a,rfl | rfl⟩ := mapping_cases mapping <;> rfl

theorem number_mapping {v : Value} (mapping : v.isMapping = true) : v.number? = none := by
  obtain ⟨a,rfl | rfl⟩ := mapping_cases mapping <;> rfl

/-- The parts of a node, one by one. -/
theorem forall_node_parts {a : Address} {P : Value → Prop} :
    (∀ x ∈ s.comparedParts (.node a), P x) ↔ P (s.nodeAt a).tag ∧ P (s.nodeAt a).style ∧
      P (s.nodeAt a).text ∧ (∀ x ∈ Dict.values (s.nodeAt a).attrs, P x) ∧
        ∀ x ∈ (s.nodeAt a).children.map Value.node, P x := by
  simp only [comparedParts,List.forall_mem_cons,List.forall_mem_append]

end Store

namespace Dict

variable {d : Dict} {key : Key} {slot : Slot}

theorem get_of_has (has : d.has key = true) :
    ∃ slot ∈ d, slot.key = key ∧ d.get key = slot.value := by
  cases found : d.find? (·.key = key) with
  | none =>
    obtain ⟨slot,member,same⟩ := List.any_eq_true.mp has
    exact absurd same (by simpa using List.find?_eq_none.mp found slot member)
  | some slot =>
    refine ⟨slot,List.mem_of_find?_eq_some found,by simpa using List.find?_some found,?_⟩
    rw [get,get?,found]
    rfl

theorem has_of_mem (member : slot ∈ d) : d.has slot.key = true :=
  List.any_eq_true.mpr ⟨slot,member,by simp⟩

theorem get_of_mem (once : (d.map (·.key)).Nodup) (member : slot ∈ d) :
    d.get slot.key = slot.value := by
  obtain ⟨twin,among,same,reads⟩ := get_of_has (has_of_mem member)
  obtain rfl : twin = slot := List.inj_on_of_nodup_map once among member same
  exact reads

end Dict

namespace Store

theorem sameKeys_iff {d other : Dict} : sameKeys d other = true ↔
    d.length = other.length ∧ ∀ slot ∈ d, other.has slot.key = true := by
  simp [sameKeys]

theorem sameKeys_symm {d other : Dict} (once : (d.map (·.key)).Nodup)
    (same : sameKeys d other = true) : sameKeys other d = true := by
  obtain ⟨length,has⟩ := sameKeys_iff.mp same
  refine sameKeys_iff.mpr ⟨length.symm,fun slot member => ?_⟩
  have among : d.map (·.key) ⊆ other.map (·.key) := fun key here => by
    obtain ⟨slot,member,rfl⟩ := List.mem_map.mp here
    obtain ⟨twin,among,same,-⟩ := Dict.get_of_has (has _ member)
    exact List.mem_map.mpr ⟨twin,among,same⟩
  have keys : (d.map (·.key)).Perm (other.map (·.key)) :=
    (once.subperm among).perm_of_length_le (by simp [length])
  obtain ⟨twin,among,same⟩ := List.mem_map.mp (keys.symm.subset (List.mem_map_of_mem member))
  exact same ▸ Dict.has_of_mem among

theorem sameKeys_trans {d other third : Dict} (first : sameKeys d other = true)
    (second : sameKeys other third = true) : sameKeys d third = true := by
  obtain ⟨length,has⟩ := sameKeys_iff.mp first
  obtain ⟨further,hasFurther⟩ := sameKeys_iff.mp second
  refine sameKeys_iff.mpr ⟨length.trans further,fun slot member => ?_⟩
  obtain ⟨twin,among,same,-⟩ := Dict.get_of_has (has slot member)
  exact same ▸ hasFurther twin among

namespace SameEntries

variable {R S : Value → Value → Prop} {d other third : Dict}

/-- The values beside each other are values of the two mappings. -/
theorem beside (same : SameEntries R d other) {slot : Slot} (member : slot ∈ d) :
    ∃ twin ∈ other, twin.key = slot.key ∧ other.get slot.key = twin.value :=
  Dict.get_of_has ((sameKeys_iff.mp same.keys).2 slot member)

theorem get_mem (same : SameEntries R d other) {slot : Slot} (member : slot ∈ d) :
    other.get slot.key ∈ Dict.values other := by
  obtain ⟨twin,among,-,reads⟩ := same.beside member
  rw [reads]
  exact List.mem_map_of_mem among

theorem imp (same : SameEntries R d other)
    (related : ∀ x ∈ Dict.values d, ∀ y ∈ Dict.values other, R x y → S x y) :
    SameEntries S d other where
  keys := same.keys
  values slot member := by
    obtain ⟨twin,among,-,reads⟩ := same.beside member
    have here := same.values slot member
    rw [reads] at here ⊢
    exact related _ (List.mem_map_of_mem member) _ (List.mem_map_of_mem among) here

theorem symm (same : SameEntries R d other) (once : (d.map (·.key)).Nodup)
    (otherOnce : (other.map (·.key)).Nodup) : SameEntries (fun y x => R x y) other d where
  keys := sameKeys_symm once same.keys
  values twin among := by
    obtain ⟨slot,member,key,reads⟩ :=
      Dict.get_of_has ((sameKeys_iff.mp (sameKeys_symm once same.keys)).2 twin among)
    have here := same.values slot member
    rw [key,Dict.get_of_mem otherOnce among] at here
    rw [reads]
    exact here

theorem turned_iff (same : SameEntries R d other) (once : (d.map (·.key)).Nodup)
    (otherOnce : (other.map (·.key)).Nodup) :
    SameEntries R other d ↔ ∀ slot ∈ d, R (other.get slot.key) slot.value := by
  constructor
  · exact fun back => (back.symm otherOnce once).values
  · intro values
    have back : SameEntries (fun x y => R y x) d other := ⟨same.keys,values⟩
    exact back.symm once otherOnce

theorem trans (first : SameEntries R d other) (second : SameEntries R other third)
    (chains : ∀ x ∈ Dict.values d, ∀ y ∈ Dict.values other, ∀ z ∈ Dict.values third,
      R x y → R y z → R x z) : SameEntries R d third where
  keys := sameKeys_trans first.keys second.keys
  values slot member := by
    obtain ⟨twin,among,key,reads⟩ := first.beside member
    obtain ⟨last,amongLast,-,readsLast⟩ := second.beside among
    have here := first.values slot member
    have there := second.values twin among
    rw [readsLast] at there
    rw [reads] at here
    rw [← key,readsLast]
    exact chains _ (List.mem_map_of_mem member) _ (List.mem_map_of_mem among) _
      (List.mem_map_of_mem amongLast) here there

end SameEntries

section

variable {R S : Value → Value → Prop} {xs ys zs : List Value}

theorem forall₂_imp (all : List.Forall₂ R xs ys)
    (related : ∀ x ∈ xs, ∀ y ∈ ys, R x y → S x y) : List.Forall₂ S xs ys := by
  obtain ⟨length,pairs⟩ := List.forall₂_iff_zip.mp all
  refine List.forall₂_iff_zip.mpr ⟨length,fun {x y} member => ?_⟩
  obtain ⟨left,right⟩ := List.of_mem_zip member
  exact related x left y right (pairs member)

theorem forall₂_turned_iff (length : xs.length = ys.length) :
    List.Forall₂ R ys xs ↔ ∀ pair ∈ xs.zip ys, R pair.2 pair.1 := by
  constructor
  · exact fun back pair member => (List.forall₂_iff_zip.mp back.flip).2 member
  · exact fun values => (List.forall₂_iff_zip.mpr ⟨length,fun member => values _ member⟩).flip

theorem forall₂_trans (first : List.Forall₂ R xs ys) (second : List.Forall₂ R ys zs)
    (chains : ∀ x ∈ xs, ∀ y ∈ ys, ∀ z ∈ zs, R x y → R y z → R x z) : List.Forall₂ R xs zs := by
  induction first generalizing zs with
  | nil => exact second
  | @cons x y xs ys here _ ih =>
    cases second with
    | @cons _ z _ zs there rest =>
      refine .cons (chains x List.mem_cons_self y List.mem_cons_self z List.mem_cons_self here there)
        (ih rest fun x left y middle z right => ?_)
      exact chains x (List.mem_cons_of_mem _ left) y (List.mem_cons_of_mem _ middle) z
        (List.mem_cons_of_mem _ right)

end

namespace EqualStep

variable {s : Store} {R S : Value → Value → Prop} {v w u : Value}

theorem symm (step : s.EqualStep R v w) (once : ((s.keyed v).map (·.key)).Nodup)
    (otherOnce : ((s.keyed w).map (·.key)).Nodup)
    (turned : ∀ x ∈ s.comparedParts v, ∀ y ∈ s.comparedParts w, R x y → S y x) :
    s.EqualStep S w v := by
  cases step with
  | numbers left right same => exact .numbers right left (Value.numbersEqual_symm same)
  | same other => exact .same other
  | list items => exact .list (forall₂_imp items turned).flip
  | tuple items => exact .tuple (forall₂_imp items turned).flip
  | fset keys => exact .fset keys.symm
  | blob mediaType data =>
    exact .blob (turned _ List.mem_cons_self _ List.mem_cons_self mediaType) data.symm
  | report content => exact .report content.symm
  | node tag attrs children style text =>
    obtain ⟨tagTurned,styleTurned,textTurned,attrsTurned,childrenTurned⟩ := forall_node_parts.mp turned
    exact .node ((forall_node_parts.mp tagTurned).1 tag)
      ((attrs.imp fun x left => (forall_node_parts.mp (attrsTurned x left)).2.2.2.1).symm once otherOnce)
      (forall₂_imp children fun x left => (forall_node_parts.mp (childrenTurned x left)).2.2.2.2).flip
      ((forall_node_parts.mp styleTurned).2.1 style) ((forall_node_parts.mp textTurned).2.2.1 text)
  | mapping left right entries =>
    rw [s.comparedParts_mapping left,s.comparedParts_mapping right] at turned
    rw [s.keyed_mapping left] at once
    rw [s.keyed_mapping right] at otherOnce
    exact .mapping right left ((entries.imp turned).symm once otherOnce)

theorem trans (first : s.EqualStep R v w) (second : s.EqualStep R w u)
    (chains : ∀ x ∈ s.comparedParts v, ∀ y ∈ s.comparedParts w, ∀ z ∈ s.comparedParts u,
      R x y → R y z → R x z) : s.EqualStep R v u := by
  cases first with
  | numbers left right same =>
    cases second with
    | numbers left' right' same' =>
      obtain rfl := Option.some.inj (left'.symm.trans right)
      exact .numbers left right' (Value.numbersEqual_trans same same')
    | same other => exact .numbers left right same
    | mapping mapping => rw [number_mapping mapping] at right; cases right
    | _ => cases right
  | same other => exact second
  | list items =>
    cases second with
    | numbers left => cases left
    | same => exact .list items
    | list further => exact .list (forall₂_trans items further chains)
    | mapping left => cases left
  | tuple items =>
    cases second with
    | numbers left => cases left
    | same => exact .tuple items
    | tuple further => exact .tuple (forall₂_trans items further chains)
    | mapping left => cases left
  | fset keys =>
    cases second with
    | numbers left => cases left
    | same => exact .fset keys
    | fset further => exact .fset (keys.trans further)
    | mapping left => cases left
  | blob mediaType data =>
    cases second with
    | numbers left => cases left
    | same => exact .blob mediaType data
    | blob further dataFurther =>
      exact .blob (chains _ List.mem_cons_self _ List.mem_cons_self _ List.mem_cons_self mediaType
        further) (data.trans dataFurther)
    | mapping left => cases left
  | report content =>
    cases second with
    | numbers left => cases left
    | same => exact .report content
    | report further => exact .report (content.trans further)
    | mapping left => cases left
  | node tag attrs children style text =>
    cases second with
    | numbers left => cases left
    | same => exact .node tag attrs children style text
    | node tag' attrs' children' style' text' =>
      obtain ⟨tags,styles,texts,attrsChain,childrenChain⟩ := forall_node_parts.mp chains
      refine .node ?_ (attrs.trans attrs' fun x left y middle z right => ?_)
        (forall₂_trans children children' fun x left y middle z right => ?_) ?_ ?_
      · exact (forall_node_parts.mp ((forall_node_parts.mp tags).1)).1 tag tag'
      · have others := (forall_node_parts.mp (attrsChain x left)).2.2.2.1 y middle
        exact (forall_node_parts.mp others).2.2.2.1 z right
      · have others := (forall_node_parts.mp (childrenChain x left)).2.2.2.2 y middle
        exact (forall_node_parts.mp others).2.2.2.2 z right
      · exact (forall_node_parts.mp ((forall_node_parts.mp styles).2.1)).2.1 style style'
      · exact (forall_node_parts.mp ((forall_node_parts.mp texts).2.2.1)).2.2.1 text text'
    | mapping left => cases left
  | mapping left right entries =>
    cases second with
    | mapping _ last further =>
      rw [s.comparedParts_mapping left,s.comparedParts_mapping right,s.comparedParts_mapping last] at chains
      exact .mapping left last (entries.trans further chains)
    | numbers number => rw [number_mapping right] at number; cases number
    | same => exact .mapping left right entries
    | _ => cases right

end EqualStep
end Store
end PageRuntime
