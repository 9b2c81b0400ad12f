import PageRuntime.Action
import PageRuntime.Proofs.Blank

/-! What is asked of values in stores that are alike: their truth, their entries and items, the kind
of action that one names, and the action that a record asks for. -/
namespace PageRuntime

/-- If one result is a value then so is the other, and they are related. -/
def Yields {α β : Type} (rel : α → β → Prop) (result : Except Fault α) (other : Except Fault β) :
    Prop := ∀ x, result = .ok x → ∃ y, other = .ok y ∧ rel x y

namespace Yields

variable {α β γ δ : Type} {rel : α → β → Prop} {relNext : γ → δ → Prop}

theorem ok {x : α} {y : β} (related : rel x y) : Yields rel (.ok x) (.ok y) := by
  rintro _ ⟨⟩
  exact ⟨y,rfl,related⟩

theorem error (fault : Fault) (other : Except Fault β) : Yields rel (.error fault) other := by
  rintro x ⟨⟩

theorem bind {result : Except Fault α} {other : Except Fault β} {next : α → Except Fault γ}
    {otherNext : β → Except Fault δ} (first : Yields rel result other)
    (later : ∀ x y, rel x y → Yields relNext (next x) (otherNext y)) :
    Yields relNext (result >>= next) (other >>= otherNext) := by
  intro z ran
  obtain ⟨x,here,ranNext⟩ := ok_of_bind ran
  obtain ⟨y,rfl,related⟩ := first x here
  exact later x y related z ranNext

/-- Faults on the same condition. -/
theorem guarded {result : Except Fault α} {other : Except Fault β} {failing otherFailing : Bool}
    (same : otherFailing = failing) (fault otherFault : Fault) (later : Yields rel result other) :
    Yields rel (if failing then .error fault else result)
      (if otherFailing then .error otherFault else other) := by
  subst same
  split
  · exact .error _ _
  · exact later

end Yields

namespace Dict

variable {link : Link} (paired : link.Paired) {d other : Dict} (alike : Dict.Alike link d other)
include paired alike

theorem field_alike (name : String) : (d.field name).Alike link (other.field name) :=
  get_alike paired alike (Key.text_alike link name)

theorem has_alike {key otherKey : Key} (sameKey : key.Alike link otherKey) :
    other.has otherKey = d.has key := by
  unfold has
  induction alike with
  | nil => rfl
  | @cons slot otherSlot rest others one _ ih =>
    have same := one.key.eq_iff paired sameKey
    rw [List.any_cons,List.any_cons,ih]
    congr 1
    rw [Bool.eq_iff_iff,decide_eq_true_iff,decide_eq_true_iff]
    exact same.symm

theorem erase_alike {key otherKey : Key} (sameKey : key.Alike link otherKey) :
    Dict.Alike link (d.erase key) (other.erase otherKey) := by
  refine List.rel_filter (fun slot otherSlot one => ?_) alike
  have same := one.key.eq_iff paired sameKey
  simp only [decide_eq_true_iff]
  exact not_congr same

theorem update_alike {added otherAdded : Dict} (more : added.Alike link otherAdded) :
    Dict.Alike link (d.update added) (other.update otherAdded) := by
  unfold update
  induction more generalizing d other with
  | nil => exact alike
  | cons one _ ih => exact ih (Reference.insert_alike paired alike one.key one.label one.value)

end Dict

theorem List.isEmpty_alike {α β : Type} {rel : α → β → Prop} {xs : List α} {ys : List β}
    (alike : List.Forall₂ rel xs ys) : ys.isEmpty = xs.isEmpty := by
  cases alike <;> rfl

theorem Value.Alike.kind {link : Link} {v w : Value} (alike : v.Alike link w) : w.kind = v.kind := by
  cases alike <;> rfl

theorem Value.Alike.isMapping {link : Link} {v w : Value} (alike : v.Alike link w) :
    w.isMapping = v.isMapping := by
  unfold Value.isMapping
  rw [alike.kind]

/-- A scalar is alike itself alone. -/
theorem Value.Alike.eq_scalar {link : Link} {v w : Value} (alike : v.Alike link w)
    (scalar : w.spot? = none) : v = w := by
  cases alike <;> first | rfl | cases scalar

theorem Value.Alike.beq_scalar {link : Link} {v w : Value} (alike : v.Alike link w) {scalar : Value}
    (plain : scalar.spot? = none) : (w == scalar) = (v == scalar) := by
  rw [Bool.eq_iff_iff,beq_iff_eq,beq_iff_eq]
  constructor
  · rintro rfl
    exact alike.eq_scalar plain
  · rintro rfl
    cases alike <;> first | rfl | cases plain

namespace Store.Alike

variable {link : Link} {s other : Store} (alike : s.Alike link other)
include alike

theorem fsetAt {a b : Address} (linked : link .fset a b) :
    Values.Alike link (s.fsetAt a) (other.fsetAt b) := by
  have held : Object.Alike link (.items (s.fsetAt a)) (.items (other.fsetAt b)) :=
    alike.objects _ _ _ linked
  cases held with
  | items alike => exact alike

theorem blobAt {a b : Address} (linked : link .blob a b) :
    (s.blobAt a).Alike link (other.blobAt b) := by
  have held : Object.Alike link (.blob (s.blobAt a)) (.blob (other.blobAt b)) :=
    alike.objects _ _ _ linked
  cases held with
  | blob alike => exact alike

theorem failureAt {a b : Address} (linked : link .failure a b) :
    (s.failureAt a).Alike link (other.failureAt b) := by
  have held : Object.Alike link (.failure (s.failureAt a)) (.failure (other.failureAt b)) :=
    alike.objects _ _ _ linked
  cases held with
  | failure alike => exact alike

theorem trailAt {a b : Address} (linked : link .trail a b) : other.trailAt b = s.trailAt a := by
  have held : Object.Alike link (.trail (s.trailAt a)) (.trail (other.trailAt b)) :=
    alike.objects _ _ _ linked
  generalize other.trailAt b = frames at held ⊢
  generalize s.trailAt a = otherFrames at held ⊢
  cases held with
  | trail => rfl

theorem mapping? {v w : Value} (same : v.Alike link w) :
    Option.Rel (Dict.Alike link) (s.mapping? v) (other.mapping? w) := by
  cases same with
  | dict linked => exact .some (alike.dictAt linked)
  | frozen linked => exact .some (alike.frozenAt linked)
  | _ => exact .none

theorem isTrue {v w : Value} (same : v.Alike link w) : other.isTrue w = s.isTrue v := by
  have empty {α : Type} {rel : α → α → Prop} {xs ys : List α} (held : List.Forall₂ rel xs ys) :
      (!ys.isEmpty) = !xs.isEmpty := by
    rw [List.isEmpty_alike held]
  cases same with
  | list linked => exact empty (alike.listAt linked)
  | tuple linked => exact empty (alike.tupleAt linked)
  | dict linked => exact empty (alike.dictAt linked)
  | frozen linked => exact empty (alike.frozenAt linked)
  | fset linked => exact empty (alike.fsetAt linked)
  | blob linked => exact congrArg (fun data => !data.isEmpty) (alike.blobAt linked).data.symm
  | trail linked => exact congrArg (fun frames => !frames.isEmpty) (alike.trailAt linked)
  | _ => rfl

end Store.Alike

namespace ActionKind
open Unicode

/-- What brackets and the names of types begin with. -/
def foreign : List Char := ['[','(','<','\x7b','m','f','N','L','E']

/-- The text begins as no name of a kind does. -/
def Foreign (text : String) : Prop := ∃ c rest, text.toList = c :: rest ∧ c ∈ foreign

theorem Foreign.append {text : String} (begins : Foreign text) (more : String) :
    Foreign (text ++ more) := by
  obtain ⟨c,rest,same,member⟩ := begins
  exact ⟨c,rest ++ more.toList,by rw [String.toList_append,same]; rfl,member⟩

theorem Foreign.ofName? {text : String} (begins : Foreign text) : ActionKind.ofName? text = none := by
  have ascii : (foreign.all fun c => c.toNat < 0x80) = true := by decide
  have differ : (aliases.all fun name => foreign.all fun c =>
      name.1.toList.head? != some c.toLower) = true := by decide
  obtain ⟨c,rest,same,member⟩ := begins
  have small : lowerFrom [] (c :: rest) = c.toLower :: lowerFrom [c] rest := by
    have plain := of_decide_eq_true (List.all_eq_true.mp ascii c member)
    rw [lowerFrom,if_neg (by simp only [beq_iff_eq]; omega),lowerChar,if_pos plain]
    rfl
  unfold ActionKind.ofName? lower
  rw [List.lookup_eq_none_iff,same,small]
  intro name known
  rw [bne_iff_ne]
  intro equal
  refine bne_iff_ne.mp (List.all_eq_true.mp (List.all_eq_true.mp differ name known) c member) ?_
  rw [← equal,String.toList_ofList]
  rfl

end ActionKind

namespace Store
open ActionKind (Foreign)

/-- Objects other than failures are shown with a bracket or the name of their type. -/
theorem shown_foreign (s : Store) {v : Value} (object : v.spot?.isSome)
    (notFailure : ∀ a, v ≠ .failure a) : Foreign (s.shown v) := by
  unfold shown shownWithin
  cases v with
  | failure a => exact absurd rfl (notFailure a)
  | list a =>
    dsimp only
    split
    · exact ⟨'[',_,rfl,by decide⟩
    · exact .append (.append ⟨'[',_,rfl,by decide⟩ _) _
  | tuple a =>
    dsimp only
    split
    · exact ⟨'(',_,rfl,by decide⟩
    · split
      · exact .append (.append ⟨'(',_,rfl,by decide⟩ _) _
      · exact .append (.append ⟨'(',_,rfl,by decide⟩ _) _
  | dict a =>
    dsimp only
    split
    · exact ⟨'\x7b',_,rfl,by decide⟩
    · exact .append (.append ⟨'\x7b',_,rfl,by decide⟩ _) _
  | frozen a => exact .append (.append ⟨'m',_,rfl,by decide⟩ _) _
  | fset a =>
    dsimp only
    split
    · exact ⟨'f',_,rfl,by decide⟩
    · exact .append (.append ⟨'f',_,rfl,by decide⟩ _) _
  | blob a => exact .append (.append (.append (.append ⟨'<',_,rfl,by decide⟩ _) _) _) _
  | node a =>
    dsimp only
    split
    · exact .append (.append ⟨'N',_,rfl,by decide⟩ _) _
    · exact .append (.append (.append (.append (.append (.append ⟨'N',_,rfl,by decide⟩ _) _) _) _) _) _
  | ref a => exact .append (.append ⟨'L',_,rfl,by decide⟩ _) _
  | scope a => exact .append (.append ⟨'<',_,rfl,by decide⟩ _) _
  | context a => exact .append (.append ⟨'<',_,rfl,by decide⟩ _) _
  | report a =>
    unfold reportText
    iterate 10 refine .append ?_ _
    exact ⟨'E',_,rfl,by decide⟩
  | trail a =>
    unfold trailText
    exact .append (.append ⟨'<',_,rfl,by decide⟩ _) _
  | _ => cases object

end Store

/-- Actions that ask for the same with values that are alike. -/
structure Action.Alike (link : Link) (action other : Action) : Prop where
  kind : other.kind = action.kind
  selector : other.selector = action.selector
  data : action.data.Alike link other.data
  setop : action.setop.Alike link other.setop
  mediaType : action.mediaType.Alike link other.mediaType
  base64 : action.base64.Alike link other.base64

namespace Action

variable {link : Link} {s other : Store} (alike : s.Alike link other)
include alike

omit alike in
theorem kindOf?_object (s : Store) {v : Value} (object : v.spot?.isSome)
    (notFailure : ∀ a, v ≠ .failure a) : kindOf? s v = none := by
  have plain : s.display v = s.shown v := by
    cases v with
    | str text => cases object
    | failure a => exact absurd rfl (notFailure a)
    | _ => rfl
  unfold kindOf?
  rw [plain,(s.shown_foreign object notFailure).ofName?]
  split <;> rfl

/-- Values that are alike name the same kind of action, or none. -/
theorem kindOf?_alike {v w : Value} (same : v.Alike link w) : kindOf? other w = kindOf? s v := by
  cases same with
  | @failure a b linked =>
    have fault := (alike.failureAt linked).fault
    show ActionKind.ofName? (other.failureAt b).fault.message =
      ActionKind.ofName? (s.failureAt a).fault.message
    rw [fault]
  | null => rfl
  | bool truth => cases truth <;> rfl
  | int number => rfl
  | float number => rfl
  | str text => rfl
  | bytes data => rfl
  | callable a => rfl
  | _ =>
    rw [kindOf?_object other rfl (fun _ => Value.noConfusion),
      kindOf?_object s rfl (fun _ => Value.noConfusion)]

theorem either_alike {d otherDict : Dict} (same : d.Alike link otherDict) (name second : String) :
    (either d name second).Alike link (either otherDict name second) := by
  have held := Dict.get?_alike alike.paired same (Key.text_alike link name)
  have spare := Dict.field_alike alike.paired same second
  show ((d.get? _).getD _).Alike link ((otherDict.get? _).getD _)
  revert held
  generalize d.get? (.text name) = found
  generalize otherDict.get? (.text name) = otherFound
  intro held
  cases held with
  | none => exact spare
  | some held => exact held

omit alike in
/-- No value has the key of a text but the text. -/
theorem eq_text_of_key? {v : Value} {name : String} (key : s.key? v = some (.text name)) :
    v = .str name := by
  have atom {v : Value} (key : (Store.atom? v).map Key.atom = some (.text name)) : v = .str name := by
    cases v with
    | float x =>
      simp only [Store.atom?] at key
      split at key <;> cases key
    | bool truth => cases key
    | _ => cases key <;> rfl
  have compound {keys : Option (List Key)} {wrap : List Key → List KeyPart}
      (key : (keys >>= fun keys => some (Key.compound (wrap keys))) = some (.text name)) : False := by
    cases keys <;> cases key
  unfold Store.key? at key
  revert key
  cases s.tuples.size + s.fsets.size with
  | zero => exact atom
  | succ fuel =>
    intro key
    cases v with
    | tuple a => exact (compound key).elim
    | fset a => exact (compound key).elim
    | _ => exact atom key

omit alike in
theorem checkSetop_ok {malformed : String → Fault} {kind : ActionKind} {setop : Value}
    (passed : checkSetop s malformed kind setop = .ok ()) :
    kind ≠ .setData ∨ ∃ name ∈ setops, setop = .str name := by
  unfold checkSetop at passed
  split at passed
  · next other => exact .inl (bne_iff_ne.mp other)
  · right
    split at passed
    · cases passed
    · next key found =>
      split at passed
      · next known =>
        obtain ⟨name,member,same⟩ := List.any_eq_true.mp known
        rw [beq_iff_eq] at same
        subst same
        exact ⟨name,member,eq_text_of_key? found⟩
      · cases passed

omit alike in
theorem checkSetop_known {malformed : String → Fault} {kind : ActionKind} {setop : Value}
    (passes : kind ≠ .setData ∨ ∃ name ∈ setops, setop = .str name) :
    checkSetop s malformed kind setop = .ok () := by
  have key (name : String) : s.key? (.str name) = some (.text name) := by
    unfold Store.key?
    cases s.tuples.size + s.fsets.size <;> rfl
  unfold checkSetop
  obtain differ | ⟨name,member,rfl⟩ := passes
  · rw [if_pos (bne_iff_ne.mpr differ)]
  · split
    · rfl
    · rw [key]
      dsimp only
      rw [if_pos (List.any_eq_true.mpr ⟨name,member,beq_self_eq_true (Key.text name)⟩)]

omit alike in
theorem checkSetop_yields {kind : ActionKind} {setop otherSetop : Value}
    (same : setop.Alike link otherSetop) (malformed otherMalformed : String → Fault) :
    Yields (fun _ _ => True) (checkSetop s malformed kind setop)
      (checkSetop other otherMalformed kind otherSetop) := by
  intro _ passed
  refine ⟨(),checkSetop_known ?_,trivial⟩
  obtain differ | ⟨name,member,rfl⟩ := checkSetop_ok passed
  · exact .inl differ
  · cases same
    exact .inr ⟨name,member,rfl⟩

/-- Records that are alike ask for actions that are alike. -/
theorem ofDict_yields {d otherDict : Dict} (same : d.Alike link otherDict)
    (record otherRecord : Value) :
    Yields (Action.Alike link) (ofDict s record d) (ofDict other otherRecord otherDict) := by
  have field := Dict.field_alike alike.paired same
  have written : (writtenKind d).Alike link (writtenKind otherDict) :=
    either_alike alike same "type" "kind"
  have setop : (if s.isTrue (d.field "setop") then d.field "setop" else .str "set").Alike link
      (if other.isTrue (otherDict.field "setop") then otherDict.field "setop" else .str "set") := by
    rw [alike.isTrue (field "setop")]
    split
    · exact field "setop"
    · exact .str _
  have selector := either_alike alike same "selector" "path"
  unfold ofDict
  dsimp only
  rw [kindOf?_alike alike written]
  split
  · exact .error _ _
  · next kind named =>
    revert selector
    generalize either d "selector" "path" = given
    generalize either otherDict "selector" "path" = otherGiven
    intro selector
    cases selector with
    | null | str =>
      refine .guarded rfl _ _ ?_
      refine .bind (checkSetop_yields setop _ _) fun _ _ _ => ?_
      refine .guarded ?_ _ _ (.guarded ?_ _ _ (.guarded ?_ _ _ (.ok ?_)))
      · rw [bne,bne,setop.beq_scalar rfl,
          Dict.has_alike alike.paired same (Key.text_alike link "data")]
      · rw [(field "data").beq_scalar rfl]
      · rw [alike.isTrue (field "mimetype")]
      · exact ⟨rfl,rfl,field _,setop,field _,field _⟩
    | _ => exact .error _ _

theorem ofRecord_yields {record otherRecord : Value} (same : record.Alike link otherRecord) :
    Yields (Action.Alike link) (ofRecord s record) (ofRecord other otherRecord) := by
  have held := alike.mapping? same
  unfold ofRecord
  revert held
  generalize s.mapping? record = d
  generalize other.mapping? otherRecord = otherDict
  intro held
  cases held with
  | none => exact .error _ _
  | some held => exact ofDict_yields alike held record otherRecord

end Action
end PageRuntime
