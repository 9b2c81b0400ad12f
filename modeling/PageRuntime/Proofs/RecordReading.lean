import PageRuntime.Proofs.Containment

/-! What a record is read as. Two stores read it as the same action if what the record holds, at any
depth, has the same contents in both. -/
namespace PageRuntime

/-- The kinds of objects that have contents of their own, and do not only stand for a place. -/
def Shelf.isData : Shelf → Bool
  | list | tuple | dict | frozen | fset | blob | failure | trail => true
  | _ => false

/-- Of all objects only failures name a kind of action. -/
theorem Action.kindOf?_congr {s t : Store} {v : Value}
    (failures : ∀ a, v = .failure a → t.failureAt a = s.failureAt a) : kindOf? t v = kindOf? s v := by
  cases v with
  | failure a =>
    exact congrArg (fun failure : Failure => ActionKind.ofName? failure.fault.message) (failures a rfl)
  | null => rfl
  | bool truth => cases truth <;> rfl
  | int number => rfl
  | float number => rfl
  | str text => rfl
  | bytes data => rfl
  | callable a => rfl
  | _ =>
    rw [kindOf?_object t rfl (fun _ => Value.noConfusion),
      kindOf?_object s rfl (fun _ => Value.noConfusion)]

namespace Value

/-- What the value has as contents is the same in both stores. -/
def Settled (s t : Store) (v : Value) : Prop :=
  ∀ shelf a, v.spot? = some (shelf,a) → shelf.isData = true → t.object shelf a = s.object shelf a

namespace Settled

variable {s t : Store} {v : Value} (settled : v.Settled s t)
include settled

theorem isTrue : t.isTrue v = s.isTrue v := by
  cases v with
  | list a => exact congrArg (!List.isEmpty ·) (Object.items.inj (settled .list a rfl rfl))
  | tuple a => exact congrArg (!List.isEmpty ·) (Object.items.inj (settled .tuple a rfl rfl))
  | fset a => exact congrArg (!List.isEmpty ·) (Object.items.inj (settled .fset a rfl rfl))
  | dict a => exact congrArg (!List.isEmpty ·) (Object.entries.inj (settled .dict a rfl rfl))
  | frozen a => exact congrArg (!List.isEmpty ·) (Object.entries.inj (settled .frozen a rfl rfl))
  | blob a =>
    exact congrArg (fun blob : Blob => !blob.data.isEmpty) (Object.blob.inj (settled .blob a rfl rfl))
  | trail a => exact congrArg (!List.isEmpty ·) (Object.trail.inj (settled .trail a rfl rfl))
  | _ => rfl

theorem mapping? : t.mapping? v = s.mapping? v := by
  cases v with
  | dict a => exact congrArg some (Object.entries.inj (settled .dict a rfl rfl))
  | frozen a => exact congrArg some (Object.entries.inj (settled .frozen a rfl rfl))
  | _ => rfl

theorem members : t.members v = s.members v := by
  cases v with
  | list a => exact Store.members_congr fun shelf b here => settled shelf b here (by cases here; rfl)
  | tuple a => exact Store.members_congr fun shelf b here => settled shelf b here (by cases here; rfl)
  | dict a => exact Store.members_congr fun shelf b here => settled shelf b here (by cases here; rfl)
  | frozen a => exact Store.members_congr fun shelf b here => settled shelf b here (by cases here; rfl)
  | _ => rfl

theorem kindOf? : Action.kindOf? t v = Action.kindOf? s v := by
  refine Action.kindOf?_congr ?_
  rintro a rfl
  exact Object.failure.inj (settled .failure a rfl rfl)

theorem octetsOf : (Blob.octetsOf t v).toOption = (Blob.octetsOf s v).toOption := by
  unfold Blob.octetsOf
  rw [settled.isTrue]
  split
  · rfl
  · cases v <;> rfl

theorem itemsOf : (t.itemsOf v).toOption = (s.itemsOf v).toOption := by
  cases v with
  | list a => exact congrArg some (Object.items.inj (settled .list a rfl rfl))
  | tuple a => exact congrArg some (Object.items.inj (settled .tuple a rfl rfl))
  | fset a => exact congrArg some (Object.items.inj (settled .fset a rfl rfl))
  | dict a => exact congrArg (some ∘ Dict.labels) (Object.entries.inj (settled .dict a rfl rfl))
  | frozen a => exact congrArg (some ∘ Dict.labels) (Object.entries.inj (settled .frozen a rfl rfl))
  | _ => rfl

end Settled

theorem Settled.null (s t : Store) : Value.null.Settled s t := by
  rintro _ _ ⟨⟩

end Value

/-- What lies within a value that is the same at every depth lay there before. -/
theorem Store.Within.of_settled {s t : Store} {v w : Value}
    (settled : ∀ u, s.Within v u → u.Settled s t) (within : t.Within v w) : s.Within v w := by
  induction within with
  | self => exact .self
  | member _ held ih =>
    rw [(settled _ ih).members] at held
    exact .member ih held

namespace Dict

variable {s : Store} {v : Value} {d : Dict} (mapping : s.mapping? v = some d)
include mapping

/-- A field of a record is null or one of the record's members. -/
theorem field_member (name : String) : d.field name = .null ∨ d.field name ∈ s.members v := by
  unfold Dict.field Dict.get
  cases found : d.get? (.text name) with
  | none => exact .inl rfl
  | some held =>
    right
    obtain ⟨slot,here,rfl⟩ := Option.map_eq_some_iff.mp found
    rw [Store.members,mapping]
    exact List.mem_map_of_mem (List.mem_of_find?_eq_some here)

theorem either_member (name other : String) :
    Action.either d name other = .null ∨ Action.either d name other ∈ s.members v := by
  have first := field_member mapping name
  unfold Dict.field Dict.get at first
  unfold Action.either Dict.field?
  revert first
  cases d.get? (.text name) with
  | none => exact fun _ => field_member mapping other
  | some held => exact id

theorem either_inside (inside : ∀ w, s.Within v w → w.Inside s) (name other : String) :
    (Action.either d name other).Inside s := by
  obtain none | held := either_member mapping name other
  · rw [none]
    rintro _ _ ⟨⟩
  · exact inside _ (.member .self held)

end Dict

/-- Results that are the same values agree, whatever their faults. -/
theorem Yields.toOption_eq {α : Type} {result other : Except Fault α} (there : Yields Eq result other)
    (back : Yields Eq other result) : other.toOption = result.toOption := by
  cases result with
  | ok x =>
    obtain ⟨_,rfl,rfl⟩ := there x rfl
    rfl
  | error fault =>
    cases other with
    | ok y =>
      obtain ⟨_,failed,-⟩ := back y rfl
      cases failed
    | error otherFault => rfl

theorem ok_of_toOption {α : Type} {result : Except Fault α} {x : α} (given : result.toOption = some x) :
    result = .ok x := by
  cases result with
  | ok y => exact congrArg Except.ok (Option.some.inj given)
  | error fault => cases given

namespace Action

variable {s t : Store} {d : Dict} {record : Value} {action : Action}

/-- Where the parts of an action come from. -/
theorem ofDict_given (read : ofDict s record d = .ok action) :
    kindOf? s (writtenKind d) = some action.kind ∧
      either d "selector" "path" = Value.ofText? action.selector ∧
      action.data = d.field "data" ∧ action.mediaType = d.field "mimetype" ∧
      action.base64 = d.field "blobbase64" := by
  unfold ofDict at read
  dsimp only at read
  split at read
  · cases read
  · next kind named =>
    revert read
    generalize either d "selector" "path" = given
    generalize (if s.isTrue (d.field "setop") then d.field "setop" else .str "set") = setop
    intro read
    cases given with
    | null | str =>
      obtain ⟨selector,chosen,read⟩ := ok_of_bind read
      cases chosen
      split at read
      · cases read
      · obtain ⟨_,-,read⟩ := ok_of_bind read
        split at read
        · cases read
        · split at read
          · cases read
          · split at read <;> cases read
            exact ⟨named,rfl,rfl,rfl,rfl⟩
    | _ => cases read

theorem ofRecord_given (read : ofRecord s record = .ok action) :
    ∃ d, s.mapping? record = some d ∧ kindOf? s (writtenKind d) = some action.kind ∧
      either d "selector" "path" = Value.ofText? action.selector ∧
      action.data = d.field "data" ∧ action.mediaType = d.field "mimetype" ∧
      action.base64 = d.field "blobbase64" := by
  unfold ofRecord at read
  split at read
  · next d mapping => exact ⟨d,mapping,ofDict_given read⟩
  · cases read

/-- Two stores read the record as the same action if they agree on its kind and on the truth of its
fields. -/
theorem ofDict_yields_of_truth (kind : kindOf? t (writtenKind d) = kindOf? s (writtenKind d))
    (truth : ∀ name, t.isTrue (d.field name) = s.isTrue (d.field name)) :
    Yields Eq (ofDict s record d) (ofDict t record d) := by
  have checks (malformed otherMalformed : String → Fault) (kind : ActionKind) (setop : Value) :
      Yields Eq (checkSetop s malformed kind setop) (checkSetop t otherMalformed kind setop) :=
    fun _ passed => ⟨(),checkSetop_known (checkSetop_ok passed),rfl⟩
  unfold ofDict
  dsimp only
  rw [kind]
  split
  · exact .error _ _
  · rw [truth,truth]
    generalize either d "selector" "path" = given
    cases given with
    | null | str =>
      refine .guarded rfl _ _ (.bind (checks _ _ _ _) fun _ _ _ => ?_)
      exact .guarded rfl _ _ (.guarded rfl _ _ (.guarded rfl _ _ (.ok rfl)))
    | _ => exact .error _ _

end Action
end PageRuntime
