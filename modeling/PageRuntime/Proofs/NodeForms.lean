import PageRuntime.Proofs.Endings
import PageRuntime.Proofs.PlainForms

/-! Converting nodes. A node has a dictionary form unless it is a node within itself: nodes nest no deeper
than there are nodes. -/
namespace PageRuntime

theorem Runtime.Extends.mapping? {r mid : Runtime} (within : r.Extends mid) {v : Value}
    (present : v.Present r.store) : mid.store.mapping? v = r.store.mapping? v := by
  cases present with
  | dict linked => exact congrArg some (Object.entries.inj (within.growth.store _ _ linked.2).2)
  | frozen linked => exact congrArg some (Object.entries.inj (within.growth.store _ _ linked.2).2)
  | _ => rfl

namespace Node
open Act (EndsAt)

variable {r mid : Runtime} {raises : Fault → Prop}

/-- A style that does not count as empty is a mapping. -/
def Styled (s : Store) (n : Node) : Prop := s.isTrue n.style = true → ∃ d, s.mapping? n.style = some d

theorem Bare.styled {s : Store} {n : Node} (bare : n.Bare s) : n.Styled s :=
  fun some => (bare.style some).imp fun _ held => held.1

theorem fieldUnless_ends (wrap : Address → Value) (has : Address → Runtime → Prop) {absent : Bool}
    {name : String} {value : Act Value} (closed : mid.Closed)
    (ends : absent = false → EndsAt mid (fun v after => ∃ b, v = wrap b ∧ has b after) raises value) :
    EndsAt mid (fun fields after => ∃ b, fields = given absent name (wrap b) ∧
      (absent = false → has b after)) raises (fieldUnless absent name value) := by
  unfold fieldUnless
  cases absent with
  | true => exact .pure closed ⟨0,rfl,nofun⟩
  | false =>
    refine .bind (ends rfl) fun v after within ⟨b,made,held⟩ => .pure within.closed ⟨b,?_,fun _ => held⟩
    rw [made]
    rfl

theorem formOf_present {s : Store} {fields : List (String × Value)}
    (present : ∀ field ∈ fields, field.2.Present s) : (formOf fields).Alike s.identity (formOf fields) :=
  List.forall₂_same.mpr fun slot member => by
    obtain ⟨field,held,rfl⟩ := List.mem_map.mp member
    exact ⟨Key.text_alike _ _,.str _,present field held⟩

theorem styled_ends {style : Value} {d : Dict} (within : r.Extends mid)
    (present : style.Present r.store) (mapping : r.store.mapping? style = some d) :
    EndsAt mid (fun w after => ∃ b, w = .dict b ∧ after.store.Has .dict b (.entries d)) raises
      (styled style) := by
  have same : mid.store.dictOf style = .ok d := by
    unfold Store.dictOf
    rw [within.mapping? present,mapping]
  have entries : d.Alike mid.store.identity d := by
    have alike := within.closed.store.mapping? (present.grew within.growth.store)
    rw [within.mapping? present,mapping] at alike
    cases alike with
    | some alike => exact alike
  refine .of_store ?_
  rw [same]
  exact (EndsAt.newDict within.closed entries).imp fun w after _ held => ⟨_,held⟩

/-- The children in a list of their own, which is left out if there are none. -/
theorem children_ends {forms : Address → Value → Runtime → Prop}
    (keeps : ∀ a w early late, Runtime.Extends early late → forms a w early → forms a w late)
    (present : ∀ a w after, forms a w after → w.Present after.store) {step : Address → Act Value}
    {children : List Address} (closed : mid.Closed)
    (steps : ∀ a ∈ children, ∀ after, mid.Extends after → EndsAt after (forms a) raises (step a)) :
    EndsAt mid (fun fields after => ∃ b, ∃ rows : List (Address × Value),
      fields = given children.isEmpty "list" (.list b) ∧ rows.map (·.1) = children ∧
      (∀ row ∈ rows, forms row.1 row.2 after) ∧
      (children.isEmpty = false → after.store.Has .list b (.items (rows.map (·.2))))) raises
      (fieldUnless children.isEmpty "list" (listed step children)) := by
  refine (fieldUnless_ends .list _ closed fun _ => EndsAt.listed keeps present closed steps).imp ?_
  rintro _ after _ ⟨b,rfl,made⟩
  cases none : children.isEmpty with
  | true =>
    exact ⟨b,[],rfl,(List.isEmpty_iff.mp none).symm,fun _ member => (List.not_mem_nil member).elim,
      nofun⟩
  | false =>
    obtain ⟨rows,of,all,made⟩ := made none
    exact ⟨b,rows,rfl,of,all,fun _ => made⟩

/-- A node has a dictionary form unless it is a node within itself. -/
theorem toDictWithin_ends (closed : r.Closed) {fuel : Nat} : ∀ {a : Address} {mid : Runtime},
    r.Extends mid → (Value.node a).Present r.store →
    (∀ b, r.Converts (.node a) (.node b) → (r.store.nodeAt b).Styled r.store) →
    (NestsWithin r.parts fuel (.node a) ∨ raises (.misuse .recursion "maximum recursion depth exceeded")) →
    EndsAt mid (fun w after => Formed r.store after.store a w ∧ w.Present after.store) raises
      (toDictWithin fuel a) := by
  induction fuel with
  | zero =>
    intro a mid _ _ _ nests
    exact .fail (nests.resolve_left id)
  | succ fuel ih =>
    intro a mid within present styled nests
    have inside : a < r.store.nodes.size := present.inside .node a rfl
    have content : mid.store.nodeAt a = r.store.nodeAt a :=
      Object.node.inj (within.growth.store .node a inside).2
    have held := closed.store.nodeAt ⟨rfl,inside⟩
    have truth : mid.store.isTrue (r.store.nodeAt a).style = r.store.isTrue (r.store.nodeAt a).style :=
      (closed.grew within.growth within.closed).store.isTrue held.style
    have below (child : Address) (member : child ∈ (r.store.nodeAt a).children) {after : Runtime}
        (further : r.Extends after) :
        EndsAt after (fun w last => Formed r.store last.store child w ∧ w.Present last.store) raises
          (toDictWithin fuel child) := by
      have part : HasPart r.parts (.node a) (.node child) := List.mem_map_of_mem member
      exact ih further (closed.parts_present present part) (fun b reached => styled b (.head part reached))
        (nests.imp_left fun nests => nests _ part)
    refine .of_store ?_
    dsimp only
    rw [content,truth]
    refine .bind (fieldUnless_ends .dict
      (fun b after => after.store.Has .dict b (.entries (r.store.nodeAt a).attrs)) within.closed
      fun _ => (EndsAt.newDict within.closed (held.attrs.mono within.growth.store.identity)).imp
        fun w after _ made => ⟨_,made⟩) fun _ first grown ⟨attrsAt,attrsFields,attrsMade⟩ => ?_
    have within := within.grew grown.growth grown.closed
    refine .bind (children_ends (fun _ _ _ _ further made => ⟨made.1.grew further.growth.store,
        made.2.grew further.growth.store⟩) (fun _ _ _ made => made.2) within.closed
      fun child member after further => below child member (within.grew further.growth further.closed))
      fun _ second grown ⟨listAt,rows,listFields,of,formed,listMade⟩ => ?_
    have attrsMade := fun some => (attrsMade some).grew grown.growth.store
    have within := within.grew grown.growth grown.closed
    refine .bind (fieldUnless_ends .dict (fun b after => ∃ d,
      r.store.dictOf (r.store.nodeAt a).style = .ok d ∧ after.store.Has .dict b (.entries d))
      within.closed fun some => ?_) fun _ third grown ⟨styleAt,styleFields,styleMade⟩ => ?_
    · obtain ⟨d,mapping⟩ := styled a .refl (by simpa using some)
      refine (styled_ends within held.style mapping).imp fun w after _ ⟨b,same,made⟩ =>
        ⟨b,same,d,?_,made⟩
      rw [Store.dictOf,mapping]
    · have attrsMade := fun some => (attrsMade some).grew grown.growth.store
      have listMade := fun some => (listMade some).grew grown.growth.store
      have within := within.grew grown.growth grown.closed
      have styleMade (some : r.store.isTrue (r.store.nodeAt a).style = true) :=
        styleMade (by rw [some]; rfl)
      have present : ∀ field ∈ fields r.store (r.store.nodeAt a) attrsAt listAt styleAt,
          field.2.Present third.store := by
        intro field member
        obtain rfl | ⟨some,rfl⟩ | ⟨some,rfl⟩ | ⟨some,rfl⟩ | rfl := mem_fields member
        · exact Value.Present.grew held.tag within.growth.store
        · exact .dict ⟨rfl,(attrsMade some).1⟩
        · exact .list ⟨rfl,(listMade some).1⟩
        · obtain ⟨d,-,made⟩ := styleMade some
          exact .dict ⟨rfl,made.1⟩
        · exact Value.Present.grew held.text within.growth.store
      subst attrsFields listFields styleFields
      refine (EndsAt.newDict within.closed (formOf_present present)).imp fun w last further ⟨same,made⟩ => ?_
      subst same
      have grew := further.growth.store
      exact ⟨.form rows of
        (fun row member => ((formed row member).1.grew grown.growth.store).grew grew)
        (fun some => (attrsMade some).grew grew) (fun some => (listMade some).grew grew)
        (fun some => (styleMade some).imp fun d held => ⟨held.1,held.2.grew grew⟩) made,
        .dict ⟨rfl,made.1⟩⟩

theorem converts_node {a : Address} {w : Value} (reached : r.Converts (.node a) w) :
    ∃ b, w = .node b := by
  induction reached with
  | refl => exact ⟨a,rfl⟩
  | tail _ part ih =>
    obtain ⟨b,rfl⟩ := ih
    obtain ⟨child,-,rfl⟩ := List.mem_map.mp part
    exact ⟨child,rfl⟩

/-- Nodes nest no deeper than there are nodes. -/
theorem nestsWithin_nodes (closed : r.Closed) {a : Address} (present : (Value.node a).Present r.store)
    (unlooped : Unlooped r.parts (.node a)) : NestsWithin r.parts r.store.nodes.size (.node a) := by
  have nests := unlooped.nestsWithin ((List.range r.store.nodes.size).map .node) fun w reached => by
    obtain ⟨b,rfl⟩ := converts_node reached
    exact List.mem_map_of_mem (List.mem_range.mpr
      ((closed.converts_present present reached).inside .node b rfl))
  rwa [List.length_map,List.length_range] at nests

theorem toDict_ends (within : r.Extends mid) {a : Address} (present : (Value.node a).Present r.store)
    (styled : ∀ b, r.Converts (.node a) (.node b) → (r.store.nodeAt b).Styled r.store)
    (ends : Unlooped r.parts (.node a) ∨
      raises (.misuse .recursion "maximum recursion depth exceeded")) :
    EndsAt mid (r.FormedAs (.node a)) raises (toDict a) := by
  have enough : r.store.nodes.size ≤ mid.store.nodes.size + 1 :=
    Nat.le_succ_of_le (within.growth.store.sizeOf_le .node)
  refine .of_store ((toDictWithin_ends within.old within present styled (ends.imp_left fun unlooped =>
    (nestsWithin_nodes within.old present unlooped).mono enough)).imp
      fun w after _ made => ⟨.node made.1,made.2⟩)

end Node

end PageRuntime
