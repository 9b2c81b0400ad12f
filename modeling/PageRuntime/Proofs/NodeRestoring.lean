import PageRuntime.Proofs.DeepEquality
import PageRuntime.Proofs.NodeForms

/-! Nodes made from their dictionary forms. What a form leaves out comes back as what it stands for, so the
node has the content of the one that the form was made of, all the way down, and its own form equals the
first. It is equal to that node itself where no style is empty: a form does not tell an empty style from
none. -/
namespace PageRuntime

theorem Dict.field_eq (d : Dict) (name : String) : d.field name = Value.ofOption (d.field? name) := rfl

/-- Entries with no key twice and no value that differs from itself. -/
structure Dict.Regular (d : Dict) : Prop where
  once : (d.map (·.key)).Nodup
  numbers : ∀ slot ∈ d, slot.value.isNaN = false

theorem Act.EndsAt.newNode {mid : Runtime} {raises : Fault → Prop} {n : Node} (closed : mid.Closed)
    (present : n.Alike mid.store.identity n) :
    Act.EndsAt mid (fun b after => after.store.Has .node b (.node n)) raises (Act.make (·.newNode n)) :=
  have adds := mid.store.newNode_adds n
  .inl ⟨_,_,rfl,⟨closed,⟨.of_adds adds,rfl⟩,closed.newNode present⟩,adds.has⟩

theorem Act.EndsAt.of_run {α : Type} {mid : Runtime} {yields : α → Runtime → Prop} {raises : Fault → Prop}
    {act other : Act α} (same : act mid = other mid) (ends : EndsAt mid yields raises other) :
    EndsAt mid yields raises act := by
  unfold EndsAt
  rwa [same]

namespace Node
open Act (EndsAt)

/-- Equality of such nodes and of their forms does not depend on anything but their content. -/
structure Regular (s : Store) (n : Node) : Prop where
  tag : n.tag.isNaN = false
  attrs : n.attrs.Regular
  style : (s.entries n.style).Regular
  text : n.text.isNaN = false

/-- The style that comes back: none where the style counts as empty, and else a dictionary like it. -/
inductive Restyled (s t : Store) (old : Value) : Value → Prop
  | none (empty : s.isTrue old = false) : Restyled s t old .null
  | some {d : Dict} {a : Address} (full : s.isTrue old = true) (entries : s.mapping? old = some d)
    (made : t.Has .dict a (.entries d)) : Restyled s t old (.dict a)

/-- The node of the second store has the content of the node of the first, and so have its children, one
beside the other. -/
inductive Restored (s t : Store) : Address → Address → Prop
  | node {a b : Address} {style : Value} (rows : List (Address × Address))
    (children : rows.map (·.1) = (s.nodeAt a).children)
    (below : ∀ row ∈ rows, Restored s t row.1 row.2) (restyled : Restyled s t (s.nodeAt a).style style)
    (made : t.Has .node b (.node { s.nodeAt a with children := rows.map (·.2), style })) :
    Restored s t a b

variable {s t after : Store} {a b : Address} {v w : Value}

theorem Restyled.grew {old style : Value} (restyled : Restyled s t old style) (grew : t.Grew after) :
    Restyled s after old style := by
  cases restyled with
  | none empty => exact .none empty
  | some full entries made => exact .some full entries (made.grew grew)

theorem Restored.grew (restored : Restored s t a b) (grew : t.Grew after) : Restored s after a b := by
  induction restored with
  | node rows children _ restyled made ih =>
    exact .node rows children ih (restyled.grew grew) (made.grew grew)

theorem Restored.inside (restored : Restored s t a b) : b < t.nodes.size := by
  cases restored with
  | node _ _ _ _ made => exact made.1

theorem Restyled.present {old style : Value} (restyled : Restyled s t old style) : style.Present t := by
  cases restyled with
  | none => exact .null
  | some _ _ made => exact .dict ⟨rfl,made.1⟩

/-! What a form says. -/
section Fields

theorem field?_formOf_cons (name other : String) (v : Value) (rest : List (String × Value)) :
    (formOf ((other,v) :: rest)).field? name =
      if other = name then some v else (formOf rest).field? name := by
  by_cases same : other = name <;> simp [formOf,Dict.field?,Dict.get?,Key.text,same]

theorem field?_formOf_append (name : String) (first rest : List (String × Value)) :
    (formOf (first ++ rest)).field? name =
      ((formOf first).field? name).or ((formOf rest).field? name) := by
  simp [formOf,Dict.field?,Dict.get?,List.find?_append,Option.map_or]

theorem field?_formOf_given (name other : String) (absent : Bool) (v : Value) :
    (formOf (given absent other v)).field? name =
      if other = name ∧ absent = false then some v else none := by
  cases absent with
  | true => simp [given,formOf,Dict.field?,Dict.get?]
  | false => simp [given,formOf,Dict.field?,Dict.get?,Key.text]

variable (s : Store) (n : Node) (attrs list style : Address)

theorem formOf_tag : (formOf (fields s n attrs list style)).field? "tag" = some n.tag := by
  simp [fields,field?_formOf_cons]

theorem formOf_has_tag : (formOf (fields s n attrs list style)).has (.text "tag") = true :=
  List.any_eq_true.mpr ⟨⟨.text "tag",.str "tag",n.tag⟩,List.mem_cons_self,by simp⟩

theorem formOf_attrs : (formOf (fields s n attrs list style)).field? "attrs" =
    if n.attrs.isEmpty = false then some (.dict attrs) else none := by
  simp [fields,field?_formOf_cons,field?_formOf_append,field?_formOf_given]

theorem formOf_list : (formOf (fields s n attrs list style)).field? "list" =
    if n.children.isEmpty = false then some (.list list) else none := by
  simp [fields,field?_formOf_cons,field?_formOf_append,field?_formOf_given]

theorem formOf_children : (formOf (fields s n attrs list style)).field? "children" = none := by
  simp [fields,field?_formOf_cons,field?_formOf_append,field?_formOf_given]

theorem formOf_style : (formOf (fields s n attrs list style)).field? "style" =
    if s.isTrue n.style = true then some (.dict style) else none := by
  simp [fields,field?_formOf_cons,field?_formOf_append,field?_formOf_given]

theorem formOf_text : (formOf (fields s n attrs list style)).field "text" = n.text := by
  show Value.ofOption ((formOf (fields s n attrs list style)).field? "text") = n.text
  by_cases none : n.text = .null <;>
    simp [fields,field?_formOf_cons,field?_formOf_append,field?_formOf_given,none,Value.ofOption]

end Fields

/-! Reading a form. -/
section Reading

variable {r mid : Runtime} {raises : Fault → Prop} {d : Dict}

/-- A dictionary with a tag is read in the order children, attributes, node. -/
theorem ofValueWithin_dict (fuel : Nat) {forms : List Value} {attrs : Dict}
    (held : mid.store.dictAt a = d) (tag : d.has (.text "tag") = true)
    (children : listedChildren mid.store d = .ok forms)
    (read : mid.store.dictOrEmpty (d.field "attrs") = .ok attrs) :
    ofValueWithin (fuel + 1) (.dict a) mid = (forms.mapM (ofValueWithin fuel) >>= fun children =>
      Act.make (·.newNode ⟨d.field "tag",attrs,children,d.field "style",d.field "text"⟩)) mid := by
  have named : namesTag mid.store (.dict a) = .ok true := by
    simp [namesTag,Store.mapping?,held,tag]
  rw [ofValueWithin,Step.bind_done (Act.store_run mid),named]
  · simp only [Store.mapping?,held,children,read]
    rfl
  · simp

variable {n : Node} {attrs list style : Address} {forms : List Value}

theorem listedChildren_formOf (made : n.children.isEmpty = false → t.Has .list list (.items forms))
    (length : forms.length = n.children.length) :
    listedChildren t (formOf (fields s n attrs list style)) = .ok forms := by
  rw [listedChildren,Dict.field_eq,formOf_list,formOf_children]
  cases none : n.children.isEmpty with
  | true =>
    rw [List.isEmpty_iff.mp none] at length
    simp [Value.ofOption,Store.isTrue,List.eq_nil_of_length_eq_zero length]
  | false =>
    have some : forms.isEmpty = false := by
      cases forms with
      | nil => simp [List.eq_nil_of_length_eq_zero length.symm] at none
      | cons => rfl
    simp [Store.isTrue,Store.itemsOf,(made none).listAt,some]

theorem attrs_formOf (made : n.attrs.isEmpty = false → t.Has .dict attrs (.entries n.attrs)) :
    t.dictOrEmpty ((formOf (fields s n attrs list style)).field "attrs") = .ok n.attrs := by
  rw [Dict.field_eq,formOf_attrs]
  cases none : n.attrs.isEmpty with
  | true => simp [Value.ofOption,Store.dictOrEmpty,Store.isTrue,List.isEmpty_iff.mp none]
  | false =>
    simp [Value.ofOption,Store.dictOrEmpty,Store.isTrue,Store.dictOf,Store.mapping?,(made none).dictAt,none]

/-- Reading the form of a node in which nothing lies within itself makes a node like it. -/
theorem ofValueWithin_ends {fuel : Nat} : ∀ {a : Address} {w : Value} {mid : Runtime}, r.Extends mid →
    Formed r.store mid.store a w → (Value.node a).Present r.store →
    (∀ b, r.Converts (.node a) (.node b) → (r.store.nodeAt b).Styled r.store) →
    NestsWithin r.parts fuel (.node a) →
    EndsAt mid (fun b after => Restored r.store after.store a b) raises (ofValueWithin fuel w) := by
  induction fuel with
  | zero => exact fun _ _ _ _ nests => nests.elim
  | succ fuel ih =>
    intro a w mid within formed present styled nests
    have held := within.old.store.nodeAt ⟨rfl,present.inside .node a rfl⟩
    cases formed with
    | @form _ b attrs list style rows children below attrsMade listMade styleMade made =>
      have run := ofValueWithin_dict fuel made.dictAt (formOf_has_tag ..)
        (listedChildren_formOf listMade (by rw [← children,List.length_map,List.length_map]))
        (attrs_formOf attrsMade)
      have step : ∀ row ∈ rows, ∀ after, mid.Extends after → EndsAt after
          (fun b last => Restored r.store last.store row.1 b) raises (ofValueWithin fuel row.2) := by
        intro row member after further
        have child : row.1 ∈ (r.store.nodeAt a).children := children ▸ List.mem_map_of_mem member
        have part : HasPart r.parts (.node a) (.node row.1) := List.mem_map_of_mem child
        exact ih (within.grew further.growth further.closed)
          ((below row member).grew further.growth.store) (within.old.parts_present present part)
          (fun b reached => styled b (.head part reached)) (nests _ part)
      have keeps (row : Address × Value) (b : Address) (early late : Runtime)
          (further : early.Extends late) (made : Restored r.store early.store row.1 b) :
          Restored r.store late.store row.1 b := made.grew further.growth.store
      refine .of_run run ?_
      rw [List.mapM_map]
      refine .bind (.mapM keeps within.closed step) fun _ after further ⟨pairs,of,same,restored⟩ => ?_
      subst same
      have grew := within.growth.store.trans further.growth.store
      have restyled : Restyled r.store after.store (r.store.nodeAt a).style
          ((formOf (fields r.store (r.store.nodeAt a) attrs list style)).field "style") := by
        rw [Dict.field_eq,formOf_style]
        cases full : r.store.isTrue (r.store.nodeAt a).style with
        | false => exact .none full
        | true =>
          obtain ⟨d,read,copied⟩ := styleMade full
          obtain ⟨entries,mapping⟩ := styled a .refl full
          rw [Store.dictOf,mapping] at read
          cases read
          exact .some full mapping (copied.grew further.growth.store)
      rw [formOf_text,Dict.field_eq,formOf_tag]
      generalize (formOf _).field "style" = restyle at restyled ⊢
      have alike : ({ r.store.nodeAt a with children := pairs.map (·.2), style := restyle } : Node).Alike
          after.store.identity { r.store.nodeAt a with children := pairs.map (·.2), style := restyle } :=
        ⟨held.tag.mono grew.identity,held.attrs.mono grew.identity,List.forall₂_same.mpr fun b member => by
          obtain ⟨pair,listed,rfl⟩ := List.mem_map.mp member
          exact ⟨rfl,(restored pair listed).inside⟩,restyled.present,held.text.mono grew.identity⟩
      refine (EndsAt.newNode further.closed alike).imp fun b last onward made => ?_
      refine .node (pairs.map fun pair => (pair.1.1,pair.2)) ?_ ?_
        (restyled.grew onward.growth.store) ?_
      · rw [← children,← of,List.map_map,List.map_map]
        rfl
      · intro row member
        obtain ⟨pair,listed,rfl⟩ := List.mem_map.mp member
        exact (restored pair listed).grew onward.growth.store
      · rw [List.map_map]
        exact made

end Reading

/-! The node that comes back. -/
section Content

variable {r later : Runtime} {old style : Value}

theorem isTrue_mapping {d : Dict} (mapping : s.mapping? v = some d) : s.isTrue v = !d.isEmpty := by
  cases v with
  | dict | frozen =>
    cases mapping
    rfl
  | _ => cases mapping

theorem Restyled.isTrue (restyled : Restyled s t old style) : t.isTrue style = s.isTrue old := by
  cases restyled with
  | none empty => exact empty.symm
  | some _ entries made =>
    rw [isTrue_mapping entries,Store.isTrue,made.dictAt]

theorem Restyled.dictOf (restyled : Restyled s t old style) (full : s.isTrue old = true) :
    t.dictOf style = s.dictOf old := by
  cases restyled with
  | none empty => exact absurd full (Bool.eq_false_iff.mp empty)
  | some _ entries made =>
    rw [Store.dictOf,Store.dictOf,entries,Store.mapping?,made.dictAt]

theorem fields_same {n : Node} {children : List Address} (restyled : Restyled s t n.style style)
    (length : children.length = n.children.length) (attrsAt listAt styleAt : Address) :
    fields t { n with children, style } attrsAt listAt styleAt = fields s n attrsAt listAt styleAt := by
  have empty : children.isEmpty = n.children.isEmpty := by
    rw [Bool.eq_iff_iff,List.isEmpty_iff_length_eq_zero,List.isEmpty_iff_length_eq_zero,length]
  simp only [fields,restyled.isTrue,empty]

/-- Lists whose members agree in something, one beside the other, are the two sides of a list of pairs. -/
theorem exists_pairs {α β γ : Type} {f : α → γ} {g : β → γ} {xs : List α} {ys : List β}
    (same : xs.map f = ys.map g) : ∃ rows : List (α × β),
      rows.map (·.1) = xs ∧ rows.map (·.2) = ys ∧ ∀ row ∈ rows, f row.1 = g row.2 := by
  have length : xs.length = ys.length := by simpa using congrArg List.length same
  rw [← List.forall₂_eq_eq_eq,List.forall₂_map_left_iff,List.forall₂_map_right_iff,
    List.forall₂_iff_zip] at same
  exact ⟨xs.zip ys,List.map_fst_zip (Nat.le_of_eq length),List.map_snd_zip (Nat.le_of_eq length.symm),
    fun row member => same.2 member⟩

/-- A form of the node that comes back is a form of the node it comes from. -/
theorem Formed.of_restored {mid : Store} (formed : Formed mid t b w) :
    ∀ {a : Address}, Restored s mid a b → Formed s t a w := by
  induction formed with
  | @form b c attrsAt listAt styleAt rows children below attrsMade listMade styleMade made ih =>
    intro a restored
    cases restored with
    | @node _ _ restyle pairs olds above restyled here =>
      have length : (pairs.map (·.2)).length = (s.nodeAt a).children.length := by
        rw [← olds,List.length_map,List.length_map]
      rw [Object.node.inj here.2] at children attrsMade listMade styleMade made
      rw [fields_same restyled length] at made
      obtain ⟨joined,rfl,rfl,shared⟩ := exists_pairs children.symm
      refine .form (joined.map fun row => (row.1.1,row.2.2)) ?_ ?_ attrsMade ?_ ?_ made
      · rw [← olds,List.map_map,List.map_map]
        rfl
      · intro row member
        obtain ⟨pair,listed,rfl⟩ := List.mem_map.mp member
        have restored := above _ (List.mem_map_of_mem listed)
        rw [shared pair listed] at restored
        exact ih _ (List.mem_map_of_mem listed) restored
      · intro some
        have made := listMade (by simpa [← olds] using some)
        rw [List.map_map] at made ⊢
        exact made
      · intro full
        obtain ⟨d,read,copied⟩ := styleMade (restyled.isTrue.trans full)
        exact ⟨d,(restyled.dictOf full).symm.trans read,copied⟩

theorem Restored.part (restored : Restored r.store later.store a b)
    (part : v ∈ later.parts (.node b)) :
    ∃ c d, v = .node d ∧ Value.node c ∈ r.parts (.node a) ∧ Restored r.store later.store c d := by
  cases restored with
  | node rows children below _ made =>
    obtain ⟨d,listed,rfl⟩ := List.mem_map.mp part
    rw [Object.node.inj made.2] at listed
    obtain ⟨row,member,rfl⟩ := List.mem_map.mp listed
    exact ⟨row.1,row.2,rfl,List.mem_map_of_mem (children ▸ List.mem_map_of_mem member),below row member⟩

theorem Restored.reached (restored : Restored r.store later.store a b)
    (reached : later.Converts (.node b) v) :
    ∃ c d, v = .node d ∧ r.Converts (.node a) (.node c) ∧ Restored r.store later.store c d := by
  induction reached with
  | refl => exact ⟨a,b,rfl,.refl,restored⟩
  | tail _ part ih =>
    obtain ⟨c,d,rfl,onward,restored⟩ := ih
    obtain ⟨e,f,rfl,further,below⟩ := restored.part part
    exact ⟨e,f,rfl,onward.tail further,below⟩

theorem Restored.unlooped (restored : Restored r.store later.store a b) :
    Unlooped later.parts (.node b) := by
  induction restored with
  | @node a b _ rows children below _ made ih =>
    refine .of_parts fun v part => ?_
    obtain ⟨d,listed,rfl⟩ := List.mem_map.mp part
    rw [Object.node.inj made.2] at listed
    obtain ⟨row,member,rfl⟩ := List.mem_map.mp listed
    exact ih row member

theorem Restored.styled (restored : Restored r.store later.store a b) :
    (later.store.nodeAt b).Styled later.store := by
  cases restored with
  | node _ _ _ restyled made =>
    have content := Object.node.inj made.2
    rw [content]
    intro full
    cases restyled with
    | none => cases full
    | some => exact ⟨_,rfl⟩

end Content

/-! Equality. -/
section Equality

variable {r later : Runtime} {R : Value → Value → Prop}

theorem sameEntries_of_forall₂ {d other : Dict} (once : (other.map (·.key)).Nodup)
    (same : List.Forall₂ (fun slot twin : Slot => slot.key = twin.key ∧ R slot.value twin.value) d other) :
    Store.SameEntries R d other where
  keys := Store.sameKeys_iff.mpr ⟨same.length_eq,fun slot member => by
    obtain ⟨twin,among,key,-⟩ := List.forall₂_beside same member
    rw [key]
    exact Dict.has_of_mem among⟩
  values slot member := by
    obtain ⟨twin,among,key,related⟩ := List.forall₂_beside same member
    rw [key,Dict.get_of_mem once among]
    exact related

theorem sameEntries_of_regular {d : Dict} (regular : d.Regular) (same : ∀ v, v.isNaN = false → R v v) :
    Store.SameEntries R d d :=
  sameEntries_of_forall₂ regular.once (List.forall₂_same.mpr fun slot member =>
    ⟨rfl,same _ (regular.numbers slot member)⟩)

theorem equalWithin_entries {d : Dict} {fuel : Nat} (left : t.mapping? v = some d)
    (right : t.mapping? w = some d) (regular : d.Regular) : t.equalWithin (fuel + 2) v w = .ok true := by
  have mapping {v : Value} (entries : t.mapping? v = some d) : v.isMapping = true := by
    cases v <;> first | rfl | cases entries
  refine Store.equalWithin_true_iff.mpr (.mapping (mapping left) (mapping right) ?_)
  rw [Store.entries,Store.entries,left,right]
  exact sameEntries_of_regular regular fun v number => Store.equalWithin_self number fuel

/-- A node equals the one it comes from where no style is empty. -/
theorem Restored.equal (within : r.Extends later) {a b : Address} (restored : Restored r.store later.store a b) :
    ∀ {fuel : Nat}, (Value.node a).Present r.store → NestsWithin r.parts fuel (.node a) →
      (∀ c, r.Converts (.node a) (.node c) → (r.store.nodeAt c).Regular r.store ∧
        ((r.store.nodeAt c).style = .null ∨ r.store.isTrue (r.store.nodeAt c).style = true)) →
      later.store.equalWithin (fuel + 2) (.node b) (.node a) = .ok true := by
  induction restored with
  | @node a b style rows children below restyled made ih =>
    intro fuel present nests every
    have inside := present.inside .node a rfl
    have content : later.store.nodeAt a = r.store.nodeAt a :=
      Object.node.inj (within.growth.store .node a inside).2
    obtain ⟨regular,filled⟩ := every a .refl
    cases fuel with
    | zero => exact nests.elim
    | succ fuel =>
      have restoredAt := Object.node.inj made.2
      refine Store.equalWithin_true_iff.mpr (.node ?_ ?_ ?_ ?_ ?_) <;>
        rw [content,show later.store.nodeAt b = _ from restoredAt]
      · exact Store.equalWithin_self regular.tag _
      · exact sameEntries_of_regular regular.attrs fun v number => Store.equalWithin_self number _
      · rw [← children,List.map_map,List.map_map]
        refine List.forall₂_map_left_iff.mpr (List.forall₂_map_right_iff.mpr ?_)
        refine List.forall₂_same.mpr fun row member => ?_
        have part : HasPart r.parts (.node a) (.node row.1) :=
          List.mem_map_of_mem (children ▸ List.mem_map_of_mem member)
        exact ih row member (within.old.parts_present present part) (nests _ part)
          fun c reached => every c (.head part reached)
      · obtain null | full := filled
        · rw [null] at restyled ⊢
          cases restyled with
          | none => exact Store.equalWithin_self rfl _
          | some full => cases full
        · cases restyled with
          | none empty => exact absurd full (Bool.eq_false_iff.mp empty)
          | @some d _ _ entries copied =>
            have style := (within.old.store.nodeAt ⟨rfl,inside⟩).style
            have regular := regular.style
            rw [Store.entries,entries] at regular
            exact equalWithin_entries (congrArg some copied.dictAt) ((within.mapping? style).trans entries)
              regular
      · exact Store.equalWithin_self regular.text _

/-! Forms of one node. -/

/-- What comparing the form of a node goes down into: the list of children and their forms. -/
def formParts (s : Store) : Value → List Value
  | .dict a => ((s.dictAt a).field? "list").toList
  | .list a => s.listAt a
  | _ => []

theorem formParts_form {n : Node} {attrs list style : Address}
    (made : t.Has .dict b (.entries (formOf (fields s n attrs list style)))) :
    formParts t (.dict b) = if n.children.isEmpty = false then [.list list] else [] := by
  rw [formParts,made.dictAt,formOf_list]
  split <;> rfl

theorem Formed.unlooped (formed : Formed s t a v) : Unlooped (formParts t) v := by
  induction formed with
  | @form a b attrs list style rows children below _ listMade _ made ih =>
    refine .of_parts fun u part => ?_
    rw [formParts_form made] at part
    split at part
    · next some =>
      obtain rfl := List.mem_singleton.mp part
      refine .of_parts fun form inner => ?_
      have listed : form ∈ t.listAt list := inner
      rw [(listMade some).listAt] at listed
      obtain ⟨row,member,rfl⟩ := List.mem_map.mp listed
      exact ih row member
    · cases part

theorem Formed.nestsWithin (formed : Formed s t a v) {fuel : Nat} (enough : t.size < fuel) :
    NestsWithin (formParts t) fuel v := by
  have length := t.holders_length
  refine (formed.unlooped.nestsWithin_succ t.holders fun u _ => ?_).mono (by omega)
  cases u with
  | dict a =>
    obtain inside | outside := Nat.lt_or_ge a (t.sizeOf .dict)
    · exact .inl (Store.mem_valuesOn (by simp) inside)
    · exact .inr (by rw [formParts,Store.dictAt_outside outside]; rfl)
  | list a =>
    obtain inside | outside := Nat.lt_or_ge a (t.sizeOf .list)
    · exact .inl (Store.mem_valuesOn (by simp) inside)
    · exact .inr (by rw [formParts,Store.listAt,Table.get?_outside _ outside]; rfl)
  | _ => exact .inr rfl

theorem given_related {absent : Bool} {name : String} (related : absent = false → R v w) :
    List.Forall₂ (fun x y : String × Value => x.1 = y.1 ∧ R x.2 y.2) (given absent name v)
      (given absent name w) := by
  cases absent with
  | true => exact .nil
  | false => exact .cons ⟨rfl,related rfl⟩ .nil

/-- The entries of two forms of a node, one beside the other. -/
theorem sameEntries_formOf {n : Node} {attrs list style attrs' list' style' : Address} (tag : R n.tag n.tag)
    (attrsSame : n.attrs.isEmpty = false → R (.dict attrs) (.dict attrs'))
    (listSame : n.children.isEmpty = false → R (.list list) (.list list'))
    (styleSame : s.isTrue n.style = true → R (.dict style) (.dict style')) (text : R n.text n.text) :
    Store.SameEntries R (formOf (fields s n attrs list style)) (formOf (fields s n attrs' list' style')) := by
  have same : List.Forall₂ (fun x y : String × Value => x.1 = y.1 ∧ R x.2 y.2)
      (fields s n attrs list style) (fields s n attrs' list' style') := by
    unfold fields
    exact List.rel_append (List.rel_append (List.rel_append (.cons ⟨rfl,tag⟩ (given_related attrsSame))
      (given_related listSame)) (given_related fun some => styleSame (by simpa using some)))
      (given_related fun _ => text)
  exact sameEntries_of_forall₂ (formOf_once ..)
    (List.rel_map (fun x y related => ⟨congrArg Key.text related.1,related.2⟩) same)

/-- Two forms of one node are equal. -/
theorem Formed.equal (formed : Formed r.store t a v) :
    ∀ {w : Value} {fuel : Nat}, Formed r.store t a w → NestsWithin (formParts t) fuel v →
      (∀ c, r.Converts (.node a) (.node c) → (r.store.nodeAt c).Styled r.store ∧
        (r.store.nodeAt c).Regular r.store) → t.equalWithin (fuel + 2) v w = .ok true := by
  induction formed with
  | @form a b attrs list style rows children below attrsMade listMade styleMade made ih =>
    intro w fuel other nests every
    obtain ⟨styled,regular⟩ := every a .refl
    cases fuel with
    | zero => exact nests.elim
    | succ fuel =>
      cases other with
      | @form _ c attrs' list' style' rows' children' below' attrsMade' listMade' styleMade' made' =>
        refine Store.equalWithin_true_iff.mpr (.mapping rfl rfl ?_)
        rw [Store.entries,Store.entries,Store.mapping?,Store.mapping?,made.dictAt,made'.dictAt]
        refine sameEntries_formOf ?_ ?_ ?_ ?_ ?_
        · exact Store.equalWithin_self regular.tag _
        · intro some
          exact equalWithin_entries (congrArg Option.some (attrsMade some).dictAt)
            (congrArg Option.some (attrsMade' some).dictAt) regular.attrs
        · intro some
          have nests := nests (.list list) (by
            rw [formParts_form made,if_pos some]
            exact List.mem_singleton_self _)
          cases fuel with
          | zero => exact nests.elim
          | succ fuel =>
            refine Store.equalWithin_true_iff.mpr (.list ?_)
            have inner : formParts t (.list list) = rows.map (·.2) := (listMade some).listAt
            rw [(listMade some).listAt,(listMade' some).listAt]
            obtain ⟨joined,rfl,rfl,shared⟩ := exists_pairs (children.trans children'.symm)
            rw [List.map_map,List.map_map]
            refine List.forall₂_map_left_iff.mpr (List.forall₂_map_right_iff.mpr ?_)
            refine List.forall₂_same.mpr fun pair member => ?_
            have listed := List.mem_map_of_mem (f := Prod.fst) member
            have part : HasPart r.parts (.node a) (.node pair.1.1) :=
              List.mem_map_of_mem (children ▸ List.mem_map_of_mem listed)
            have other := below' _ (List.mem_map_of_mem member)
            rw [← shared pair member] at other
            refine ih _ listed other (nests _ ?_) fun c reached => every c (.head part reached)
            rw [inner]
            exact List.mem_map_of_mem listed
        · intro full
          obtain ⟨d,read,copied⟩ := styleMade full
          obtain ⟨d',read',copied'⟩ := styleMade' full
          obtain ⟨entries,mapping⟩ := styled full
          have regular := regular.style
          rw [Store.dictOf,mapping] at read read'
          rw [Store.entries,mapping] at regular
          cases read
          cases read'
          exact equalWithin_entries (congrArg some copied.dictAt) (congrArg some copied'.dictAt) regular
        · exact Store.equalWithin_self regular.text _

end Equality

theorem formed_of_hasForm {r : Runtime} (shown : r.HasForm t (.node a) w) : Formed r.store t a w := by
  cases shown with
  | node formed => exact formed
  | leaf shape | through shape | items _ shape | entries _ shape | blob shape => cases shape

/-- A node in which nothing lies within itself has a form. -/
theorem toDict_forms {r : Runtime} {a : Address} (closed : r.Closed)
    (present : (Value.node a).Present r.store) (finite : Unlooped r.parts (.node a))
    (styled : ∀ c, r.Converts (.node a) (.node c) → (r.store.nodeAt c).Styled r.store) :
    ∃ w after, toDict a r = (.done w,after) ∧ r.Extends after ∧ Formed r.store after.store a w := by
  have ends : EndsAt r (r.FormedAs (.node a)) (fun _ => False) (toDict a) :=
    toDict_ends closed.extends present styled (.inl finite)
  obtain ⟨w,after,ran,within,shown,-⟩ | ⟨_,_,_,impossible⟩ := ends
  · exact ⟨w,after,ran,within,formed_of_hasForm shown⟩
  · exact impossible.elim

/-- Its form is read as a node with its content. -/
theorem ofValue_restores {r mid : Runtime} (within : r.Extends mid) {a : Address} {w : Value}
    (formed : Formed r.store mid.store a w) (present : (Value.node a).Present r.store)
    (finite : Unlooped r.parts (.node a))
    (styled : ∀ c, r.Converts (.node a) (.node c) → (r.store.nodeAt c).Styled r.store) :
    ∃ b after, ofValue w mid = (.done b,after) ∧ mid.Extends after ∧
      Restored r.store after.store a b := by
  have enough : r.store.nodes.size ≤ mid.store.size + 2 := by
    have grew : r.store.nodes.size ≤ mid.store.nodes.size := within.growth.store.sizeOf_le .node
    unfold Store.size
    omega
  have ends : EndsAt mid (fun b after => Restored r.store after.store a b) (fun _ => False) (ofValue w) :=
    .of_store (ofValueWithin_ends within formed present styled
      ((nestsWithin_nodes within.old present finite).mono enough))
  obtain ⟨b,after,ran,further,restored⟩ | ⟨_,_,_,impossible⟩ := ends
  · exact ⟨b,after,ran,further,restored⟩
  · exact impossible.elim

/-- A page with a styled node around a text that is empty. -/
def illustrated : Runtime :=
  let style := (Page.initial.store.newDict [⟨.text "color",.str "color",.str "red"⟩]).2
  let text := (style.newNode ⟨.str "#text",[],[],.null,.str ""⟩).2
  let node := (text.newNode ⟨.str "div",[⟨.text "id",.str "id",.int 1⟩],[0],.dict 2,.null⟩).2
  { Page.initial with store := node }

theorem illustrated_closed : illustrated.Closed := by
  have style := Runtime.Closed.initial.newDict (d := [⟨.text "color",.str "color",.str "red"⟩])
    (.cons ⟨Key.text_alike _ _,.str _,.str _⟩ .nil)
  have text := style.newNode (n := ⟨.str "#text",[],[],.null,.str ""⟩) ⟨.str _,.nil,.nil,.null,.str _⟩
  exact text.newNode (n := ⟨.str "div",[⟨.text "id",.str "id",.int 1⟩],[0],.dict 2,.null⟩)
    ⟨.str _,.cons ⟨Key.text_alike _ _,.str _,.int _⟩ .nil,.cons ⟨rfl,by decide⟩ .nil,
      .dict ⟨rfl,by decide⟩,.null⟩

end Node
end PageRuntime
