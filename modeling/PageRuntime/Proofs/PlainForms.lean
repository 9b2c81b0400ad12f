import PageRuntime.Proofs.PlainShapes

/-! Plain forms. The form of a value is made of the forms of its parts, so a value that has one does not
contain itself and holds no reference that cannot be read. Forms of values whose nodes and blobs hold
plain trees are plain trees, and a plain tree has a form like itself. -/
namespace PageRuntime

open Plain (Shape)

namespace Node

/-- A field that is left out where there is nothing to tell. -/
def given (absent : Bool) (name : String) (v : Value) : List (String × Value) :=
  if absent then [] else [(name,v)]

def fields (s : Store) (n : Node) (attrs list style : Address) : List (String × Value) :=
  ("tag",n.tag) :: given n.attrs.isEmpty "attrs" (.dict attrs) ++
    given n.children.isEmpty "list" (.list list) ++
    given (!s.isTrue n.style) "style" (.dict style) ++ given (n.text == .null) "text" n.text

/-- The dictionary form of a node of one store, in another. -/
inductive Formed (s t : Store) : Address → Value → Prop
  | form {a b attrs list style : Address} (rows : List (Address × Value))
    (children : rows.map (·.1) = (s.nodeAt a).children)
    (below : ∀ row ∈ rows, Formed s t row.1 row.2)
    (attrsMade : (s.nodeAt a).attrs.isEmpty = false → t.Has .dict attrs (.entries (s.nodeAt a).attrs))
    (listMade : (s.nodeAt a).children.isEmpty = false → t.Has .list list (.items (rows.map (·.2))))
    (styleMade : s.isTrue (s.nodeAt a).style = true →
      ∃ d, s.dictOf (s.nodeAt a).style = .ok d ∧ t.Has .dict style (.entries d))
    (made : t.Has .dict b (.entries (formOf (fields s (s.nodeAt a) attrs list style)))) :
    Formed s t a (.dict b)

theorem Formed.grew {s t after : Store} {a : Address} {w : Value} (formed : Formed s t a w)
    (grew : t.Grew after) : Formed s after a w := by
  induction formed with
  | form rows children _ attrsMade listMade styleMade made ih =>
    exact .form rows children ih (fun some => (attrsMade some).grew grew)
      (fun some => (listMade some).grew grew)
      (fun some => (styleMade some).imp fun d held => ⟨held.1,held.2.grew grew⟩) (made.grew grew)

end Node

/-- The second value, in the store, is the plain form that the first has in the runtime. Entries are
named as their keys were displayed when the entries were made. -/
inductive Runtime.HasForm (r : Runtime) (t : Store) : Value → Value → Prop
  | leaf {v w : Value} (shape : r.shape v = .leaf w) : HasForm r t v w
  | through {v inner w : Value} (shape : r.shape v = .through inner) (below : HasForm r t inner w) :
    HasForm r t v w
  | items {v : Value} {a : Address} (rows : List (Value × Value))
    (shape : r.shape v = .items (rows.map (·.1))) (below : ∀ row ∈ rows, HasForm r t row.1 row.2)
    (made : t.Has .list a (.items (rows.map (·.2)))) : HasForm r t v (.list a)
  | entries {v : Value} {a : Address} (rows : List (Slot × String × Value))
    (shape : r.shape v = .entries (rows.map (·.1)))
    (named : ∀ row ∈ rows, ∃ mid, r.Extends mid ∧ row.2.1 = mid.store.display row.1.label)
    (below : ∀ row ∈ rows, HasForm r t row.1.value row.2.2)
    (made : t.Has .dict a (.entries
      ((rows.map (·.2)).foldl (fun d (name,value) => Dict.put d name value) []))) :
    HasForm r t v (.dict a)
  | blob {v : Value} {a : Address} {b : Blob} (shape : r.shape v = .blob b)
    (made : t.Has .dict a (.entries (Plain.blobForm b))) : HasForm r t v (.dict a)
  | node {a : Address} {w : Value} (formed : Node.Formed r.store t a w) : HasForm r t (.node a) w

namespace Runtime

variable {r : Runtime} {t later : Store} {v w : Value}

theorem HasForm.grew (shown : r.HasForm t v w) (grew : t.Grew later) : r.HasForm later v w := by
  induction shown with
  | leaf shape => exact .leaf shape
  | through shape _ ih => exact .through shape ih
  | items rows shape _ made ih => exact .items rows shape ih (made.grew grew)
  | entries rows shape named _ made ih => exact .entries rows shape named ih (made.grew grew)
  | blob shape made => exact .blob shape (made.grew grew)
  | node formed => exact .node (formed.grew grew)


/-- A form as the conversion of a value yields it. -/
def FormedAs (r : Runtime) (v w : Value) (after : Runtime) : Prop :=
  r.HasForm after.store v w ∧ w.Present after.store

theorem FormedAs.keeps {r : Runtime} (v w : Value) (early late : Runtime) (within : early.Extends late)
    (yields : r.FormedAs v w early) : r.FormedAs v w late :=
  ⟨yields.1.grew within.growth.store,yields.2.grew within.growth.store⟩

/-! What has a form can be converted. -/

/-- Nothing that converting the value comes to contains itself, and every reference it comes to can be
read. -/
structure Convertible (r : Runtime) (v : Value) : Prop where
  unlooped : Unlooped r.parts v
  readable : ∀ u, r.Converts v u → ∀ fault, r.shape u ≠ .unreadable fault

theorem Convertible.of_parts (readable : ∀ fault, r.shape v ≠ .unreadable fault)
    (below : ∀ u ∈ r.parts v, r.Convertible u) : r.Convertible v where
  unlooped := .of_parts fun u part => (below u part).unlooped
  readable u reached := by
    obtain rfl | ⟨x,part,onward⟩ := Relation.ReflTransGen.cases_head reached
    · exact readable
    · exact (below x part).readable u onward

theorem convertible_of_formed {a : Address} (formed : Node.Formed r.store t a w) :
    r.Convertible (.node a) := by
  induction formed with
  | @form a _ _ _ _ rows children _ _ _ _ _ ih =>
    refine .of_parts nofun fun u part => ?_
    have part : u ∈ (r.store.nodeAt a).children.map Value.node := part
    rw [← children,List.map_map] at part
    obtain ⟨row,member,rfl⟩ := List.mem_map.mp part
    exact ih row member

theorem HasForm.convertible (shown : r.HasForm t v w) : r.Convertible v := by
  induction shown with
  | leaf shape => exact .of_parts (by rw [shape]; nofun) (by rw [parts,shape]; nofun)
  | through shape _ ih =>
    refine .of_parts (by rw [shape]; nofun) fun u part => ?_
    rw [parts,shape] at part
    obtain rfl := List.mem_singleton.mp part
    exact ih
  | items rows shape _ _ ih =>
    refine .of_parts (by rw [shape]; nofun) fun u part => ?_
    rw [parts,shape] at part
    obtain ⟨row,member,rfl⟩ := List.mem_map.mp part
    exact ih row member
  | entries rows shape _ _ _ ih =>
    refine .of_parts (by rw [shape]; nofun) fun u part => ?_
    rw [parts,shape] at part
    obtain ⟨slot,held,rfl⟩ := List.mem_map.mp part
    obtain ⟨row,member,rfl⟩ := List.mem_map.mp held
    exact ih row member
  | blob shape => exact .of_parts (by rw [shape]; nofun) (by rw [parts,shape]; nofun)
  | node formed => exact convertible_of_formed formed

end Runtime

/-! Entries written one after another. -/

namespace Dict

variable {d : Dict} {name : String} {v : Value}

theorem insert_of_new {key : Key} (new : key ∉ d.map (·.key)) (label v : Value) :
    d.insert key label v = d ++ [⟨key,label,v⟩] := by
  induction d with
  | nil => rfl
  | cons slot d ih =>
    rw [List.map_cons,List.mem_cons,not_or] at new
    rw [insert,if_neg (Ne.symm new.1),ih new.2]
    rfl

theorem insert_keys {key : Key} (held : key ∈ d.map (·.key)) (label v : Value) :
    (d.insert key label v).map (·.key) = d.map (·.key) := by
  induction d with
  | nil => cases held
  | cons slot d ih =>
    unfold insert
    split
    · rfl
    · next other =>
      rw [List.map_cons,List.mem_cons] at held
      rw [List.map_cons,List.map_cons,ih (held.resolve_left (Ne.symm other))]

theorem mem_insert {slot : Slot} {key : Key} {label : Value} (member : slot ∈ d.insert key label v) :
    slot = ⟨key,label,v⟩ ∨ ∃ old ∈ d, slot.key = old.key ∧ slot.label = old.label ∧
      (slot.value = old.value ∨ slot.value = v) := by
  induction d with
  | nil => exact .inl (List.mem_singleton.mp member)
  | cons first d ih =>
    unfold insert at member
    split at member
    · obtain rfl | member := List.mem_cons.mp member
      · exact .inr ⟨first,List.mem_cons_self,rfl,rfl,.inr rfl⟩
      · exact .inr ⟨slot,List.mem_cons_of_mem _ member,rfl,rfl,.inl rfl⟩
    · obtain rfl | member := List.mem_cons.mp member
      · exact .inr ⟨slot,List.mem_cons_self,rfl,rfl,.inl rfl⟩
      · obtain here | ⟨old,held,same⟩ := ih member
        · exact .inl here
        · exact .inr ⟨old,List.mem_cons_of_mem _ held,same⟩

theorem nodup_insert (once : (d.map (·.key)).Nodup) (key : Key) (label v : Value) :
    ((d.insert key label v).map (·.key)).Nodup := by
  by_cases held : key ∈ d.map (·.key)
  · rw [insert_keys held]
    exact once
  · rw [insert_of_new held,List.map_append,List.map_singleton]
    refine List.nodup_append.mpr ⟨once,List.nodup_singleton _,?_⟩
    rintro key here _ there rfl
    obtain rfl := List.mem_singleton.mp there
    exact held here

theorem Textual.put (textual : d.Textual) (name : String) (v : Value) : (d.put name v).Textual where
  texts slot member := by
    obtain rfl | ⟨old,held,key,label,-⟩ := mem_insert member
    · exact ⟨name,rfl,rfl⟩
    · rw [key,label]
      exact textual.texts old held
  once := nodup_insert textual.once _ _ _

/-- A dictionary of trees under texts. -/
structure Trees (s : Store) (d : Dict) : Prop where
  textual : d.Textual
  values : ∀ slot ∈ d, s.Tree slot.value

theorem Trees.nil (s : Store) : Trees s [] where
  textual := ⟨fun _ member => (List.not_mem_nil member).elim,.nil⟩
  values _ member := (List.not_mem_nil member).elim

theorem Trees.put {s : Store} (trees : d.Trees s) (name : String) (tree : s.Tree v) :
    (d.put name v).Trees s where
  textual := trees.textual.put name v
  values slot member := by
    obtain rfl | ⟨old,held,-,-,same | same⟩ := mem_insert member
    · exact tree
    · rw [same]
      exact trees.values old held
    · rwa [same]

theorem Trees.foldl_put {s : Store} {fields : List (String × Value)} {d : Dict} (trees : d.Trees s)
    (values : ∀ field ∈ fields, s.Tree field.2) :
    (fields.foldl (fun d (name,value) => Dict.put d name value) d).Trees s := by
  induction fields generalizing d with
  | nil => exact trees
  | cons field fields ih =>
    exact ih (trees.put field.1 (values field List.mem_cons_self))
      fun other member => values other (List.mem_cons_of_mem _ member)

/-- Under different names they come in the order in which they are written. -/
theorem foldl_put_new {fields : List (String × Value)} {d : Dict}
    (once : (d.map (·.key) ++ fields.map fun field => Key.text field.1).Nodup) :
    fields.foldl (fun d (name,value) => Dict.put d name value) d =
      d ++ fields.map fun field => ⟨.text field.1,.str field.1,field.2⟩ := by
  induction fields generalizing d with
  | nil => simp
  | cons field fields ih =>
    have new : Key.text field.1 ∉ d.map (·.key) := fun held =>
      (List.nodup_append.mp once).2.2 _ held _ List.mem_cons_self rfl
    have written : d.put field.1 field.2 = d ++ [⟨.text field.1,.str field.1,field.2⟩] :=
      insert_of_new new _ _
    show fields.foldl _ (d.put field.1 field.2) = _
    rw [written,ih (by simpa using once)]
    simp

end Dict

/-! Forms are trees where everything that they take over as it is, is one. -/

structure Node.Bare (s : Store) (n : Node) : Prop where
  tag : s.Tree n.tag
  attrs : n.attrs.Trees s
  style : s.isTrue n.style = true → ∃ d, s.mapping? n.style = some d ∧ d.Trees s
  text : s.Tree n.text

def Plain.Shape.Bare (s : Store) : Shape → Prop
  | .leaf form => form.kind ∈ Kind.scalars
  | .blob b => s.Tree b.mediaType
  | .node n => n.Bare s
  | _ => True

theorem Dict.Trees.grew {s after : Store} {d : Dict} (trees : d.Trees s) (grew : s.Grew after) :
    d.Trees after := ⟨trees.textual,fun slot member => (trees.values slot member).grew grew⟩

theorem Plain.blobForm_trees {s : Store} {b : Blob} (media : s.Tree b.mediaType) :
    (blobForm b).Trees s :=
  ((Dict.Trees.nil s).put "mimetype" media).put "data" (.leaf (by simp [Value.kind,Kind.scalars]))

namespace Node

variable {absent : Bool} {name : String} {v : Value}

theorem mem_given {field : String × Value} (member : field ∈ given absent name v) :
    absent = false ∧ field = (name,v) := by
  unfold given at member
  split at member
  · cases member
  · next present => exact ⟨Bool.eq_false_iff.mpr present,List.mem_singleton.mp member⟩

theorem given_names (absent : Bool) (name : String) (v : Value) :
    ((given absent name v).map (·.1)).Sublist [name] := by
  unfold given
  split
  · exact List.nil_sublist _
  · exact .refl _

theorem mem_fields {s : Store} {n : Node} {attrs list style : Address} {field : String × Value}
    (member : field ∈ fields s n attrs list style) : field = ("tag",n.tag) ∨
      (n.attrs.isEmpty = false ∧ field = ("attrs",.dict attrs)) ∨
      (n.children.isEmpty = false ∧ field = ("list",.list list)) ∨
      (s.isTrue n.style = true ∧ field = ("style",.dict style)) ∨ field = ("text",n.text) := by
  simp only [fields,List.cons_append,List.mem_cons,List.mem_append] at member
  obtain here | ((here | here) | here) | here := member
  · exact .inl here
  · exact .inr (.inl (mem_given here))
  · exact .inr (.inr (.inl (mem_given here)))
  · obtain ⟨styled,here⟩ := mem_given here
    exact .inr (.inr (.inr (.inl ⟨by simpa using styled,here⟩)))
  · exact .inr (.inr (.inr (.inr (mem_given here).2)))

theorem fields_names (s : Store) (n : Node) (attrs list style : Address) :
    ((fields s n attrs list style).map (·.1)).Sublist ["tag","attrs","list","style","text"] := by
  unfold fields
  rw [List.cons_append,List.cons_append,List.cons_append,List.map_cons,List.map_append,
    List.map_append,List.map_append]
  exact ((((given_names _ _ _).append (given_names _ _ _)).append (given_names _ _ _)).append
    (given_names _ _ _)).cons_cons "tag"

/-- No field comes twice. -/
theorem formOf_once (s : Store) (n : Node) (attrs list style : Address) :
    ((formOf (fields s n attrs list style)).map (·.key)).Nodup := by
  have keys : (formOf (fields s n attrs list style)).map (·.key) =
      ((fields s n attrs list style).map (·.1)).map Key.text := by
    simp [formOf]
  rw [keys]
  exact ((fields_names s n attrs list style).nodup (by decide)).map fun x y same => by
    simpa [Key.text] using same

theorem formOf_trees {s t : Store} {n : Node} {attrs list style : Address}
    (values : ∀ field ∈ fields s n attrs list style, t.Tree field.2) :
    (formOf (fields s n attrs list style)).Trees t where
  textual := by
    refine ⟨fun slot member => ?_,formOf_once s n attrs list style⟩
    obtain ⟨field,-,rfl⟩ := List.mem_map.mp member
    exact ⟨field.1,rfl,rfl⟩
  values slot member := by
    obtain ⟨field,held,rfl⟩ := List.mem_map.mp member
    exact values field held

theorem Formed.tree {r : Runtime} {t : Store} (grew : r.store.Grew t) {a : Address} {w : Value}
    (formed : Formed r.store t a w)
    (bare : ∀ u, r.Converts (.node a) u → (r.shape u).Bare r.store) : t.Tree w := by
  induction formed with
  | @form a b attrs list style rows children below attrsMade listMade styleMade made ih =>
    have here : (r.store.nodeAt a).Bare r.store := bare (.node a) .refl
    have forms : ∀ w ∈ rows.map (·.2), t.Tree w := by
      intro w member
      obtain ⟨row,held,rfl⟩ := List.mem_map.mp member
      refine ih row held fun u reached => bare u (.head ?_ reached)
      have child : row.1 ∈ (r.store.nodeAt a).children := children ▸ List.mem_map_of_mem held
      exact List.mem_map_of_mem child
    have trees : (formOf (fields r.store (r.store.nodeAt a) attrs list style)).Trees t := by
      refine formOf_trees fun field member => ?_
      obtain rfl | ⟨some,rfl⟩ | ⟨some,rfl⟩ | ⟨some,rfl⟩ | rfl := mem_fields member
      · exact here.tag.grew grew
      · have kept := here.attrs.grew grew
        exact .dict (attrsMade some) kept.textual kept.values
      · exact .list (listMade some) forms
      · obtain ⟨d,same,styled⟩ := here.style some
        obtain ⟨copied,read,made⟩ := styleMade some
        have kept := styled.grew grew
        unfold Store.dictOf at read
        rw [same] at read
        cases read
        exact .dict made kept.textual kept.values
      · exact here.text.grew grew
    exact .dict made trees.textual trees.values

end Node

namespace Runtime

variable {r : Runtime} {t : Store} {v w : Value}

theorem HasForm.tree (shown : r.HasForm t v w) (grew : r.store.Grew t)
    (bare : ∀ u, r.Converts v u → (r.shape u).Bare r.store) : t.Tree w := by
  induction shown with
  | @leaf v w shape =>
    have scalar := bare v .refl
    rw [shape] at scalar
    exact .leaf scalar
  | @through v inner w shape _ ih =>
    exact ih fun u reached => bare u (.head (by rw [HasPart,parts,shape]; exact List.mem_cons_self) reached)
  | @items v a rows shape _ made ih =>
    refine .list made fun w member => ?_
    obtain ⟨row,held,rfl⟩ := List.mem_map.mp member
    refine ih row held fun u reached => bare u (.head ?_ reached)
    rw [HasPart,parts,shape]
    exact List.mem_map_of_mem held
  | @entries v a rows shape _ _ made ih =>
    have values : ∀ field ∈ rows.map (·.2), t.Tree field.2 := by
      intro field member
      obtain ⟨row,held,rfl⟩ := List.mem_map.mp member
      refine ih row held fun u reached => bare u (.head ?_ reached)
      rw [HasPart,parts,shape]
      exact List.mem_map_of_mem (List.mem_map_of_mem held)
    have trees := (Dict.Trees.nil t).foldl_put values
    exact .dict made trees.textual trees.values
  | @blob v a b shape made =>
    have media := bare v .refl
    rw [shape] at media
    have trees := Plain.blobForm_trees (media.grew grew)
    exact .dict made trees.textual trees.values
  | node formed => exact formed.tree grew bare

/-! A plain tree has a form like itself. -/

theorem shape_of_scalar (r : Runtime) (scalar : v.kind ∈ Kind.scalars) : r.shape v = .leaf v := by
  cases v <;> first | rfl | simp [Value.kind,Kind.scalars] at scalar

theorem HasForm.same_of_tree (grew : r.store.Grew t) (tree : r.store.Tree v) (shown : r.HasForm t v w) :
    t.SameTree v w := by
  induction tree generalizing w with
  | leaf scalar =>
    have shape := r.shape_of_scalar scalar
    cases shown with
    | leaf other =>
      rw [shape] at other
      cases other
      exact .leaf scalar
    | through other | items _ other | entries _ other | blob other => rw [shape] at other; cases other
    | node => simp [Value.kind,Kind.scalars] at scalar
  | @list a items has trees ih =>
    cases shown with
    | @items _ b rows shape below made =>
      have content : r.store.listAt a = rows.map (·.1) := Shape.items.inj shape
      have here : t.listAt a = rows.map (·.1) := (has.grew grew).listAt.trans (has.listAt.symm.trans content)
      refine .list (by rw [here,made.listAt,List.length_map,List.length_map]) fun pair member => ?_
      rw [here,made.listAt,List.zip_map'] at member
      obtain ⟨row,held,rfl⟩ := List.mem_map.mp member
      refine ih row.1 ?_ (below row held)
      rw [← has.listAt,content]
      exact List.mem_map_of_mem held
    | leaf other | through other | entries _ other | blob other => cases other
  | @dict a d has textual trees ih =>
    cases shown with
    | @entries _ b rows shape named below made =>
      have content : r.store.dictAt a = rows.map (·.1) := Shape.entries.inj shape
      rw [has.dictAt] at content
      subst content
      have here : t.dictAt a = rows.map (·.1) := (has.grew grew).dictAt
      have spelled (row : Slot × String × Value) (held : row ∈ rows) :
          row.1.key = .text row.2.1 ∧ row.1.label = .str row.2.1 := by
        obtain ⟨name,key,label⟩ := textual.texts row.1 (List.mem_map_of_mem held)
        obtain ⟨mid,-,same⟩ := named row held
        rw [label] at same
        rw [same]
        exact ⟨key,label⟩
      have once : ((rows.map (·.2)).map fun field => Key.text field.1).Nodup := by
        have same : ((rows.map (·.2)).map fun field => Key.text field.1) =
            (rows.map (·.1)).map (·.key) := by
          rw [List.map_map,List.map_map]
          exact List.map_congr_left fun row held => (spelled row held).1.symm
        exact same ▸ textual.once
      have there : t.dictAt b = rows.map fun row => ⟨row.1.key,row.1.label,row.2.2⟩ := by
        rw [made.dictAt,Dict.foldl_put_new (d := []) once,List.nil_append,List.map_map]
        refine List.map_congr_left fun row held => ?_
        rw [(spelled row held).1,(spelled row held).2]
        rfl
      refine .dict (by rw [here,there,List.map_map,List.map_map]; rfl) fun pair member => ?_
      rw [here,there,List.zip_map'] at member
      obtain ⟨row,held,rfl⟩ := List.mem_map.mp member
      exact ih row.1 (List.mem_map_of_mem held) (below row held)
    | leaf other | through other | items _ other | blob other => cases other

end Runtime
end PageRuntime
