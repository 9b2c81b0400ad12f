import PageRuntime.Proofs.NodeForms

/-! Conversion to plain values. A value is converted exactly if nothing that its conversion comes to
contains itself and every reference it comes to can be read. On the way no container is met twice, so
a way longer than the store is large leads through a reference or view that leads back to itself. -/
namespace PageRuntime

/-- Why a value has no plain form. -/
inductive Runtime.Hinders (r : Runtime) (v : Value) : Fault → Prop
  | cyclic {u : Value} (reached : r.Converts v u) (container : u.kind ∈ [.sequence,.mapping])
    (loop : Relation.TransGen (HasPart r.parts) u u) : Hinders r v .cyclicPlain
  | endless {u : Value} (reached : r.Converts v u) (other : u.kind ∈ [.reference,.scope,.node])
    (loop : Relation.TransGen (HasPart r.parts) u u) :
    Hinders r v (.misuse .recursion "maximum recursion depth exceeded")
  | unreadable {u : Value} {fault : Fault} (reached : r.Converts v u)
    (shape : r.shape u = .unreadable fault) : Hinders r v fault

theorem Runtime.Hinders.not_convertible {r : Runtime} {v : Value} {fault : Fault}
    (hinders : r.Hinders v fault) : ¬ r.Convertible v := by
  intro convertible
  cases hinders with
  | cyclic reached _ loop | endless reached _ loop => exact convertible.unlooped _ reached loop
  | unreadable reached shape => exact convertible.readable _ reached _ shape

namespace Plain
open Act (EndsAt)

variable {r mid later : Runtime} {root v w : Value} {active : List Value} {fuel : Nat}

/-- The objects that conversion leads through on its way. -/
def sources (s : Store) : List Value :=
  s.valuesOn [(.list,.list),(.tuple,.tuple),(.dict,.dict),(.frozen,.frozen),(.handle,.ref),
    (.context,.context)]

theorem sources_length (s : Store) : (sources s).length ≤ s.size := by
  simp [sources,Store.valuesOn,Store.size,Store.sizeOf]
  omega

/-- Where conversion has come to on its way down from a root: the containers around the value, and
either fuel for all that the way has not led through yet, or something that is met forever. -/
structure Way (r mid : Runtime) (root : Value) (active : List Value) (fuel : Nat) (v : Value) : Prop
    where
  within : r.Extends mid
  reached : r.Converts root v
  inside : ∀ u ∈ active, u.Inside mid.store
  above : ∀ u ∈ active, u.Inside r.store → Relation.TransGen (HasPart r.parts) u v
  ends : r.Hinders root (.misuse .recursion "maximum recursion depth exceeded") ∨
    ∃ trail, Descended r.parts (sources r.store) trail v ∧
      (∀ u ∈ trail, u.kind ∈ [.sequence,.mapping] → u ∈ active) ∧
      3 * ((sources r.store).length + 1) ≤ fuel + 3 * trail.length

namespace Way

variable (way : Way r mid root active fuel v)
include way

theorem extend (within : mid.Extends later) : Way r later root active fuel v where
  within := way.within.grew within.growth within.closed
  reached := way.reached
  inside u member shelf a here := (within.growth.store shelf a (way.inside u member shelf a here)).1
  above := way.above
  ends := way.ends

/-- Fuel that runs out has led in circles. -/
theorem exhausted (none : fuel < 3) :
    r.Hinders root (.misuse .recursion "maximum recursion depth exceeded") := by
  obtain endless | ⟨trail,descended,-,enough⟩ := way.ends
  · exact endless
  · have few := descended.length_le
    omega

/-- One step further down. A container is not met again below, and if anything else is, that is met
forever. -/
theorem part (source : v ∈ sources r.store) (part : w ∈ r.parts v) {active' : List Value} {fuel' : Nat}
    (more : active ⊆ active') (inside : ∀ u ∈ active', u.Inside mid.store)
    (old : ∀ u ∈ active', u.Inside r.store → u ∈ active ∨ u = v)
    (turn : v.kind ∈ [.reference,.scope] ∨
      v.kind ∈ [.sequence,.mapping] ∧ v ∉ active ∧ v ∈ active') (enough : fuel ≤ fuel' + 3) :
    Way r mid root active' fuel' w where
  within := way.within
  reached := way.reached.tail part
  inside := inside
  above u member here := by
    obtain above | rfl := old u member here
    · exact (way.above u above here).tail part
    · exact .single part
  ends := by
    obtain endless | ⟨trail,descended,containers,fueled⟩ := way.ends
    · exact .inl endless
    by_cases again : v ∈ trail
    · have around := descended.above v again
      obtain other | ⟨container,new,-⟩ := turn
      · refine .inl (.endless way.reached ?_ around)
        simp only [List.mem_cons,List.not_mem_nil,or_false] at other ⊢
        tauto
      · exact absurd (containers v again container) new
    · refine .inr ⟨v :: trail,descended.extend again source part,fun u member kind => ?_,?_⟩
      · obtain rfl | member := List.mem_cons.mp member
        · obtain other | ⟨-,-,here⟩ := turn
          · simp only [List.mem_cons,List.not_mem_nil,or_false] at other kind
            rcases other with other | other <;> rcases kind with kind | kind <;> cases other ▸ kind
          · exact here
        · exact more (containers u member kind)
      · rw [List.length_cons]
        omega

end Way

theorem itemsBy_ends {values : List Value} {step : Value → Act Value} {raises : Fault → Prop}
    (shape : r.shape v = .items values) (closed : mid.Closed)
    (steps : ∀ u ∈ r.parts v, ∀ after, mid.Extends after → EndsAt after (r.FormedAs u) raises (step u)) :
    EndsAt mid (r.FormedAs v) raises (itemsBy step values) := by
  rw [Runtime.parts,shape] at steps
  refine (EndsAt.listed Runtime.FormedAs.keeps (fun _ _ _ yields => yields.2) closed steps).imp ?_
  rintro _ after _ ⟨b,rfl,rows,rfl,all,made⟩
  exact ⟨.items rows shape (fun row held => (all row held).1) made,.list ⟨rfl,made.1⟩⟩

theorem put_present {s : Store} (paired : s.identity.Paired) {d : Dict} (present : d.Alike s.identity d)
    (name : String) (value : v.Present s) : (d.put name v).Alike s.identity (d.put name v) :=
  Reference.insert_alike paired present (Key.text_alike _ _) (.str _) value

theorem foldl_put_present {s : Store} (paired : s.identity.Paired) {fields : List (String × Value)}
    {d : Dict} (present : d.Alike s.identity d) (values : ∀ field ∈ fields, field.2.Present s) :
    (fields.foldl (fun d (name,value) => Dict.put d name value) d).Alike s.identity
      (fields.foldl (fun d (name,value) => Dict.put d name value) d) := by
  induction fields generalizing d with
  | nil => exact present
  | cons field fields ih =>
    exact ih (put_present paired present field.1 (values field List.mem_cons_self))
      fun other member => values other (List.mem_cons_of_mem _ member)

theorem entriesBy_ends {d : Dict} {step : Value → Act Value} {raises : Fault → Prop}
    (shape : r.shape v = .entries d) (within : r.Extends mid)
    (steps : ∀ u ∈ r.parts v, ∀ after, mid.Extends after → EndsAt after (r.FormedAs u) raises (step u)) :
    EndsAt mid (r.FormedAs v) raises (entriesBy step d) := by
  rw [Runtime.parts,shape] at steps
  have named (slot : Slot) (member : slot ∈ d) (after : Runtime) (further : mid.Extends after) :
      EndsAt after (fun field last => (∃ shown, r.Extends shown ∧
        field.1 = shown.store.display slot.label) ∧ r.FormedAs slot.value field.2 last) raises (do
          let name := (← Act.store).display slot.label
          return (name,← step slot.value)) := by
    refine .of_store (.bind (steps slot.value (List.mem_map_of_mem member) after further)
      fun w last later yields => .pure later.closed ⟨⟨after,?_,rfl⟩,yields⟩)
    exact within.grew further.growth further.closed
  refine .bind (.mapM (fun slot field early late later made =>
    ⟨made.1,Runtime.FormedAs.keeps _ _ early late later made.2⟩) within.closed named) ?_
  rintro _ after further ⟨rows,rfl,rfl,all⟩
  have present := foldl_put_present (s := after.store) (d := []) further.closed.store.paired .nil
    fun field member => by
      obtain ⟨row,held,rfl⟩ := List.mem_map.mp member
      exact (all row held).2.2
  refine (EndsAt.newDict further.closed present).imp ?_
  rintro _ last later ⟨rfl,made⟩
  exact ⟨.entries rows shape (fun row held => (all row held).1)
    (fun row held => (all row held).2.1.grew later.growth.store) made,.dict ⟨rfl,made.1⟩⟩

theorem blobForm_present {s : Store} (paired : s.identity.Paired) {b : Blob}
    (media : b.mediaType.Present s) : (blobForm b).Alike s.identity (blobForm b) :=
  put_present paired (put_present paired .nil "mimetype" media) "data" (.str _)

/-! One step down, from the value or from an object made to stand for it. -/

namespace Way

variable (way : Way r mid root active fuel v)
include way

theorem container (present : v.Present r.store) (kind : v.kind ∈ [.sequence,.mapping])
    (new : v ∉ active) (part : w ∈ r.parts v) {fuel' : Nat} (enough : fuel ≤ fuel' + 3) :
    Way r mid root (v :: active) fuel' w := by
  have here : v.Inside mid.store := (present.grew way.within.growth.store).inside
  have source : v ∈ sources r.store := by
    have inside := present.inside
    cases v with
    | list a => exact Store.mem_valuesOn (by simp) (inside .list a rfl)
    | tuple a => exact Store.mem_valuesOn (by simp) (inside .tuple a rfl)
    | dict a => exact Store.mem_valuesOn (by simp) (inside .dict a rfl)
    | frozen a => exact Store.mem_valuesOn (by simp) (inside .frozen a rfl)
    | _ => simp [Value.kind] at kind
  refine way.part source part (List.subset_cons_self _ _) (fun u member => ?_)
    (fun u member _ => (List.mem_cons.mp member).symm) (.inr ⟨kind,new,List.mem_cons_self⟩) enough
  obtain rfl | member := List.mem_cons.mp member
  · exact here
  · exact way.inside u member

/-- An object that stands for a reference or a view has just been made. -/
theorem standIn {c : Value} (within : mid.Extends later) (source : v ∈ sources r.store)
    (kind : v.kind ∈ [.reference,.scope]) (made : c.Inside later.store) (new : ¬ c.Inside r.store)
    (part : w ∈ r.parts v) {fuel' : Nat} (enough : fuel ≤ fuel' + 3) :
    Way r later root (c :: active) fuel' w := by
  refine (way.extend within).part source part (List.subset_cons_self _ _) (fun u member => ?_)
    (fun u member here => ?_) (.inl kind) enough
  · obtain rfl | member := List.mem_cons.mp member
    · exact made
    · exact (way.extend within).inside u member
  · obtain rfl | member := List.mem_cons.mp member
    · exact absurd here new
    · exact .inl member

theorem through (source : v ∈ sources r.store) (kind : v.kind ∈ [.reference,.scope])
    (part : w ∈ r.parts v) {fuel' : Nat} (enough : fuel ≤ fuel' + 3) :
    Way r mid root active fuel' w :=
  way.part source part (List.Subset.refl _) way.inside (fun _ member _ => .inl member) (.inl kind) enough

/-- A new object is not among the containers around the value. -/
theorem not_active {c : Value} (new : ¬ c.Inside mid.store) : active.contains c = false := by
  rw [Bool.eq_false_iff,ne_eq,List.contains_iff_mem]
  exact fun member => new (way.inside c member)

end Way

/-- What the recursion gives on less fuel. -/
def ConvertsBelow (r : Runtime) (root : Value) (fuel : Nat) : Prop :=
  ∀ less < fuel, ∀ {u : Value} {mid : Runtime} {active : List Value}, Way r mid root active less u →
    u.Present r.store → EndsAt mid (r.FormedAs u) (r.Hinders root) (ofValueWithin less active u)

/-- A dictionary made to stand for a reference or a view is gone through at once. -/
theorem flat_ends (way : Way r mid root active fuel v) (present : v.Present r.store)
    (source : v ∈ sources r.store) (kind : v.kind ∈ [.reference,.scope]) {d : Dict}
    (shape : r.shape v = .entries d) (held : d.Alike mid.store.identity d) {less : Nat}
    (below : ConvertsBelow r root less) (enough : fuel ≤ less + 2) :
    EndsAt mid (r.FormedAs v) (r.Hinders root) (do
      let flat ← Act.make (·.newDict d)
      ofValueWithin less active flat) := by
  refine .bind (.newDict way.within.closed held) ?_
  rintro _ after further ⟨rfl,made⟩
  cases less with
  | zero => exact .fail (way.exhausted (by omega))
  | succ less =>
    have new : ¬ (Value.dict mid.store.dicts.size).Inside mid.store := fun inside =>
      Nat.lt_irrefl _ (inside .dict _ rfl)
    have older : ¬ (Value.dict mid.store.dicts.size).Inside r.store := fun inside =>
      new fun shelf a here => (way.within.growth.store shelf a (inside shelf a here)).1
    have stands : (Value.dict mid.store.dicts.size).Inside after.store := by
      rintro _ _ ⟨⟩
      exact made.1
    refine .of_store ?_
    dsimp only
    rw [way.not_active new,made.dictAt]
    refine entriesBy_ends shape (way.extend further).within fun u part last later => ?_
    exact below less (Nat.lt_succ_self _)
      (((way.standIn further source kind stands older part (by omega)).extend later))
      (way.within.old.parts_present present part)

/-- A container is converted from its parts, unless it is met within itself. -/
theorem container_ends (way : Way r mid root active (fuel + 1) v) (present : v.Present r.store)
    (kind : v.kind ∈ [.sequence,.mapping]) (below : ConvertsBelow r root (fuel + 1))
    {convert : (Value → Act Value) → Act Value}
    (converts : ∀ step, (∀ u ∈ r.parts v, ∀ after, mid.Extends after →
      EndsAt after (r.FormedAs u) (r.Hinders root) (step u)) →
        EndsAt mid (r.FormedAs v) (r.Hinders root) (convert step)) :
    EndsAt mid (r.FormedAs v) (r.Hinders root) (if active.contains v then Act.fail .cyclicPlain
      else convert (ofValueWithin fuel (v :: active))) := by
  split
  · next again =>
    exact .fail (.cyclic way.reached kind
      (way.above v (List.contains_iff_mem.mp again) present.inside))
  · next new =>
    refine converts _ fun u part later further => ?_
    exact below fuel (Nat.lt_succ_self _) ((way.container present kind
      (mt List.contains_iff_mem.mpr new) part (by omega)).extend further)
      (way.within.old.parts_present present part)

theorem reference_ends {a : Address} (way : Way r mid root active (fuel + 1) (.ref a))
    (present : (Value.ref a).Present r.store) (below : ConvertsBelow r root (fuel + 1)) :
    EndsAt mid (r.FormedAs (.ref a)) (r.Hinders root) (do
      let target ← Reference.get a
      ofValueWithin fuel active target) := by
  have inside := present.inside .handle a rfl
  have source : Value.ref a ∈ sources r.store := Store.mem_valuesOn (by simp) inside
  have kind : (Value.ref a).kind ∈ [.reference,.scope] := by simp [Value.kind]
  show EndsAt mid _ _ (Act.ofExcept (mid.readReference a) >>= Spot.realize >>= ofValueWithin fuel active)
  rw [way.within.reads_eq .read inside,Step.bind_assoc]
  have shape : r.shape (.ref a) = .ofReading r.store (r.readReference a) := rfl
  cases found : r.readReference a with
  | error fault =>
    rw [found] at shape
    exact .fail_bind (.unreadable way.reached shape)
  | ok spot =>
    rw [found] at shape
    cases Runtime.Looks.read.present way.within.old inside found with
    | @value inner _ held =>
      have part : inner ∈ r.parts (.ref a) := by
        rw [Runtime.parts,shape]
        exact List.mem_cons_self
      exact (below fuel (Nat.lt_succ_self _) (way.through source kind part (by omega)) held).imp
        fun w after _ yields => ⟨.through shape yields.1,yields.2⟩
    | @bindings scope _ linked =>
      -- a view is made of the bindings, and a dictionary of the view
      have there := (way.within.growth.store .scope scope linked.2).1
      show EndsAt mid _ _ (Act.make (·.newContext scope) >>= ofValueWithin fuel active)
      refine .bind (.newContext way.within.closed there) ?_
      rintro _ after further ⟨rfl,made⟩
      cases fuel with
      | zero => exact .fail (way.exhausted (by omega))
      | succ fuel =>
        have way := way.extend further
        have view : after.store.contextAt mid.store.contexts.size = scope := Object.context.inj made.2
        have held := (way.within.old.store.squashedContext linked).mono way.within.growth.store.identity
        refine .of_store ?_
        dsimp only
        rw [view,way.within.squashedContext linked.2]
        exact flat_ends way present source kind shape held
          (fun less small => below less (by omega)) (by omega)
    | @items values _ held =>
      have held := held.mono way.within.growth.store.identity
      show EndsAt mid _ _ (Act.make (·.newList values) >>= ofValueWithin fuel active)
      refine .bind (.newList way.within.closed held) ?_
      rintro _ after further ⟨rfl,made⟩
      cases fuel with
      | zero => exact .fail (way.exhausted (by omega))
      | succ fuel =>
        have new : ¬ (Value.list mid.store.lists.size).Inside mid.store := fun inside =>
          Nat.lt_irrefl _ (inside .list _ rfl)
        have older : ¬ (Value.list mid.store.lists.size).Inside r.store := fun inside =>
          new fun shelf a here => (way.within.growth.store shelf a (inside shelf a here)).1
        have stands : (Value.list mid.store.lists.size).Inside after.store := by
          rintro _ _ ⟨⟩
          exact made.1
        refine .of_store ?_
        dsimp only
        rw [way.not_active new,made.listAt]
        refine itemsBy_ends shape further.closed fun u part last later => ?_
        exact below fuel (by omega)
          ((way.standIn further source kind stands older part (by omega)).extend later)
          (way.within.old.parts_present present part)

theorem ofValueWithin_step (bare : ∀ u, r.Converts root u → (r.shape u).Bare r.store)
    (below : ConvertsBelow r root fuel) (way : Way r mid root active fuel v)
    (present : v.Present r.store) :
    EndsAt mid (r.FormedAs v) (r.Hinders root) (ofValueWithin fuel active v) := by
  cases fuel with
  | zero => exact .fail (way.exhausted (by omega))
  | succ fuel =>
    have shape : r.shape v = mid.shape v := (way.within.shape present).symm
    have closed := way.within.closed
    have there := present.grew way.within.growth.store
    have leaf {w : Value} (shape : r.shape v = .leaf w) (held : w.Present mid.store) :
        EndsAt mid (r.FormedAs v) (r.Hinders root) (pure w : Act Value) := .pure closed ⟨.leaf shape,held⟩
    have inside := present.inside
    cases v with
    | ref a => exact .of_store (reference_ends way present below)
    | context a =>
      have linked := closed.store.contextAt ⟨rfl,there.inside .context a rfl⟩
      exact .of_store (flat_ends way present (Store.mem_valuesOn (by simp) (inside .context a rfl))
        (by simp [Value.kind]) shape (closed.store.squashedContext linked)
        (fun less small => below less (by omega)) (by omega))
    | dict a | frozen a =>
      exact .of_store (container_ends way present (by simp [Value.kind]) below fun step steps =>
        entriesBy_ends shape way.within steps)
    | list a | tuple a =>
      exact .of_store (container_ends way present (by simp [Value.kind]) below fun step steps =>
        itemsBy_ends shape closed steps)
    | blob a =>
      have media := (closed.store.blobAt ⟨rfl,there.inside .blob a rfl⟩).mediaType
      refine .of_store ((EndsAt.newDict closed (blobForm_present closed.store.paired media)).imp ?_)
      rintro _ after _ ⟨rfl,made⟩
      exact ⟨.blob shape made,.dict ⟨rfl,made.1⟩⟩
    | node a =>
      refine .of_store (Node.toDict_ends way.within present
        (fun b reached => (show (r.store.nodeAt b).Bare r.store from
          bare (.node b) (way.reached.trans reached)).styled) ?_)
      by_cases unlooped : Unlooped r.parts (.node a)
      · exact .inl unlooped
      · simp only [Unlooped,not_forall,not_not] at unlooped
        obtain ⟨u,reached,loop⟩ := unlooped
        obtain ⟨b,rfl⟩ := Node.converts_node reached
        exact .inr (.endless (way.reached.trans reached) (by simp [Value.kind]) loop)
    | report a => exact .of_store (leaf shape (.str _))
    | failure a => exact .of_store (leaf shape (.str _))
    | scope a => exact .of_store (leaf rfl .null)
    | _ => exact .of_store (leaf rfl there)

theorem convertsBelow (bare : ∀ u, r.Converts root u → (r.shape u).Bare r.store) (fuel : Nat) :
    ConvertsBelow r root fuel := by
  induction fuel with
  | zero => exact fun less small => absurd small (Nat.not_lt_zero _)
  | succ fuel ih =>
    intro less small u mid active way present
    obtain small | rfl := Nat.lt_succ_iff_lt_or_eq.mp small
    · exact ih less small way present
    · exact ofValueWithin_step bare ih way present

/-- Converting a value gives its plain form or raises what hinders it. -/
theorem ofValue_ends (closed : r.Closed) (present : v.Present r.store)
    (bare : ∀ u, r.Converts v u → (r.shape u).Bare r.store) :
    EndsAt r (r.FormedAs v) (r.Hinders v) (ofValue v) := by
  have few := sources_length r.store
  refine .of_store (convertsBelow bare _ (depth r.store) (Nat.lt_succ_self _) ?_ present)
  refine ⟨closed.extends,.refl,nofun,nofun,.inr ⟨[],⟨.nil,nofun,nofun⟩,nofun,?_⟩⟩
  rw [depth,List.length_nil]
  omega

/-! Plain trees convert to themselves. -/

theorem part_of_tree (tree : r.store.Tree v) (part : w ∈ r.parts v) : r.store.Tree w := by
  refine tree.member ?_
  cases tree with
  | leaf scalar => rw [Runtime.parts,r.shape_of_scalar scalar] at part; cases part
  | list | dict => exact part

theorem bare_of_tree (tree : r.store.Tree v) (reached : r.Converts v w) :
    (r.shape w).Bare r.store := by
  have here : r.store.Tree w := by
    induction reached with
    | refl => exact tree
    | tail _ part ih => exact part_of_tree ih part
  cases here with
  | leaf scalar =>
    rw [r.shape_of_scalar scalar]
    exact scalar
  | list | dict => exact trivial

theorem convertible_of_tree (tree : r.store.Tree v) : r.Convertible v := by
  induction tree with
  | leaf scalar =>
    refine .of_parts (by rw [r.shape_of_scalar scalar]; rintro _ ⟨⟩) fun w part => ?_
    rw [Runtime.parts,r.shape_of_scalar scalar] at part
    cases part
  | @list a items has _ ih =>
    refine .of_parts (by rintro _ ⟨⟩) fun w part => ?_
    have held : w ∈ r.store.listAt a := part
    exact ih w (has.listAt ▸ held)
  | @dict a d has _ _ ih =>
    refine .of_parts (by rintro _ ⟨⟩) fun w part => ?_
    have held : w ∈ Dict.values (r.store.dictAt a) := part
    rw [has.dictAt] at held
    obtain ⟨slot,member,rfl⟩ := List.mem_map.mp held
    exact ih slot member

/-- Where all that conversion comes to in nodes and blobs is made of plain trees, a value that neither
contains itself nor holds a reference that cannot be read is converted into its plain form. That is a
plain tree, both formats can write it, and converting it again gives a tree like it. Any other value
is refused for what hinders it. -/
theorem ofValue_laws (closed : r.Closed) (present : v.Present r.store)
    (bare : ∀ u, r.Converts v u → (r.shape u).Bare r.store) :
    (r.Convertible v → ∃ w after, ofValue v r = (.done w,after) ∧ r.HasForm after.store v w ∧
      after.store.Tree w ∧ (∀ layout, ∃ text, Json.write after.store layout w = .ok text) ∧
      (∃ text, Yaml.write after.store w = .ok text) ∧
      ∃ again last, ofValue w after = (.done again,last) ∧ last.store.SameTree w again) ∧
    (¬ r.Convertible v → ∃ failure after, ofValue v r = (.raised failure,after) ∧
      r.Hinders v (after.store.failureAt failure).fault) := by
  obtain ⟨w,after,ran,within,shown,made⟩ | ⟨failure,after,ran,hinders⟩ :=
    ofValue_ends closed present bare
  · refine ⟨fun _ => ?_,fun hindered => absurd shown.convertible hindered⟩
    have tree := shown.tree within.growth.store bare
    refine ⟨w,after,ran,shown,tree,fun layout => Json.write_tree tree,Yaml.write_tree tree,?_⟩
    obtain ⟨again,last,ranAgain,further,shownAgain,-⟩ | ⟨failure,last,-,hinders⟩ :=
      ofValue_ends within.closed made fun u => bare_of_tree tree
    · exact ⟨again,last,ranAgain,shownAgain.same_of_tree further.growth.store tree⟩
    · exact absurd (convertible_of_tree tree) hinders.not_convertible
  · exact ⟨fun convertible => absurd convertible hinders.not_convertible,fun _ =>
      ⟨failure,after,ran,hinders⟩⟩

/-- A page with a blob, a reference to it in a tuple, and a node with the blob as an attribute. -/
def attached : Runtime :=
  let blob := (Page.initial.store.newBlob ⟨.str "text/plain",[97]⟩).2
  let handle := (blob.newHandle (.cell (.blob 0) "blob")).2
  let tuple := (handle.newTuple [.ref 0]).2
  let node := (tuple.newNode ⟨.str "div",[⟨.text "x",.str "x",.blob 0⟩],[],.null,.null⟩).2
  { Page.initial with store := node }

theorem attached_closed : attached.Closed := by
  have blob := Runtime.Closed.initial.newBlob (b := ⟨.str "text/plain",[97]⟩) (.str _)
  have handle := blob.newHandle (show (Handle.cell (.blob 0) "blob").Alike _ _ from
    .cell (.blob ⟨rfl,by decide⟩) _)
  have tuple := handle.newTuple (show Values.Alike _ [.ref 0] _ from .cons (.ref ⟨rfl,by decide⟩) .nil)
  exact tuple.newNode (n := ⟨.str "div",[⟨.text "x",.str "x",.blob 0⟩],[],.null,.null⟩)
    ⟨.str _,.cons ⟨Key.text_alike _ _,.str _,.blob ⟨rfl,by decide⟩⟩ .nil,.nil,.null,.null⟩

theorem ofValue_laws_attached : ∃ w after, ofValue (.tuple 0) attached = (.done w,after) ∧
    after.store.Tree w ∧ Json.write after.store ⟨.full,false⟩ w =
      .ok "[\x7b\"mimetype\": \"text/plain\", \"data\": \"YQ==\"\x7d]" := by
  have convertible {v : Value} (readable : ∀ fault, attached.shape v ≠ .unreadable fault)
      (bare : (attached.shape v).Bare attached.store)
      (below : ∀ w ∈ attached.parts v, attached.Convertible w ∧
        ∀ u, attached.Converts w u → (attached.shape u).Bare attached.store) :
      attached.Convertible v ∧ ∀ u, attached.Converts v u → (attached.shape u).Bare attached.store := by
    refine ⟨.of_parts readable fun w part => (below w part).1,fun u reached => ?_⟩
    obtain rfl | ⟨w,part,onward⟩ := Relation.ReflTransGen.cases_head reached
    · exact bare
    · exact (below w part).2 u onward
  have single {v w : Value} (parts : attached.parts v = [w]) {P : Value → Prop} (holds : P w) :
      ∀ u ∈ attached.parts v, P u := by
    rw [parts]
    exact List.forall_mem_singleton.mpr holds
  have blob := convertible (v := .blob 0) nofun (Store.Tree.leaf (v := .str "text/plain") (by decide)) nofun
  have reference := convertible (v := .ref 0) nofun trivial (single rfl blob)
  have tuple := convertible (v := .tuple 0) nofun trivial (single rfl reference)
  obtain ⟨w,after,ran,-,tree,-⟩ :=
    (ofValue_laws attached_closed (.tuple ⟨rfl,by decide⟩) tuple.2).1 tuple.1
  obtain rfl : (ofValue (.tuple 0) attached).2 = after := congrArg Prod.snd ran
  obtain rfl : Value.list 0 = w := Outcome.done.inj (congrArg Prod.fst ran)
  exact ⟨_,_,ran,tree,by decide +kernel⟩

/-- An attribute of a node is taken over as it is. -/
theorem ofValue_attribute : ∃ w after, ofValue (.node 0) attached = (.done w,after) ∧
    ¬ after.store.Tree w ∧ Json.write after.store ⟨.full,false⟩ w =
      .error (.misuse .type "Object of type Blob is not JSON serializable") := by
  have refused : Json.write (ofValue (.node 0) attached).2.store ⟨.full,false⟩ (.dict 3) =
      .error (.misuse .type "Object of type Blob is not JSON serializable") := by decide +kernel
  refine ⟨.dict 3,(ofValue (.node 0) attached).2,rfl,fun tree => ?_,refused⟩
  obtain ⟨text,written⟩ : ∃ text, Json.write _ ⟨.full,false⟩ _ = .ok text := Json.write_tree tree
  rw [refused] at written
  cases written

end Plain
end PageRuntime
