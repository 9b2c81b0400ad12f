import PageRuntime.Proofs.Regions

/-! Writing within a region. What is read through a location of a region is of the region, so a write
of a value of the region, a removal and every set operation stay there. -/
namespace PageRuntime
open PageRuntime.Act (Stays Remains)

variable {region : Region} {r : Runtime} (keeps : r.KeepsTo region)

theorem Spot.realize_stays (keeps : r.KeepsTo region) {spot : Spot} (held : spot.In region) :
    Stays region (fun region v => v.In region) r spot.realize := by
  cases held with
  | value held => exact .pure keeps held
  | bindings linked => exact .newContext keeps linked.2
  | items held => exact .newList keeps held

namespace Reference

section Reading
include keeps

theorem emptyFor_stays (key : Segment) :
    Stays region (fun region v => v.In region) r (emptyFor key) := by
  cases key with
  | index place => exact .newList keeps .nil
  | field name => exact .newDict keeps .nil

theorem root_stays {scope : Address} (held : region .scope scope) (path : Path) :
    Stays region (fun region spot => spot.In region) r (root scope path) :=
  .read (.ofSpot keeps (keeps.rootSpot ⟨rfl,held⟩ path.root))

theorem settle_stays {spot : Spot} (held : spot.In region) :
    Stays region (fun region spot => spot.In region) r (settle spot) :=
  .read (.ofSpot keeps (held.follow fun _ _ => keeps.resolve))

theorem step_stays {spot : Spot} (held : spot.In region) (key : Segment) :
    Stays region (fun region v => v.In region) r (step spot key) :=
  .read (.ofExcept keeps fun _ => (held.step (fun _ _ => keeps.resolve) keeps.store key).itself)

theorem read_stays {a : Address} (held : region .handle a) :
    Stays region (fun region spot => spot.In region) r (read a) :=
  .read (.ofSpot keeps (keeps.readReference ⟨rfl,held⟩))

theorem isLocked_stays (path : Path) (locked : Bool) :
    Stays region (fun _ _ => True) r (isLocked path locked) := by
  unfold isLocked
  split
  · exact .pure keeps trivial
  · split
    · exact .pure keeps trivial
    · refine .read ?_
      split
      · exact .pure keeps trivial
      · exact .fail keeps _

theorem debugLine_stays (text : String) : Remains region r (debugLine text) := by
  intro ending after ran
  obtain ⟨entries,noted⟩ := debugLine_run text r
  rw [noted] at ran
  cases ran
  exact ⟨region,.of_store ⟨keeps.store,keeps.roots,keeps.document,rfl⟩ rfl,fun _ _ => trivial⟩

end Reading

section Writing

variable {write : Address → Value → Act Unit}

/-- Writing values of a region through its handles. -/
def Settled (write : Address → Value → Act Unit) : Prop :=
  ∀ (region : Region) (r : Runtime) (a : Address) (v : Value), r.KeepsTo region →
    region .handle a → v.In region → Remains region r (write a v)

variable (settled : Settled write) {v : Value} (held : v.In region)
include keeps settled held

theorem putBinding_stays {scope : Address} (inside : region .scope scope) (key : Segment) :
    Remains region r (putBinding write scope key v) := by
  have specials := (keeps.store.scopeAt ⟨rfl,inside⟩).specials
  have sets : Remains region r
      (Context.set scope (.text key.bindingName) (.str key.bindingName) v) :=
    .update keeps specials.2 (r.store.putDict_puts _ _) nofun
      (.entries (insert_alike keeps.store.paired (keeps.store.dictAt specials) (Key.text_alike _ _)
        (.str _) held))
  have found := keeps.store.contextKey ⟨rfl,inside⟩ (Key.text_alike region.link key.bindingName)
  unfold putBinding
  refine .store ?_
  revert found
  generalize r.store.contextKey scope (.text key.bindingName) = binding
  intro found
  cases found with
  | ref linked => exact settled region r _ v keeps linked.2 held
  | _ => exact sets

theorem putEntry_stays {a : Address} (inside : region .dict a) (key : Segment) :
    Remains region r (putEntry write a key v) := by
  have entries := keeps.store.dictAt (show region.link .dict a a from ⟨rfl,inside⟩)
  have label : key.value.Alike region.link key.value := by
    cases key with
    | field name => exact .str name
    | index place => exact .int place
  have enters : Remains region r
      (Act.update (·.putDict a ((r.store.dictAt a).insert key.key key.value v))) :=
    .update keeps inside (r.store.putDict_puts _ _) nofun
      (.entries (insert_alike keeps.store.paired entries (key.key_alike _) label held))
  have found := Dict.get_alike keeps.store.paired entries (key.key_alike region.link)
  unfold putEntry
  refine .store ?_
  revert found
  generalize (r.store.dictAt a).get key.key = entry
  intro found
  cases found with
  | ref linked => exact settled region r _ v keeps linked.2 held
  | _ => exact enters

theorem putItem_stays {items : List Value} (values : Values.Alike region.link items items)
    {store : List Value → Act Unit}
    (stores : ∀ xs, Values.Alike region.link xs xs → Remains region r (store xs)) (key : Segment) :
    Remains region r (putItem write items store key v) := by
  cases key with
  | field name => exact .fail keeps _
  | index place =>
    unfold putItem
    dsimp only
    split
    · next place _ =>
      have found := List.getElem?_alike values place
      have stored := stores _ (List.set_alike values place held)
      revert found
      generalize items[place]? = item
      intro found
      cases found with
      | none => exact stored
      | some found =>
        cases found with
        | ref linked => exact settled region r _ v keeps linked.2 held
        | _ => exact stored
    · split
      · exact .done keeps
      · exact stores _ (extended_alike values _ held)

theorem putInto_stays {container : Spot} (into : container.In region) (key : Segment) :
    Remains region r (putInto write container key v) := by
  unfold putInto
  refine .store ?_
  cases into with
  | bindings linked => exact putBinding_stays keeps settled held linked.2 key
  | items values => exact putItem_stays keeps settled held values (fun _ _ => .done keeps) key
  | value into =>
    cases into with
    | context linked =>
      exact putBinding_stays keeps settled held (keeps.store.contextAt linked).2 key
    | dict linked => exact putEntry_stays keeps settled held linked.2 key
    | list linked =>
      exact putItem_stays keeps settled held (keeps.store.listAt linked) (fun xs all =>
        .update keeps linked.2 (r.store.putList_puts _ _) nofun (.items all)) key
    | tuple linked => exact .done keeps
    | frozen linked => exact .done keeps
    | fset linked => exact .done keeps
    | _ => exact .fail keeps _

omit held in
theorem opened_stays {a : Address} (inside : region .handle a) {reading : Act Spot}
    (reads : ∀ wider mid, (∀ shelf a, region shelf a → wider shelf a) → mid.KeepsTo wider →
      Stays wider (fun region spot => spot.In region) mid reading) (key : Segment) :
    Stays region (fun region spot => spot.In region) r (opened write a reading key) := by
  refine .bind (reads region r (fun _ _ => id) keeps) fun mid wider found stays met => ?_
  split
  · refine .bind (emptyFor_stays stays.keeps key) fun last widest made further new => ?_
    have gains := (stays.trans further).gains
    refine .bind (settled widest last a made further.keeps (gains _ _ inside) new) ?_
    intro last widest _ onward _
    exact reads widest last (fun shelf b held => onward.gains shelf b (gains shelf b held)) onward.keeps
  · exact .pure stays.keeps met

theorem put_stays {container : Spot} (into : container.In region) (key : Segment) :
    Remains region r (put write container key v) := by
  by_cases behind : ∃ a, container = .value (.ref a)
  · obtain ⟨a,rfl⟩ := behind
    have inside : region .handle a := by
      cases into with
      | value into =>
        cases into with
        | ref linked => exact linked.2
    refine .bind (opened_stays keeps settled inside (fun wider mid gains keeps =>
      settle_stays keeps (.value (.ref ⟨rfl,gains _ _ inside⟩))) key) fun mid wider found stays met => ?_
    split
    · exact .done stays.keeps
    · exact putInto_stays stays.keeps settled (stays.held held) met key
  · rw [put_plain _ fun a same => behind ⟨a,same⟩]
    exact putInto_stays keeps settled held into key

theorem descend_stays (rest : List Segment) {container : Spot} (into : container.In region)
    (key : Segment) : Remains region r (descend write container key rest v) := by
  induction rest generalizing region r container key with
  | nil => exact put_stays keeps settled held into key
  | cons after rest ih =>
    refine .bind (step_stays keeps into key) fun mid wider next stays met => ?_
    have into : container.In wider := into.mono stays.le
    split
    · refine .bind (settle_stays stays.keeps into) fun last widest container_ further _ => ?_
      split
      · exact .done further.keeps
      · have into : container.In widest := into.mono further.le
        refine .bind (emptyFor_stays further.keeps after) fun s all made onward new => ?_
        refine .bind (put_stays onward.keeps settled new (into.mono onward.le) key) ?_
        intro t most _ last _
        exact ih last.keeps (((stays.trans further).trans (onward.trans last)).held held)
          (.value (last.held new)) after
    · exact ih stays.keeps (stays.held held) (.value met) after

omit settled in
theorem setRootValue_stays (name : String) : Remains region r (setRootValue name v) := by
  rintro _ _ ⟨⟩
  exact ⟨region,.of_store (keeps.setRoot name held) rfl,fun _ _ => trivial⟩

theorem setRootPath_stays (path : Path) : Remains region r (setRootPath write path v) := by
  unfold setRootPath
  split
  · exact .fail keeps _
  · next name _ =>
    refine .read ?_
    have found := keeps.rootValue? name
    revert found
    generalize r.rootValue? name = root
    intro found
    cases found with
    | none => exact setRootValue_stays keeps held name
    | some found =>
      cases found with
      | ref linked => exact settled region r _ v keeps linked.2 held
      | _ => exact setRootValue_stays keeps held name

theorem setBelowRoot_stays {scope : Address} (inside : region .scope scope) (path : Path)
    (key : Segment) (rest : List Segment) :
    Remains region r (setBelowRoot write scope path key rest v) := by
  refine .bind (root_stays keeps inside path) fun mid wider start stays met => ?_
  split
  · split
    · exact .fail stays.keeps _
    · next name _ =>
      refine .bind (emptyFor_stays stays.keeps key) fun last widest made further new => ?_
      refine .bind (setRootValue_stays further.keeps new name) fun s all _ onward _ => ?_
      exact descend_stays onward.keeps settled (((stays.trans further).trans onward).held held) rest
        (.value (onward.held new)) key
  · exact descend_stays stays.keeps settled (stays.held held) rest met key

theorem setPathValue_stays {scope : Address} (inside : region .scope scope) (path : Path)
    (locked : Bool) : Remains region r (setPathValue write scope path locked v) := by
  refine .bind (isLocked_stays keeps path locked) fun mid wider shut stays _ => ?_
  split
  · exact debugLine_stays stays.keeps _
  · split
    · exact setRootPath_stays stays.keeps settled (stays.held held) path
    · exact setBelowRoot_stays stays.keeps settled (stays.held held) (stays.gains _ _ inside) path _ _

theorem setBelow_stays {parent : Address} (inside : region .handle parent) (key : Segment) :
    Remains region r (setBelow write parent key v) := by
  refine .bind (opened_stays keeps settled inside (fun wider mid gains keeps =>
    read_stays keeps (gains _ _ inside)) key) fun mid wider found stays met => ?_
  split
  · exact .done stays.keeps
  · exact put_stays stays.keeps settled (stays.held held) met key

end Writing

theorem setWithin_settled (fuel : Nat) : Settled (setWithin fuel) := by
  induction fuel with
  | zero => exact fun _ _ _ _ keeps _ _ => .fail keeps _
  | succ fuel ih =>
    intro region r a v keeps inside held
    unfold setWithin
    refine .store ?_
    have found := keeps.store.handleAt (show region.link .handle a a from ⟨rfl,inside⟩)
    revert found
    generalize r.store.handleAt a = handle
    intro found
    cases found with
    | path linked path locked => exact setPathValue_stays keeps ih held linked.2 path locked
    | sub linked key => exact setBelow_stays keeps ih held linked.2 key
    | locked linked => exact .done keeps
    | cell _ label =>
      exact .update keeps inside (r.store.putHandle_puts a _) (by decide) (.handle (.cell held label))

section Removing
include keeps

theorem erase_stays {scope : Address} (inside : region .scope scope) (name : String) :
    Remains region r (Context.erase scope (.text name)) := by
  have specials := (keeps.store.scopeAt ⟨rfl,inside⟩).specials
  exact .update keeps specials.2 (r.store.putDict_puts _ _) nofun
    (.entries (Dict.erase_alike keeps.store.paired (keeps.store.dictAt specials) (Key.text_alike _ _)))

theorem dropMember_stays {container : Spot} (into : container.In region) (key : Segment) :
    Remains region r (dropMember container key) := by
  unfold dropMember
  refine .store ?_
  cases into with
  | bindings linked => exact erase_stays keeps linked.2 _
  | items values => exact .done keeps
  | value into =>
    cases into with
    | context linked => exact erase_stays keeps (keeps.store.contextAt linked).2 _
    | dict linked =>
      exact .update keeps linked.2 (r.store.putDict_puts _ _) nofun
        (.entries (Dict.erase_alike keeps.store.paired (keeps.store.dictAt linked) (key.key_alike _)))
    | list linked =>
      cases key with
      | field name => exact .done keeps
      | index place =>
        dsimp only
        split
        · exact .update keeps linked.2 (r.store.putList_puts _ _) nofun
            (.items (List.eraseIdx_alike (keeps.store.listAt linked) _))
        · exact .done keeps
    | _ => exact .done keeps

theorem deletePath_stays {scope : Address} (inside : region .scope scope) (path : Path)
    (locked : Bool) : Remains region r (deletePath scope path locked) := by
  refine .bind (isLocked_stays keeps path locked) fun mid wider shut stays _ => ?_
  split
  · exact .done stays.keeps
  · split
    · refine .bind (root_stays stays.keeps (stays.gains _ _ inside) path)
        fun mid wider start further met => ?_
      have keeps := further.keeps
      refine .read (.bind (.ofSpot keeps (met.walk (fun _ _ => keeps.resolve) keeps.store _))
        fun mid wider found onward met => ?_)
      refine .bind (settle_stays onward.keeps met) fun mid wider container last met => ?_
      exact dropMember_stays last.keeps met _
    · exact .done stays.keeps

end Removing

namespace Target

variable {scope : Address} (inside : region .scope scope) (path : Path)
include keeps inside

theorem get_stays : Stays region (fun region v => v.In region) r (place scope path).get := by
  refine .read (.bind (.ofSpot keeps (keeps.readHandle (fun _ _ => keeps.resolve)
    (.path ⟨rfl,inside⟩ path false))) fun mid wider spot stays met => ?_)
  exact Spot.realize_stays stays.keeps met

theorem set_stays {v : Value} (held : v.In region) : Remains region r ((place scope path).set v) :=
  .store (setPathValue_stays keeps (setWithin_settled _) held inside path false)

end Target
end Reference

namespace Setop
open PageRuntime.Reference (Target)

variable {scope : Address} (inside : region .scope scope) (path : Path) {v : Value}
  (held : v.In region)
include keeps inside held

theorem addItem_stays (setop : Setop) : Remains region r (addItem (.place scope path) setop v) := by
  refine .bind (Target.get_stays keeps inside path) fun mid wider current stays met => ?_
  have held := stays.held held
  have stores {items : List Value} (all : Values.Alike wider.link items items) : Remains wider mid
      (do let made ← Act.make (·.newList items); (Target.place scope path).set made) :=
    .bind (.newList stays.keeps all) fun _ _ _ further new =>
      Target.set_stays further.keeps ((stays.trans further).gains _ _ inside) path new
  have added {items : List Value} (all : Values.Alike wider.link items items) :
      Values.Alike wider.link (if setop == .append then items ++ [v] else v :: items)
        (if setop == .append then items ++ [v] else v :: items) := by
    split
    · exact List.rel_append all (.cons held .nil)
    · exact .cons held all
  refine .store ?_
  cases met with
  | null => exact stores (.cons held .nil)
  | list linked => exact stores (added (stays.keeps.store.listAt linked))
  | tuple linked => exact stores (added (stays.keeps.store.tupleAt linked))
  | _ => exact .fail stays.keeps _

theorem mergeEntries_stays : Remains region r (mergeEntries (.place scope path) v) := by
  refine .bind (Target.get_stays keeps inside path) fun mid wider current stays met => ?_
  have store := stays.keeps.store
  have merges {present added : Dict} (all : present.Alike wider.link present)
      (more : added.Alike wider.link added) : Remains wider mid
      (do let made ← Act.make (·.newDict (Dict.update present added))
          (Target.place scope path).set made) :=
    .bind (.newDict stays.keeps (Dict.update_alike store.paired all more)) fun _ _ _ further new =>
      Target.set_stays further.keeps ((stays.trans further).gains _ _ inside) path new
  have sets := Target.set_stays stays.keeps (stays.gains _ _ inside) path (stays.held held)
  have added := store.mapping? (stays.held held)
  refine .store ?_
  revert added
  generalize mid.store.mapping? v = entries
  intro added
  cases met with
  | null => exact sets
  | dict linked =>
    cases added with
    | none => exact .fail stays.keeps _
    | some added => exact merges (store.dictAt linked) added
  | frozen linked =>
    cases added with
    | none => exact .fail stays.keeps _
    | some added => exact merges (store.frozenAt linked) added
  | _ => cases added <;> exact .fail stays.keeps _

theorem apply_stays (setop : Setop) : Remains region r (setop.apply (.place scope path) v) := by
  cases setop with
  | set => exact Target.set_stays keeps inside path held
  | setUnless =>
    refine .bind (Target.get_stays keeps inside path) fun mid wider current stays _ => ?_
    split
    · exact Target.set_stays stays.keeps (stays.gains _ _ inside) path (stays.held held)
    · exact .done stays.keeps
  | append => exact addItem_stays keeps inside path held .append
  | prepend => exact addItem_stays keeps inside path held .prepend
  | merge => exact mergeEntries_stays keeps inside path held
  | delete => exact Reference.deletePath_stays keeps inside path false

theorem applyNamed_stays (setop : Value) :
    Remains region r (applyNamed setop (.place scope path) v) := by
  unfold applyNamed
  dsimp only
  split
  · exact apply_stays keeps inside path held _
  · exact .store (.fail keeps _)

end Setop

namespace Blob
include keeps

theorem make_stays {mediaType : Value} (held : mediaType.In region) (base64 : Value) :
    Stays region (fun region v => v.In region) r (make mediaType base64) :=
  .store (.bind (.ofAny keeps _) fun _ _ _ stays _ =>
    .newBlob stays.keeps (stays.held held))

theorem extend_stays {a : Address} (held : region .blob a) (base64 : Value) :
    Remains region r (extend a base64) := by
  refine .store (.bind (.ofAny keeps _) fun mid wider more stays _ => ?_)
  have wider := stays.gains _ _ held
  have blob := stays.keeps.store.blobAt ⟨rfl,wider⟩
  exact .update stays.keeps wider (mid.store.putBlob_puts _ _) nofun (.blob ⟨blob.mediaType,rfl⟩)

end Blob
end PageRuntime
