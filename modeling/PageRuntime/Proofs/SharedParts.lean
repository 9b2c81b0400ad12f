import PageRuntime.Proofs.Containment
import PageRuntime.Proofs.RegionWrites

/-! What copies and nodes share with the values that they are made from. A copy takes over what is not
copied, the keys of dictionaries and the media types of blobs; if these are of a region, the copy joins
the region, wherever the value itself lies. A node takes over the values of its plain form. -/
namespace PageRuntime

/-- A copy takes the value over as it is. -/
def Store.isShared (s : Store) : Value → Bool
  | .dict _ | .frozen _ | .list _ | .blob _ => false
  | .tuple a => (s.tupleAt a).isEmpty
  | _ => true

/-- What lies within the value is there, and a copy of the value shares nothing with it but scalars and
objects of the region. -/
structure Store.Lends (s : Store) (region : Region) (v : Value) : Prop where
  inside : ∀ w, s.Within v w → w.Inside s
  shared : ∀ w, s.Within v w → s.isShared w = true → w.In region
  entries : ∀ w d, s.Within v w → s.mapping? w = some d → ∀ slot ∈ d,
    slot.key.Alike region.link slot.key ∧ slot.label.In region
  blobs : ∀ a, s.Within v (.blob a) → (s.blobAt a).mediaType.In region

namespace Store.Lends

variable {s : Store} {region wider : Region} {v w : Value}

theorem mono (lends : s.Lends region v) (gains : ∀ shelf a, region shelf a → wider shelf a) :
    s.Lends wider v where
  inside := lends.inside
  shared w within here := (lends.shared w within here).mono (Region.link_le gains)
  entries w d within mapping slot member :=
    (lends.entries w d within mapping slot member).imp (Key.Alike.mono (Region.link_le gains))
      (Value.Alike.mono (Region.link_le gains))
  blobs a within := (lends.blobs a within).mono (Region.link_le gains)

theorem member (lends : s.Lends region v) (held : w ∈ s.members v) : s.Lends region w where
  inside u within := lends.inside u (within.of_held held)
  shared u within := lends.shared u (within.of_held held)
  entries u d within := lends.entries u d (within.of_held held)
  blobs a within := lends.blobs a (within.of_held held)

end Store.Lends

namespace Runtime

variable {α β : Type} {region wider : Region} {r mid after : Runtime}

theorem KeepsTo.members (keeps : r.KeepsTo region) {v w : Value} (held : v.In region)
    (member : w ∈ r.store.members v) : w.In region := by
  have items {values : List Value} (all : Values.Alike region.link values values)
      (member : w ∈ values) : w.In region := List.forall₂_same.mp all w member
  have entries {d : Dict} (all : d.Alike region.link d) (member : w ∈ Dict.values d) :
      w.In region := by
    obtain ⟨slot,here,rfl⟩ := List.mem_map.mp member
    exact (List.forall₂_same.mp all slot here).value
  cases held with
  | list linked => exact items (keeps.store.listAt linked) member
  | tuple linked => exact items (keeps.store.tupleAt linked) member
  | dict linked => exact entries (keeps.store.dictAt linked) member
  | frozen linked => exact entries (keeps.store.frozenAt linked) member
  | _ => cases member

theorem KeepsTo.inside_of (keeps : r.KeepsTo region) {v : Value} (held : v.In region) :
    v.Inside r.store := fun _ _ here => keeps.inside (held.spot here)

/-- What lies within a value after steps within a region did so before, or is of the region. -/
theorem SparesRest.within (spares : SparesRest region wider r after) {v w : Value}
    (inside : ∀ w, r.store.Within v w → w.Inside r.store) (within : after.store.Within v w) :
    w.In wider ∨ r.store.Within v w := by
  induction within with
  | self => exact .inr .self
  | @member outer inner _ held ih =>
    obtain joined | within := ih
    · exact .inl (spares.keeps.members joined held)
    · by_cases joined : outer.In region
      · exact .inl (spares.keeps.members (spares.held joined) held)
      · refine .inr (.member within ?_)
        rwa [Store.members_congr fun shelf a here => ?_] at held
        refine spares.same shelf a (inside outer within shelf a here) (.inl ?_) ?_
        · intro there
          refine joined (.of_spot fun other b found => ?_)
          obtain ⟨rfl,rfl⟩ := Prod.mk.inj (Option.some.inj (here.symm.trans found))
          exact there
        · rintro rfl
          cases outer <;> cases here
          cases held

/-- What a copy of a value shares is of the region still. -/
theorem SparesRest.lends (spares : SparesRest region wider r after) {v : Value}
    (lends : r.store.Lends region v) : after.store.Lends wider v := by
  have apart {w : Value} {shelf : Shelf} {a : Address} (within : r.store.Within v w)
      (here : w.spot? = some (shelf,a)) (notBlob : shelf ≠ .blob) :
      region shelf a ∨ after.store.object shelf a = r.store.object shelf a := by
    by_cases held : region shelf a
    · exact .inl held
    · exact .inr (spares.same shelf a (lends.inside w within shelf a here) (.inl held) notBlob)
  have store := spares.keeps.store
  constructor
  · intro w within
    obtain joined | within := spares.within lends.inside within
    · exact spares.keeps.inside_of joined
    · exact fun shelf a here => Nat.lt_of_lt_of_le (lends.inside w within shelf a here) (spares.sizes shelf)
  · intro w within whole
    obtain joined | within := spares.within lends.inside within
    · exact joined
    · cases w with
      | tuple a =>
        obtain held | same := apart within rfl nofun
        · exact .tuple ⟨rfl,spares.gains _ _ held⟩
        · have same : after.store.tupleAt a = r.store.tupleAt a := Object.items.inj same
          rw [Store.isShared,same] at whole
          exact spares.held (lends.shared _ within whole)
      | dict a => cases whole
      | frozen a => cases whole
      | list a => cases whole
      | blob a => cases whole
      | _ => exact spares.held (lends.shared _ within rfl)
  · intro w d within mapping slot member
    have joins (joined : w.In wider) : slot.key.Alike wider.link slot.key ∧ slot.label.In wider := by
      have all := store.mapping? joined
      rw [mapping] at all
      cases all with
      | some all =>
        have one := List.forall₂_same.mp all slot member
        exact ⟨one.key,one.label⟩
    obtain joined | within := spares.within lends.inside within
    · exact joins joined
    · have same (object : after.store.mapping? w = r.store.mapping? w) :
          slot.key.Alike wider.link slot.key ∧ slot.label.In wider := by
        rw [object] at mapping
        exact ((lends.mono spares.gains).entries w d within mapping slot member)
      cases w with
      | dict a =>
        obtain held | object := apart within rfl nofun
        · exact joins (.dict ⟨rfl,spares.gains _ _ held⟩)
        · exact same (congrArg some (Object.entries.inj object))
      | frozen a =>
        obtain held | object := apart within rfl nofun
        · exact joins (.frozen ⟨rfl,spares.gains _ _ held⟩)
        · exact same (congrArg some (Object.entries.inj object))
      | _ => cases mapping
  · intro a within
    obtain joined | within := spares.within lends.inside within
    · exact (store.blobAt ⟨rfl,joined.spot rfl⟩).mediaType
    · by_cases held : region .blob a
      · exact (store.blobAt ⟨rfl,spares.gains _ _ held⟩).mediaType
      · rw [spares.mediaTypes a (lends.inside _ within .blob a rfl) held]
        exact spares.held (lends.blobs a within)

/-- If the step yields something it has only made objects, all of them of the region. -/
def Obtains (region : Region) (has : Region → α → Prop) (r : Runtime)
    (result : Except Fault (α × Store)) : Prop :=
  ∀ x s, result = .ok (x,s) →
    ∃ wider, Stays region wider r { r with store := s } ∧ r.store.Grew s ∧ has wider x

namespace Obtains

variable {has : Region → α → Prop} {hasNext : Region → β → Prop}

theorem ok (keeps : r.KeepsTo region) {x : α} (here : has region x) :
    Obtains region has r (.ok (x,r.store)) := by
  rintro _ _ ⟨⟩
  exact ⟨region,.refl keeps,.refl _,here⟩

theorem error (fault : Fault) : Obtains region has r (.error fault) := by
  rintro _ _ ⟨⟩

theorem bind {result : Except Fault (α × Store)} {next : α × Store → Except Fault (β × Store)}
    (first : Obtains region has r result)
    (later : ∀ x s wider, Stays region wider r { r with store := s } → r.store.Grew s → has wider x →
      Obtains wider hasNext { r with store := s } (next (x,s))) :
    Obtains region hasNext r (result >>= next) := by
  intro y t ran
  obtain ⟨⟨x,s⟩,here,onwards⟩ := ok_of_bind ran
  obtain ⟨wider,stays,grew,held⟩ := first x s here
  obtain ⟨widest,further,more,there⟩ := later x s wider stays grew held y t onwards
  exact ⟨widest,stays.trans further,grew.trans more,there⟩

theorem make (keeps : r.KeepsTo region) {x : α} {s : Store} {shelf : Shelf} {o : Object}
    (adds : r.store.Adds s shelf o) (notScope : Shelf.scope ≠ shelf) (new : o.Alike region.link o)
    (here : has (region.add shelf (r.store.sizeOf shelf)) x) :
    Obtains region has r (.ok (x,s)) := by
  rintro _ _ ⟨⟩
  exact ⟨_,.of_adds keeps adds (keeps.store.ordered.of_adds adds notScope)
    (new.mono (Region.link_le fun _ _ => .inl)),.of_adds adds,here⟩

theorem mapStore (mono : ∀ region wider x, (∀ shelf a, region shelf a → wider shelf a) →
      has region x → has wider x)
    {step : β → Store → Except Fault (α × Store)} {given : List β} (keeps : r.KeepsTo region)
    (steps : ∀ x ∈ given, ∀ s wider, Stays region wider r { r with store := s } → r.store.Grew s →
      Obtains wider has { r with store := s } (step x s)) :
    Obtains region (fun region made => ∀ x ∈ made, has region x) r
      (Store.mapStore step given r.store) := by
  induction given generalizing region r with
  | nil => exact ok keeps fun _ member => (List.not_mem_nil member).elim
  | cons x rest ih =>
    refine bind (steps x List.mem_cons_self r.store region (.refl keeps) (.refl _)) ?_
    intro y s wider stays grew here
    refine bind (ih stays.keeps fun other member t widest further more =>
      steps other (List.mem_cons_of_mem _ member) t widest (stays.trans further) (grew.trans more)) ?_
    intro made t widest further _ all
    refine ok further.keeps fun z member => ?_
    obtain rfl | member := List.mem_cons.mp member
    · exact mono wider widest z further.gains here
    · exact all z member

end Obtains

/-- A copy joins the region that it shares something with. -/
theorem copyWithin_obtains {base : Store} (fuel : Nat) :
    ∀ {region : Region} {r : Runtime} {active : List Value} {v : Value}, base.Grew r.store →
      r.KeepsTo region → base.Lends region v →
        Obtains region (fun region copied => copied.In region) r
          (Store.copyWithin fuel active v r.store) := by
  induction fuel with
  | zero => exact fun _ _ _ => .error _
  | succ fuel ih =>
    intro region r active v grew keeps lends
    have present := lends.inside v .self
    have items {values : List Value} (all : ∀ w ∈ values, w ∈ base.members v) :
        Obtains region (fun region made => ∀ w ∈ made, w.In region) r
          (Store.mapStore (Store.copyWithin fuel (v :: active)) values r.store) :=
      .mapStore (fun _ _ _ gains held => held.mono (Region.link_le gains)) keeps
        fun w member s wider stays more => ih (grew.trans more) stays.keeps
          ((lends.member (all w member)).mono stays.gains)
    have entries {d : Dict} (mapping : base.mapping? v = some d) :
        Obtains region (fun region made => ∀ slot ∈ made, Slot.Alike region.link slot slot) r
          (Store.mapStore (Store.mapSlot (Store.copyWithin fuel (v :: active))) d r.store) := by
      refine .mapStore (fun _ _ _ gains held => ⟨held.key.mono (Region.link_le gains),
        held.label.mono (Region.link_le gains),held.value.mono (Region.link_le gains)⟩) keeps ?_
      intro slot member s wider stays more
      have held : slot.value ∈ base.members v := by
        rw [Store.members,mapping]
        exact List.mem_map_of_mem member
      refine .bind (ih (r := { r with store := s }) (grew.trans more) stays.keeps
        ((lends.member held).mono stays.gains)) fun copied t widest further _ joins => ?_
      obtain ⟨key,label⟩ := (lends.mono fun _ _ held => further.gains _ _ (stays.gains _ _ held)).entries
        v d .self mapping slot member
      exact .ok further.keeps ⟨key,label,joins⟩
    unfold Store.copyWithin
    dsimp only
    split
    · exact .error _
    · have whole (shared : base.isShared v = true) :
          Obtains region (fun region copied => copied.In region) r (.ok (v,r.store)) :=
        .ok keeps (lends.shared v .self shared)
      cases v with
      | dict a =>
        have same : r.store.dictAt a = base.dictAt a :=
          Object.entries.inj (grew .dict a (present .dict a rfl)).2
        dsimp only
        rw [same]
        refine .bind (entries rfl) fun d s wider stays _ all => ?_
        exact .make stays.keeps (s.newDict_adds d) (by decide) (.entries (List.forall₂_same.mpr all))
          (.dict ⟨rfl,.inr ⟨rfl,rfl⟩⟩)
      | frozen a =>
        have same : r.store.frozenAt a = base.frozenAt a :=
          Object.entries.inj (grew .frozen a (present .frozen a rfl)).2
        dsimp only
        rw [same]
        refine .bind (entries rfl) fun d s wider stays _ all => ?_
        exact .make stays.keeps (s.newDict_adds d) (by decide) (.entries (List.forall₂_same.mpr all))
          (.dict ⟨rfl,.inr ⟨rfl,rfl⟩⟩)
      | list a =>
        have same : r.store.listAt a = base.listAt a :=
          Object.items.inj (grew .list a (present .list a rfl)).2
        dsimp only
        rw [same]
        refine .bind (items fun _ => id) fun values s wider stays _ all => ?_
        exact .make stays.keeps (s.newList_adds values) (by decide) (.items (List.forall₂_same.mpr all))
          (.list ⟨rfl,.inr ⟨rfl,rfl⟩⟩)
      | tuple a =>
        have same : r.store.tupleAt a = base.tupleAt a :=
          Object.items.inj (grew .tuple a (present .tuple a rfl)).2
        dsimp only
        rw [same]
        split
        · next empty => exact whole empty
        · refine .bind (items fun _ => id) fun values s wider stays _ all => ?_
          exact .make stays.keeps (s.newTuple_adds values) (by decide)
            (.items (List.forall₂_same.mpr all)) (.tuple ⟨rfl,.inr ⟨rfl,rfl⟩⟩)
      | blob a =>
        have same : r.store.blobAt a = base.blobAt a :=
          Object.blob.inj (grew .blob a (present .blob a rfl)).2
        dsimp only
        rw [same]
        exact .make keeps (r.store.newBlob_adds _) (by decide) (.blob ⟨lends.blobs a .self,rfl⟩)
          (.blob ⟨rfl,.inr ⟨rfl,rfl⟩⟩)
      | _ => exact whole rfl

end Runtime

open PageRuntime.Act (Stays)

variable {region : Region} {r : Runtime} (keeps : r.KeepsTo region)
include keeps

theorem ActionBatch.copyOf_stays {v : Value} (lends : r.store.Lends region v) :
    Stays region (fun region copied => copied.In region) r (copyOf v) := by
  refine .store ?_
  intro ending after ran
  cases copies : r.store.deepCopy v with
  | error fault =>
    rw [copies] at ran
    exact Act.Stays.fail keeps fault ending after ran
  | ok made =>
    obtain ⟨copied,s⟩ := made
    rw [copies] at ran
    cases ran
    obtain ⟨wider,stays,-,joins⟩ :=
      Runtime.copyWithin_obtains _ (.refl _) keeps lends copied s copies
    refine ⟨wider,stays,?_⟩
    rintro _ ⟨⟩
    exact joins

omit keeps in
theorem List.exists_of_mem_mapM {α β : Type} {step : α → Option β} {xs : List α} {ys : List β}
    (ran : xs.mapM step = some ys) {y : β} (member : y ∈ ys) : ∃ x ∈ xs, step x = some y := by
  induction xs generalizing ys with
  | nil =>
    cases ran
    cases member
  | cons x rest ih =>
    rw [List.mapM_cons] at ran
    obtain ⟨first,here,ran⟩ := Option.bind_eq_some_iff.mp ran
    obtain ⟨others,there,ran⟩ := Option.bind_eq_some_iff.mp ran
    cases ran
    obtain rfl | member := List.mem_cons.mp member
    · exact ⟨x,List.mem_cons_self,here⟩
    · obtain ⟨other,among,step⟩ := ih there member
      exact ⟨other,List.mem_cons_of_mem _ among,step⟩

/-! What is looked up in values of a region to build a node. -/
namespace Runtime.KeepsTo

omit keeps in
theorem atom? {v : Value} (held : v.In region) {a : Atom} (found : Store.atom? v = some a) :
    a.Alike region.link a := by
  cases held with
  | float x =>
    unfold Store.atom? at found
    dsimp only at found
    split at found <;> cases found
    · exact .int _
    · exact .float _
  | bool truth => cases found; exact .int _
  | null => cases found; exact .null
  | int number => cases found; exact .int _
  | str text => cases found; exact .str _
  | bytes data => cases found; exact .bytes _
  | callable a => cases found; exact .identity (.callable a)
  | ref linked => cases found; exact .identity (.ref linked)
  | scope linked => cases found; exact .identity (.scope linked)
  | context linked => cases found; exact .identity (.context linked)
  | failure linked => cases found; exact .identity (.failure linked)
  | trail linked => cases found; exact .identity (.trail linked)
  | _ => cases found

omit keeps in
theorem parts {key : Key} (alike : key.Alike region.link key) :
    List.Forall₂ (KeyPart.Alike region.link) key.parts key.parts := by
  cases alike with
  | atom alike => exact .cons (.atom alike) .nil
  | compound alike => exact alike

theorem keyWithin (fuel : Nat) {v : Value} (held : v.In region) {key : Key}
    (found : r.store.keyWithin fuel v = some key) : key.Alike region.link key := by
  have atom {v : Value} (held : v.In region) {key : Key}
      (found : (Store.atom? v).map Key.atom = some key) : key.Alike region.link key := by
    obtain ⟨a,here,rfl⟩ := Option.map_eq_some_iff.mp found
    exact .atom (atom? held here)
  induction fuel generalizing v key with
  | zero => exact atom held found
  | succ fuel ih =>
    have compound {values : List Value} {start : KeyPart}
        (starts : start.Alike region.link start) (all : Values.Alike region.link values values)
        (found : (values.mapM (r.store.keyWithin fuel) >>= fun keys =>
          some (Key.compound (start :: (keys.flatMap Key.parts ++ [.close])))) = some key) :
        key.Alike region.link key := by
      obtain ⟨keys,each,same⟩ := Option.bind_eq_some_iff.mp found
      cases same
      have inner : ∀ key ∈ keys, key.Alike region.link key := by
        intro key member
        obtain ⟨v,given_,spelled⟩ := List.exists_of_mem_mapM each member
        exact ih (List.forall₂_same.mp all v given_) spelled
      refine .compound (.cons starts (List.rel_append (List.forall₂_same.mpr ?_) (.cons .close .nil)))
      intro part member
      obtain ⟨key,here,within⟩ := List.mem_flatMap.mp member
      exact List.forall₂_same.mp (parts (inner key here)) part within
    cases v with
    | tuple a => exact compound .openTuple (keeps.store.tupleAt ⟨rfl,held.spot rfl⟩) found
    | fset a => exact compound .openSet (keeps.store.fsetAt ⟨rfl,held.spot rfl⟩) found
    | _ => exact atom held found

theorem itemsOf {v : Value} (held : v.In region) {items : List Value}
    (found : r.store.itemsOf v = .ok items) : Values.Alike region.link items items := by
  have labels {d : Dict} (all : d.Alike region.link d) :
      Values.Alike region.link (Dict.labels d) (Dict.labels d) :=
    List.rel_map (fun _ _ one => one.label) all
  cases held with
  | list linked => cases found; exact keeps.store.listAt linked
  | tuple linked => cases found; exact keeps.store.tupleAt linked
  | fset linked => cases found; exact keeps.store.fsetAt linked
  | dict linked => cases found; exact labels (keeps.store.dictAt linked)
  | frozen linked => cases found; exact labels (keeps.store.frozenAt linked)
  | str text =>
    cases found
    exact List.forall₂_map_left_iff.mpr (List.forall₂_map_right_iff.mpr
      (List.forall₂_same.mpr fun _ _ => .str _))
  | bytes data =>
    cases found
    exact List.forall₂_map_left_iff.mpr (List.forall₂_map_right_iff.mpr
      (List.forall₂_same.mpr fun _ _ => .int _))
  | _ => cases found

theorem dictOfPairs {items : List Value} (all : Values.Alike region.link items items) {d more : Dict}
    (alike : d.Alike region.link d) (found : r.store.dictOfPairs d items = .ok more) :
    more.Alike region.link more := by
  induction items generalizing d with
  | nil =>
    cases found
    exact alike
  | cons item rest ih =>
    cases all with
    | cons one rest =>
      unfold Store.dictOfPairs at found
      obtain ⟨pair,listed,found⟩ := ok_of_bind found
      have pair_ := keeps.itemsOf one listed
      split at found
      · next label v =>
        obtain ⟨key,named,found⟩ := ok_of_bind found
        cases pair_ with
        | cons label pair_ =>
          cases pair_ with
          | cons v _ =>
            refine ih rest (Reference.insert_alike keeps.store.paired alike ?_ label v) found
            unfold Store.keyOf at named
            split at named
            · next spelled =>
              cases named
              exact keeps.keyWithin _ label spelled
            · cases named
      · cases found

theorem dictOrEmpty {v : Value} (held : v.In region) {d : Dict}
    (found : r.store.dictOrEmpty v = .ok d) : d.Alike region.link d := by
  unfold Store.dictOrEmpty at found
  split at found
  · unfold Store.dictOf at found
    split at found
    · next mapping =>
      cases found
      have all := keeps.store.mapping? held
      rw [mapping] at all
      cases all with
      | some all => exact all
    · obtain ⟨items,listed,found⟩ := ok_of_bind found
      exact keeps.dictOfPairs (keeps.itemsOf held listed) .nil found
  · cases found
    exact .nil

theorem listedChildren {d : Dict} (all : d.Alike region.link d) {children : List Value}
    (found : Node.listedChildren r.store d = .ok children) :
    Values.Alike region.link children children := by
  have given_ := Action.either_alike keeps.store all "list" "children"
  unfold Node.listedChildren at found
  dsimp only at found
  split at found
  · exact keeps.itemsOf given_ found
  · cases found
    exact .nil

end Runtime.KeepsTo

/-- A node is made of what its plain form holds, and a node stands for itself. -/
theorem Node.ofValueWithin_stays (fuel : Nat) {v : Value} (held : v.In region) :
    Stays region (fun region a => region .node a) r (ofValueWithin fuel v) := by
  induction fuel generalizing region r v with
  | zero => exact .fail keeps _
  | succ fuel ih =>
    unfold ofValueWithin
    split
    · contradiction
    · exact .pure keeps (held.spot rfl)
    · next v _ _ less same _ =>
      obtain rfl : fuel = less := Nat.succ.inj same
      refine .store (.bind (.ofAny keeps _) fun mid wider named stays _ => ?_)
      split
      · exact .fail stays.keeps _
      · cases mapping : r.store.mapping? v with
        | none => exact .fail stays.keeps _
        | some d =>
          have all := keeps.store.mapping? held
          rw [mapping] at all
          cases all with
          | some all =>
            have field (name : String) {widest : Region} (le : region.link.Le widest.link) :
                (d.field name).Alike widest.link (d.field name) :=
              (Dict.field_alike keeps.store.paired all name).mono le
            have listed : Stays wider (fun region children => ∀ v ∈ children, v.In region) mid
                (Act.ofExcept (listedChildren r.store d)) :=
              .ofExcept stays.keeps fun children found v member =>
                stays.held (List.forall₂_same.mp (keeps.listedChildren all found) v member)
            refine .bind listed fun last widest children further inside => ?_
            have mono (region wider : Region) (a : Address)
                (gains : ∀ shelf a, region shelf a → wider shelf a) (held : region .node a) :
                wider .node a := gains .node a held
            have builds : Stays widest (fun region made => ∀ a ∈ made, region .node a) last
                (children.mapM (ofValueWithin fuel)) :=
              .mapM mono further.keeps fun child member s all stays =>
                ih stays.keeps (stays.held (inside child member))
            refine .bind builds fun s more made onward nodes => ?_
            have le := (stays.le.trans further.le).trans onward.le
            have attributes : Stays more (fun region attrs => Dict.Alike region.link attrs attrs) s
                (Act.ofExcept (r.store.dictOrEmpty (d.field "attrs"))) :=
              .ofExcept onward.keeps fun attrs found =>
                Dict.Alike.mono le (keeps.dictOrEmpty (field "attrs" (.refl _)) found)
            refine .bind attributes fun t most attrs last all => ?_
            have le := le.trans last.le
            exact .make last.keeps (t.store.newNode_adds _) nofun (.node ⟨field "tag" le,all,
              List.forall₂_same.mpr fun a member => ⟨rfl,last.gains _ _ (nodes a member)⟩,
              field "style" le,field "text" le⟩) (.inr ⟨rfl,rfl⟩)

theorem Node.ofValue_stays {v : Value} (held : v.In region) :
    Stays region (fun region a => region .node a) r (ofValue v) :=
  .store (ofValueWithin_stays keeps _ held)

end PageRuntime
