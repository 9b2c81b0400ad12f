import PageRuntime.Proofs.CaptureOnly
import PageRuntime.Proofs.LastingCopies
import PageRuntime.Proofs.PlainForms
import PageRuntime.Proofs.Sites

/-! Additions. Actions that add items at either end of the list at a site, or merge entries into the
mapping there, each put a new container in the place of the present one. What has been added so far are
copies of the payloads, which nothing else reaches, so a later action finds them as they were. -/
namespace PageRuntime

namespace Dict

theorem update_append (d e more : Dict) : d.update (e ++ more) = (d.update e).update more :=
  List.foldl_append

/-- What is written last under a key stays there. -/
theorem get?_update (d e : Dict) (key : Key) :
    (d.update e).get? key = (get? e.reverse key).or (d.get? key) := by
  induction e generalizing d with
  | nil => rfl
  | cons slot e ih =>
    have first : (d.insert slot.key slot.label slot.value).get? key =
        (get? [slot] key).or (d.get? key) := by
      by_cases same : slot.key = key
      · subst same
        rw [Runtime.get?_insert_self]
        simp [get?]
      · rw [Runtime.get?_insert_of_ne d same]
        simp [get?,same]
    rw [List.reverse_cons,get?_append,Option.or_assoc,← first]
    exact ih _

theorem update_nil {d : Dict} (once : (d.map (·.key)).Nodup) : update [] d = d := by
  suffices appended : ∀ before : Dict, ((before ++ d).map (·.key)).Nodup →
      before.update d = before ++ d from appended [] once
  unfold update
  clear once
  induction d with
  | nil => exact fun before _ => (List.append_nil before).symm
  | cons slot d ih =>
    intro before once
    have new : slot.key ∉ before.map (·.key) := by
      rw [List.map_append] at once
      exact fun member => (List.nodup_append.mp once).2.2 _ member _ List.mem_cons_self rfl
    rw [List.foldl_cons,insert_of_new new,ih _ (by rwa [List.append_assoc]),List.append_assoc]
    rfl

end Dict

/-- A setop beside what it brings. -/
structure Addition where
  setop : Setop
  value : Value

/-- What a location holds that is added to. -/
inductive Content
  | items (values : List Value)
  | entries (d : Dict)

namespace Content

/-- Items are added at the ends of a list, and mappings are merged. -/
def Admits (a : Addition) : Content → Prop
  | items _ => a.setop = .append ∨ a.setop = .prepend
  | entries _ => a.setop = .merge ∧ a.value.isMapping = true

/-- The content with additions: what is prepended stands in front, the latest first, what is appended
behind in order, and the entries of mappings are written over those there in order. -/
def extended (s : Store) (added : List Addition) : Content → Content
  | items values => items ((added.filter (·.setop = .prepend)).reverse.map (·.value) ++ values ++
      (added.filter (·.setop = .append)).map (·.value))
  | entries d => entries (d.update (added.flatMap fun a => s.entries a.value))

theorem extended_nil (s : Store) (content : Content) : content.extended s [] = content := by
  cases content with
  | items values => exact congrArg items (by simp)
  | entries d => rfl

theorem extended_item {s : Store} {added : List Addition} {content : Content} {values : List Value}
    (same : content.extended s added = items values) {b : Addition}
    (ends : b.setop = .append ∨ b.setop = .prepend) : content.extended s (added ++ [b]) =
      items (if b.setop == .append then values ++ [b.value] else b.value :: values) := by
  cases content with
  | items first =>
    obtain rfl := items.inj same
    refine congrArg items ?_
    obtain setop | setop := ends <;> simp [setop,List.filter_append]
  | entries d => cases same

theorem extended_entries {s : Store} {added : List Addition} {content : Content} {d : Dict}
    (same : content.extended s added = entries d) (b : Addition) :
    content.extended s (added ++ [b]) = entries (d.update (s.entries b.value)) := by
  cases content with
  | items first => cases same
  | entries first =>
    obtain rfl := entries.inj same
    refine congrArg entries ?_
    rw [List.flatMap_append,Dict.update_append,List.flatMap_singleton]

theorem extended_congr {s t : Store} {added : List Addition}
    (same : ∀ a ∈ added, t.entries a.value = s.entries a.value) (content : Content) :
    content.extended t added = content.extended s added := by
  cases content with
  | items values => rfl
  | entries d =>
    exact congrArg (fun e => entries (d.update e)) (List.flatMap_congr same)

end Content

namespace Store

variable {s t : Store} {v : Value}

/-- The value has the content. Null has that of an empty list and of an empty mapping. -/
def Carries (s : Store) (v : Value) : Content → Prop
  | .items values => (v = .null ∧ values = []) ∨ s.sequence? v = some values
  | .entries d => (v = .null ∧ d = []) ∨ s.mapping? v = some d

/-- The value is a list, or a dictionary, with the content. -/
def Houses (s : Store) (v : Value) : Content → Prop
  | .items values => ∃ a, v = .list a ∧ s.listAt a = values
  | .entries d => ∃ a, v = .dict a ∧ s.dictAt a = d

theorem Carries.kept {content : Content} (carries : s.Carries v content)
    (same : ∀ shelf a, v.spot? = some (shelf,a) → t.object shelf a = s.object shelf a) :
    t.Carries v content := by
  cases content with
  | items values =>
    refine carries.imp id fun held => ?_
    cases v <;> cases held
    · exact congrArg some (Object.items.inj (same .list _ rfl))
    · exact congrArg some (Object.items.inj (same .tuple _ rfl))
  | entries d =>
    refine carries.imp id fun held => ?_
    cases v <;> cases held
    · exact congrArg some (Object.entries.inj (same .dict _ rfl))
    · exact congrArg some (Object.entries.inj (same .frozen _ rfl))

theorem Houses.carries {content : Content} (houses : s.Houses v content) : s.Carries v content := by
  cases content with
  | items values =>
    obtain ⟨a,rfl,rfl⟩ := houses
    exact .inr rfl
  | entries d =>
    obtain ⟨a,rfl,rfl⟩ := houses
    exact .inr rfl

theorem Houses.plain {content : Content} (houses : s.Houses v content) (a : Address) : v ≠ .ref a := by
  cases content with
  | items values =>
    obtain ⟨b,rfl,-⟩ := houses
    exact Value.noConfusion
  | entries d =>
    obtain ⟨b,rfl,-⟩ := houses
    exact Value.noConfusion

theorem Houses.kept {content : Content} (houses : s.Houses v content)
    (same : ∀ shelf a, v.spot? = some (shelf,a) → t.object shelf a = s.object shelf a) :
    t.Houses v content := by
  cases content with
  | items values =>
    obtain ⟨a,rfl,rfl⟩ := houses
    exact ⟨a,rfl,Object.items.inj (same .list a rfl)⟩
  | entries d =>
    obtain ⟨a,rfl,rfl⟩ := houses
    exact ⟨a,rfl,Object.entries.inj (same .dict a rfl)⟩

end Store

namespace Runtime

variable {r mid after : Runtime} {name : String} {x z v w holder last : Value} {keys : List Segment}
  {content : Content} {asked made : List Addition} {a b : Addition}

/-- If the value can change, it is neither of the earlier runtime nor the holder. -/
structure Fresh (r : Runtime) (z : Value) (mid : Runtime) (u : Value) : Prop where
  inside : u.Inside mid.store
  apart : u.isMutable = true → ¬ u.Inside r.store ∧ u ≠ z

/-- All that lies within the value is fresh. -/
def Clear (r : Runtime) (z : Value) (mid : Runtime) (w : Value) : Prop :=
  ∀ u, mid.store.Within w u → r.Fresh z mid u

theorem Clear.again (clear : r.Clear z mid w) (intact : mid.store.Intact after.store w)
    (wider : ∀ shelf a, a < mid.store.sizeOf shelf → a < after.store.sizeOf shelf)
    (differ : ∀ u, u.Inside mid.store → u.isMutable = true → ¬ u.Inside r.store → u ≠ z → u ≠ holder) :
    r.Clear holder after w := by
  intro u within
  obtain ⟨inside,apart⟩ := clear u (intact.within_back within)
  refine ⟨fun shelf a here => wider shelf a (inside shelf a here),fun mutable => ?_⟩
  obtain ⟨later,notHolder⟩ := apart mutable
  exact ⟨later,differ u inside mutable later notHolder⟩

theorem Clear.intact (clear : r.Clear z mid w) (grew : mid.store.Grew after.store) :
    mid.store.Intact after.store w :=
  fun u within shelf a here => (grew shelf a ((clear u within).inside shelf a here)).2

theorem Clear.grew (clear : r.Clear z mid w) (grew : mid.store.Grew after.store) : r.Clear z after w :=
  clear.again (clear.intact grew) (fun shelf a inside => (grew shelf a inside).1)
    fun _ _ _ _ notHolder => notHolder

section

variable (site : r.Site name x keys)
include site

theorem Rehoused.differ (which : r.Rehoused x keys z holder mid) {u : Value} (inside : u.Inside mid.store)
    (mutable : u.isMutable = true) (later : ¬ u.Inside r.store) (notHolder : u ≠ z) : u ≠ holder := by
  rintro rfl
  obtain same | lands | lacks := which
  · exact notHolder same
  · exact later (site.landed lands).1
  · obtain ⟨shelf,a,here⟩ := Value.spot_of_isMutable mutable
    exact Nat.not_lt.mpr (lacks shelf a here) (inside shelf a here)

/-- What is fresh is not changed by a write. -/
theorem Fresh.kept {u : Value} (fresh : r.Fresh z mid u) (sited : r.Sited name x keys z v mid)
    (spared : r.Spared x keys z mid after) {shelf : Shelf} {a : Address} (here : u.spot? = some (shelf,a)) :
    after.store.object shelf a = mid.store.object shelf a := by
  refine (spared shelf a (fresh.inside shelf a here)).2 (fun c lands there => ?_) fun there => ?_
  · obtain ⟨earlier,mutable⟩ := site.landed lands
    obtain rfl := Value.spot_inj there here
    exact (fresh.apart mutable).1 earlier
  · obtain rfl := Value.spot_inj there here
    obtain rfl | mutable := sited.holder_mutable
    · cases here
    · exact (fresh.apart mutable).2 rfl

end

end Runtime

/-- The same setop with a copy of what the other brings. -/
structure Addition.Copied (s after : Store) (a b : Addition) : Prop where
  setop : b.setop = a.setop
  value : Store.Copied s after a.value b.value

namespace Runtime

variable {r mid after : Runtime} {name : String} {x z v w last : Value} {keys : List Segment}
  {content : Content} {asked made : List Addition} {a b : Addition} {path : Path}

/-- Copies of the additions have been brought to the site, where `v` was at first. -/
structure Collects (r : Runtime) (name : String) (x : Value) (keys : List Segment) (v : Value)
    (content : Content) (asked : List Addition) (mid : Runtime) (z last : Value) (made : List Addition) :
    Prop where
  sited : r.Sited name x keys z last mid
  inside : last.Inside mid.store
  copied : List.Forall₂ (Addition.Copied r.store mid.store) asked made
  clear : ∀ b ∈ made, r.Clear z mid b.value
  houses : (made = [] ∧ last = v) ∨ mid.store.Houses last (content.extended mid.store made)

theorem copied_kept (content : Content)
    (intact : ∀ b ∈ made, mid.store.Intact after.store b.value)
    (wider : ∀ shelf a, a < mid.store.sizeOf shelf → a < after.store.sizeOf shelf)
    (copied : List.Forall₂ (Addition.Copied r.store mid.store) asked made) :
    List.Forall₂ (Addition.Copied r.store after.store) asked made ∧
      content.extended after.store made = content.extended mid.store made := by
  constructor
  · obtain ⟨length,pairs⟩ := List.forall₂_iff_zip.mp copied
    refine List.forall₂_iff_zip.mpr ⟨length,fun {a b} pair => ?_⟩
    obtain ⟨setop,value⟩ := pairs pair
    exact ⟨setop,value.intact (fun _ _ _ _ _ => rfl) (intact b (List.of_mem_zip pair).2) (fun _ _ => id)
      wider⟩
  · refine Content.extended_congr (fun b member => ?_) content
    rw [Store.entries,((intact b member).settled .self).mapping?]
    rfl

section

variable (site : r.Site name x keys)
include site

theorem Site.collects (finds : r.store.Finds x keys v) :
    r.Collects name x keys v content [] r .null v [] where
  sited := site.sited finds
  inside := by
    obtain rfl | within := (site.finds_plain finds).1
    · exact fun _ _ here => by cases here
    · exact site.present within
  copied := .nil
  clear _ member := by cases member
  houses := .inl ⟨rfl,rfl⟩

theorem Collects.widens (collects : r.Collects name x keys v content asked mid z last made)
    (widens : mid.Widens after) : r.Collects name x keys v content asked after z last made := by
  obtain ⟨copied,same⟩ := copied_kept content
    (fun b member => (collects.clear b member).intact widens.store)
    (fun shelf a inside => (widens.store shelf a inside).1) collects.copied
  refine ⟨collects.sited.widens site widens,?_,copied,
    fun b member => (collects.clear b member).grew widens.store,collects.houses.imp id fun houses => ?_⟩
  · exact fun shelf a here => (widens.store shelf a (collects.inside shelf a here)).1
  · rw [same]
    exact houses.kept fun shelf a here => (widens.store shelf a (collects.inside shelf a here)).2

/-- A new container with the content is put at the site. -/
theorem set_collects (sited : r.Sited name x keys z last mid) (spells : path.Spells name keys)
    (copied : List.Forall₂ (Addition.Copied r.store mid.store) asked made)
    (clear : ∀ b ∈ made, r.Clear z mid b.value) (fresh : r.Fresh z mid w)
    (houses : mid.store.Houses w (content.extended mid.store made)) (scope : Address) : ∃ after holder,
    (Reference.Target.place scope path).set w mid = (.done (),after) ∧ after.registry = mid.registry ∧
      r.Collects name x keys v content asked after holder w made := by
  obtain ⟨after,holder,ran,registry,spared,later,which⟩ := Reference.setPathValue_sited
    (Reference.setWithin (Reference.depth mid.store)) site sited spells houses.plain scope
  have wider (shelf : Shelf) (a : Address) (inside : a < mid.store.sizeOf shelf) :=
    (spared shelf a inside).1
  have intact (b : Addition) (member : b ∈ made) : mid.store.Intact after.store b.value :=
    fun u within _ _ => (clear b member u within).kept site sited spared
  obtain ⟨copied,same⟩ := copied_kept content intact wider copied
  refine ⟨after,holder,ran,registry,later,?_,copied,fun b member => ?_,.inr ?_⟩
  · exact fun shelf a here => wider shelf a (fresh.inside shelf a here)
  · exact (clear b member).again (intact b member) wider fun u => which.differ site
  · rw [same]
    exact houses.kept fun _ _ => fresh.kept site sited spared

theorem Collects.carries (collects : r.Collects name x keys v content asked mid z last made)
    (finds : r.store.Finds x keys v) (carries : r.store.Carries v content) :
    mid.store.Carries last (content.extended mid.store made) := by
  obtain ⟨rfl,rfl⟩ | houses := collects.houses
  · rw [Content.extended_nil]
    exact carries.kept (collects.sited.intact site finds _ .self)
  · exact houses.carries

omit site in
theorem Sited.fresh (sited : r.Sited name x keys z v mid)
    (inside : w.Inside after.store) (new : mid.Lacks w) : r.Fresh z after w := by
  refine ⟨inside,fun mutable => ?_⟩
  obtain ⟨shelf,a,here⟩ := Value.spot_of_isMutable mutable
  have outside := Nat.not_lt.mpr (new shelf a here)
  refine ⟨fun earlier => outside (sited.kept shelf a (earlier shelf a here)).1,?_⟩
  rintro rfl
  exact outside (sited.holder_inside shelf a here)

/-- One addition more. -/
theorem Collects.set_again (collects : r.Collects name x keys v content asked mid z last made)
    (spells : path.Spells name keys) (copied : Addition.Copied r.store mid.store a b)
    (clear : r.Clear z mid b.value) (fresh : r.Fresh z mid w)
    (houses : mid.store.Houses w (content.extended mid.store (made ++ [b]))) (scope : Address) :
    ∃ after holder, (Reference.Target.place scope path).set w mid = (.done (),after) ∧
      after.registry = mid.registry ∧
      r.Collects name x keys v content (asked ++ [a]) after holder w (made ++ [b]) := by
  refine set_collects site collects.sited spells (List.rel_append collects.copied (.cons copied .nil))
    (fun c member => ?_) fresh houses scope
  obtain earlier | last := List.mem_append.mp member
  · exact collects.clear c earlier
  · obtain rfl := List.mem_singleton.mp last
    exact clear

/-- One addition more, in a container that is made for it. -/
theorem Collects.set_new (collects : r.Collects name x keys v content asked mid z last made)
    (spells : path.Spells name keys) (copied : Addition.Copied r.store mid.store a b)
    (clear : r.Clear z mid b.value) {s : Store} {shelf : Shelf} {o : Object}
    (adds : mid.store.Adds s shelf o) (here : w.spot? = some (shelf,mid.store.sizeOf shelf))
    (houses : s.Houses w (content.extended mid.store (made ++ [b]))) (scope : Address) :
    ∃ after holder, (Reference.Target.place scope path).set w { mid with store := s } = (.done (),after) ∧
      after.registry = mid.registry ∧
      r.Collects name x keys v content (asked ++ [a]) after holder w (made ++ [b]) := by
  have grew := Store.Grew.of_adds adds
  have widens : mid.Widens { mid with store := s } := ⟨grew,rfl,rfl,rfl⟩
  have placed {other : Shelf} {n : Address} (there : w.spot? = some (other,n)) :
      other = shelf ∧ n = mid.store.sizeOf shelf :=
    Prod.mk.inj (Option.some.inj (there.symm.trans here))
  have inside : w.Inside s := by
    intro other n there
    obtain ⟨rfl,rfl⟩ := placed there
    rw [adds.size]
    exact Nat.lt_succ_self _
  have new : mid.Lacks w := by
    intro other n there
    obtain ⟨rfl,rfl⟩ := placed there
    exact Nat.le_refl _
  have same : content.extended s (made ++ [b]) = content.extended mid.store (made ++ [b]) := by
    refine Content.extended_congr (fun c member => ?_) content
    have clear : r.Clear z mid c.value := by
      obtain earlier | last := List.mem_append.mp member
      · exact collects.clear c earlier
      · obtain rfl := List.mem_singleton.mp last
        exact clear
    exact grew.entries (clear c.value .self).inside
  exact (collects.widens site widens).set_again site spells ⟨copied.setop,copied.value.mono grew⟩
    (clear.grew grew) (collects.sited.fresh inside new) (same ▸ houses) scope

end

end Runtime

namespace Setop
open Reference (Target)

variable {r mid : Runtime} {name : String} {x z v last : Value} {keys : List Segment} {content : Content}
  {asked made : List Addition} {a b : Addition} {path : Path} (site : r.Site name x keys)
  (collects : r.Collects name x keys v content asked mid z last made) (spells : path.Spells name keys)
  (copied : Addition.Copied r.store mid.store a b) (clear : r.Clear z mid b.value) (scope : Address)
include site collects spells copied clear

omit site collects spells copied clear in
theorem applyNamed_name (setop : Setop) (target : Target) (value : Value) :
    applyNamed (.str setop.name) target value = setop.apply target value := by
  have known : ofName? setop.name = some setop := by cases setop <;> rfl
  unfold applyNamed
  dsimp only
  rw [known]

theorem addItem_collects {values : List Value} (carries : mid.store.Carries last (.items values))
    (same : content.extended mid.store made = .items values)
    (ends : b.setop = .append ∨ b.setop = .prepend) : ∃ after holder w,
    addItem (.place scope path) b.setop b.value mid = (.done (),after) ∧ after.registry = mid.registry ∧
      r.Collects name x keys v content (asked ++ [a]) after holder w (made ++ [b]) := by
  have listing := Content.extended_item same ends
  generalize listed : (if b.setop == .append then values ++ [b.value] else b.value :: values) = items
    at listing
  have adds := mid.store.newList_adds items
  have ran : addItem (.place scope path) b.setop b.value mid =
      (Target.place scope path).set (.list mid.store.lists.size)
        { mid with store := (mid.store.newList items).2 } := by
    have got := Target.get_done (collects.sited.reads site spells scope)
    rw [addItem,Step.bind_done got,Step.bind_done (Act.store_run mid)]
    obtain ⟨rfl,rfl⟩ | sequence := carries
    · have alone : items = [b.value] := by
        rw [← listed]
        exact ite_self [b.value]
      rw [alone]
      rfl
    · rw [sequence,← listed]
      cases last <;> cases sequence <;> rfl
  have houses : (mid.store.newList items).2.Houses (.list mid.store.lists.size)
      (content.extended mid.store (made ++ [b])) := by
    rw [listing]
    exact ⟨_,rfl,Object.items.inj adds.object⟩
  obtain ⟨after,holder,sets,registry,later⟩ :=
    collects.set_new site spells copied clear adds rfl houses scope
  exact ⟨after,holder,_,ran.trans sets,registry,later⟩

theorem mergeEntries_collects {d : Dict} (carries : mid.store.Carries last (.entries d))
    (same : content.extended mid.store made = .entries d) {n : Address} (dict : b.value = .dict n)
    (once : ((mid.store.dictAt n).map (·.key)).Nodup) : ∃ after holder w,
    mergeEntries (.place scope path) b.value mid = (.done (),after) ∧ after.registry = mid.registry ∧
      r.Collects name x keys v content (asked ++ [a]) after holder w (made ++ [b]) := by
  have merging := Content.extended_entries same b
  rw [dict] at merging
  have merging : content.extended mid.store (made ++ [b]) = .entries (d.update (mid.store.dictAt n)) :=
    merging
  have got := Target.get_done (collects.sited.reads site spells scope)
  rw [mergeEntries,Step.bind_done got,Step.bind_done (Act.store_run mid)]
  obtain ⟨rfl,rfl⟩ | mapping := carries
  · rw [Dict.update_nil once] at merging
    obtain ⟨after,holder,sets,registry,later⟩ := collects.set_again site spells copied clear
      (clear b.value .self) (by rw [merging,dict]; exact ⟨n,rfl,rfl⟩) scope
    exact ⟨after,holder,_,sets,registry,later⟩
  · have adds := mid.store.newDict_adds (d.update (mid.store.dictAt n))
    have houses : (mid.store.newDict (d.update (mid.store.dictAt n))).2.Houses (.dict mid.store.dicts.size)
        (content.extended mid.store (made ++ [b])) := by
      rw [merging]
      exact ⟨_,rfl,Object.entries.inj adds.object⟩
    obtain ⟨after,holder,sets,registry,later⟩ :=
      collects.set_new site spells copied clear adds rfl houses scope
    refine ⟨after,holder,_,?_,registry,later⟩
    rw [mapping,dict]
    cases last <;> cases mapping <;> exact sets

end Setop

/-- The action brings the addition to the location. -/
structure Action.Brings (action : Action) (name : String) (keys : List Segment) (a : Addition) : Prop where
  kind : action.kind = .setData
  place : ∃ path, Path.read (action.selector.getD "") = .ok path ∧ path.Spells name keys
  setop : action.setop = .str a.setop.name
  data : action.data = a.value

/-- What is brought has a copy that can be added, and a write at the location leaves it alone. -/
structure Runtime.Offers (r : Runtime) (x : Value) (keys : List Segment) (content : Content)
    (a : Addition) : Prop where
  proper : r.store.Proper a.value
  acyclic : ¬ r.store.Cyclic a.value
  aside : ∀ u, r.store.Within a.value u → ¬ r.store.Lands x keys u
  admits : content.Admits a

namespace ActionBatch
open Reference (Target)

variable {r mid : Runtime} {name : String} {x z v last : Value} {keys : List Segment} {content : Content}
  {asked made : List Addition} {a : Addition} (site : r.Site name x keys)
  (collects : r.Collects name x keys v content asked mid z last made) (offers : r.Offers x keys content a)
include site collects offers

omit site in
theorem copyOf_clear : ∃ base w, copyOf a.value mid = (.done w,base) ∧ mid.Grew base ∧
    Store.Copied r.store base.store a.value w ∧ r.Clear z base w ∧
      (a.value.isMapping = true → ∃ n, w = .dict n ∧ ((base.store.dictAt n).map (·.key)).Nodup) := by
  have wider (shelf : Shelf) (n : Address) (inside : n < r.store.sizeOf shelf) :=
    (collects.sited.kept shelf n inside).1
  have intact : r.store.Intact mid.store a.value := by
    intro u within shelf n here
    have inside := offers.proper.inside u within shelf n here
    refine (collects.sited.kept shelf n inside).2 fun c lands there => ?_
    obtain rfl := Value.spot_inj there here
    exact offers.aside c within lands
  have proper := intact.proper offers.proper wider
  obtain ⟨w,s,copies,grew,copied⟩ := Store.deepCopy_made proper (intact.acyclic offers.acyclic)
  have lasts := copied.intact intact (fun _ _ _ _ _ => rfl) wider (fun _ _ => id)
  refine ⟨{ mid with store := s },w,?_,⟨grew,rfl⟩,lasts,
    fun u within => ⟨copied.inside grew proper within,fun mutable => ?_⟩,copied.dict proper⟩
  · rw [copyOf,Step.bind_done (Act.store_run mid),copies]
    rfl
  · have new := copied.fresh grew proper within mutable
    refine ⟨fun earlier => new fun shelf n here => wider shelf n (earlier shelf n here),?_⟩
    rintro rfl
    exact new collects.sited.holder_inside

theorem applyData_collects (finds : r.store.Finds x keys v) (carries : r.store.Carries v content)
    {action : Action} (brings : action.Brings name keys a) (scope : Address) : ∃ after holder w b,
    applyData scope action mid = (.done (),after) ∧ after.registry = mid.registry ∧
      r.Collects name x keys v content (asked ++ [a]) after holder w (made ++ [b]) := by
  obtain ⟨path,read,spells⟩ := brings.place
  obtain ⟨base,w,copies,grew,copied,clear,dict⟩ := copyOf_clear collects offers
  have collects := collects.widens site grew.widens
  have carries := collects.carries site finds carries
  have copied : Addition.Copied r.store base.store a ⟨a.setop,w⟩ := ⟨rfl,copied⟩
  have ran : applyData scope action mid = a.setop.apply (.place scope path) w base := by
    have found : target scope action mid = (.done (.place scope path),mid) := by
      rw [target,read]
      rfl
    rw [applyData,Step.bind_done found,brings.data,Step.bind_done copies,brings.setop,
      Setop.applyNamed_name]
  rw [ran,← grew.registry]
  have admits := offers.admits
  generalize same : content.extended base.store made = present at carries
  cases content with
  | items first =>
    obtain rfl := same
    obtain ⟨after,holder,last,adds,registry,later⟩ :=
      Setop.addItem_collects site collects spells copied clear scope carries rfl admits
    refine ⟨after,holder,last,_,?_,registry,later⟩
    obtain setop | setop := admits <;> rw [setop] at adds ⊢ <;> exact adds
  | entries first =>
    obtain rfl := same
    obtain ⟨setop,mapping⟩ := admits
    obtain ⟨n,dict,once⟩ := dict mapping
    obtain ⟨after,holder,last,merges,registry,later⟩ :=
      Setop.mergeEntries_collects site collects spells copied clear scope carries rfl dict once
    refine ⟨after,holder,last,_,?_,registry,later⟩
    rw [setop]
    exact merges

end ActionBatch
end PageRuntime
