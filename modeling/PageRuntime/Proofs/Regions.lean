import PageRuntime.Proofs.LikeActions

/-! Regions of a store. A runtime keeps to a region if its data roots, its document and the objects of
the region hold nothing but scalars and objects of the region. A step that starts from there stays
there, whichever way it ends: it changes no other object, and what it makes joins the region. -/
namespace PageRuntime

/-- Some of the objects of a store. -/
abbrev Region := Shelf → Address → Prop

namespace Region

/-- Pairs every object of the region with itself. -/
def link (region : Region) : Link := fun shelf a b => a = b ∧ region shelf a

/-- The region with one more object. -/
def add (region : Region) (shelf : Shelf) (a : Address) : Region :=
  fun other b => region other b ∨ (other = shelf ∧ b = a)

theorem link_add (region : Region) (shelf : Shelf) (a : Address) :
    (region.add shelf a).link = region.link.add shelf a a := by
  funext other b c
  refine propext ⟨?_,?_⟩
  · rintro ⟨rfl,held | ⟨rfl,rfl⟩⟩
    · exact .inl ⟨rfl,held⟩
    · exact .inr ⟨rfl,rfl,rfl⟩
  · rintro (⟨rfl,held⟩ | ⟨rfl,rfl,rfl⟩)
    · exact ⟨rfl,.inl held⟩
    · exact ⟨rfl,.inr ⟨rfl,rfl⟩⟩

theorem link_le {region wider : Region} (gains : ∀ shelf a, region shelf a → wider shelf a) :
    region.link.Le wider.link := fun shelf a _ linked => ⟨linked.1,gains shelf a linked.2⟩

end Region

/-- The value is a scalar or an object of the region. -/
def Value.In (region : Region) (v : Value) : Prop := v.Alike region.link v

/-- What is read is made of scalars and objects of the region. -/
def Spot.In (region : Region) (spot : Spot) : Prop := spot.Alike region.link spot

theorem Value.In.spot {region : Region} {v : Value} (held : v.In region) {shelf : Shelf}
    {a : Address} (here : v.spot? = some (shelf,a)) : region shelf a := by
  cases held <;> cases here <;> exact And.right ‹_›

theorem Value.In.of_spot {region : Region} {v : Value}
    (all : ∀ shelf a, v.spot? = some (shelf,a) → region shelf a) : v.In region := by
  cases v <;> constructor <;> exact ⟨rfl,all _ _ rfl⟩

theorem Agree.itself {α : Type} {rel : α → α → Prop} {result : Except Fault α}
    (agree : Agree rel result result) {x : α} (found : result = .ok x) : rel x x := by
  subst found
  cases agree with
  | ok related => exact related

/-- The kinds of objects that stay as they are once they are made. -/
def Shelf.isFixed : Shelf → Bool
  | tuple | frozen | fset | failure => true
  | _ => false

namespace Runtime

/-- The data roots, the document and the objects of the region hold nothing but scalars and objects of
the region. -/
def KeepsTo (region : Region) (r : Runtime) : Prop := r.Alike region.link r

theorem KeepsTo.inside {region : Region} {r : Runtime} (keeps : r.KeepsTo region) {shelf : Shelf}
    {a : Address} (held : region shelf a) : a < r.store.sizeOf shelf :=
  (keeps.store.inside shelf a a ⟨rfl,held⟩).1

/-- No object outside the region has changed, nor any that is fixed, and the wider region, which the
runtime keeps to now, has only gained objects that were made since. -/
structure Stays (region wider : Region) (r after : Runtime) : Prop where
  keeps : after.KeepsTo wider
  gains : ∀ shelf a, region shelf a → wider shelf a
  fresh : ∀ shelf (a : Nat), a < r.store.sizeOf shelf → wider shelf a → region shelf a
  same : ∀ shelf (a : Nat), a < r.store.sizeOf shelf → ¬ region shelf a ∨ shelf.isFixed = true →
    after.store.object shelf a = r.store.object shelf a
  sizes : ∀ shelf, r.store.sizeOf shelf ≤ after.store.sizeOf shelf

namespace Stays

variable {region wider widest : Region} {r mid after : Runtime}

theorem refl (keeps : r.KeepsTo region) : Stays region region r r where
  keeps := keeps
  gains _ _ := id
  fresh _ _ _ := id
  same _ _ _ _ := rfl
  sizes _ := Nat.le_refl _

theorem trans (first : Stays region wider r mid) (second : Stays wider widest mid after) :
    Stays region widest r after where
  keeps := second.keeps
  gains shelf a held := second.gains shelf a (first.gains shelf a held)
  fresh shelf a inside held :=
    first.fresh shelf a inside (second.fresh shelf a (Nat.lt_of_lt_of_le inside (first.sizes shelf)) held)
  same shelf a inside apart :=
    (second.same shelf a (Nat.lt_of_lt_of_le inside (first.sizes shelf))
      (apart.imp_left fun outside held => outside (first.fresh shelf a inside held))).trans
        (first.same shelf a inside apart)
  sizes shelf := Nat.le_trans (first.sizes shelf) (second.sizes shelf)

theorem le (stays : Stays region wider r after) : region.link.Le wider.link :=
  Region.link_le stays.gains

theorem held (stays : Stays region wider r after) {v : Value} (held : v.In region) : v.In wider :=
  Value.Alike.mono stays.le held

/-- What lies outside the region stays outside. -/
theorem outside (stays : Stays region wider r after) {shelf : Shelf} {a : Address}
    (inside : a < r.store.sizeOf shelf) (outside : ¬ region shelf a) : ¬ wider shelf a :=
  fun held => outside (stays.fresh shelf a inside held)

/-- A runtime with the same store and data. -/
theorem of_store (keeps : after.KeepsTo region) (store : after.store = r.store) :
    Stays region region r after where
  keeps := keeps
  gains _ _ := id
  fresh _ _ _ := id
  same _ _ _ _ := by rw [store]
  sizes _ := by rw [store]

theorem of_adds (keeps : r.KeepsTo region) {s : Store} {shelf : Shelf} {o : Object}
    (adds : r.store.Adds s shelf o) (ordered : s.Ordered)
    (new : o.Alike (region.add shelf (r.store.sizeOf shelf)).link o) :
    Stays region (region.add shelf (r.store.sizeOf shelf)) r { r with store := s } where
  keeps := by
    have le : region.link.Le (region.add shelf (r.store.sizeOf shelf)).link :=
      Region.link_le fun _ _ => .inl
    refine ⟨?_,keeps.roots.imp fun _ _ one => ⟨one.1,one.2.mono le⟩,le.option keeps.document,rfl⟩
    rw [Region.link_add] at new ⊢
    exact keeps.store.of_adds adds adds ordered ordered new
  gains _ _ := .inl
  fresh other a inside := by
    rintro (held | ⟨rfl,rfl⟩)
    · exact held
    · exact absurd inside (Nat.lt_irrefl _)
  same other a inside _ := (Store.Grew.of_adds adds other a inside).2
  sizes := Store.Grew.sizeOf_le (.of_adds adds)

theorem of_puts (keeps : r.KeepsTo region) {s : Store} {shelf : Shelf} {a : Address} {o : Object}
    (held : region shelf a) (puts : r.store.Puts s shelf a o) (notScope : Shelf.scope ≠ shelf)
    (loose : shelf.isFixed = false) (new : o.Alike region.link o) :
    Stays region region r { r with store := s } where
  keeps := ⟨keeps.store.of_puts ⟨rfl,held⟩ puts puts notScope new,keeps.roots,keeps.document,rfl⟩
  gains _ _ := id
  fresh _ _ _ := id
  same other b _ apart := by
    refine puts.others other b (Classical.not_and_iff_not_or_not.mp fun here => ?_)
    obtain ⟨rfl,rfl⟩ := here
    obtain outside | fixed := apart
    · exact outside held
    · rw [loose] at fixed
      cases fixed
  sizes other := Nat.le_of_eq (puts.sizes other).symm

end Stays

/-- As `Stays`, but blobs outside the region may hold other octets. -/
structure SparesRest (region wider : Region) (r after : Runtime) : Prop where
  keeps : after.KeepsTo wider
  gains : ∀ shelf a, region shelf a → wider shelf a
  fresh : ∀ shelf (a : Nat), a < r.store.sizeOf shelf → wider shelf a → region shelf a
  same : ∀ shelf (a : Nat), a < r.store.sizeOf shelf → ¬ region shelf a ∨ shelf.isFixed = true →
    shelf ≠ .blob → after.store.object shelf a = r.store.object shelf a
  mediaTypes : ∀ a : Nat, a < r.store.sizeOf .blob → ¬ region .blob a →
    (after.store.blobAt a).mediaType = (r.store.blobAt a).mediaType
  sizes : ∀ shelf, r.store.sizeOf shelf ≤ after.store.sizeOf shelf

theorem Stays.spares {region wider : Region} {r after : Runtime} (stays : Stays region wider r after) :
    SparesRest region wider r after where
  keeps := stays.keeps
  gains := stays.gains
  fresh := stays.fresh
  same shelf a inside apart _ := stays.same shelf a inside apart
  mediaTypes a inside outside :=
    congrArg Blob.mediaType (Object.blob.inj (stays.same .blob a inside (.inl outside)))
  sizes := stays.sizes

namespace SparesRest

variable {region wider widest : Region} {r mid after : Runtime}

theorem trans (first : SparesRest region wider r mid) (second : SparesRest wider widest mid after) :
    SparesRest region widest r after where
  keeps := second.keeps
  gains shelf a held := second.gains shelf a (first.gains shelf a held)
  fresh shelf a inside held :=
    first.fresh shelf a inside (second.fresh shelf a (Nat.lt_of_lt_of_le inside (first.sizes shelf)) held)
  same shelf a inside apart notBlob :=
    (second.same shelf a (Nat.lt_of_lt_of_le inside (first.sizes shelf))
      (apart.imp_left fun outside held => outside (first.fresh shelf a inside held)) notBlob).trans
        (first.same shelf a inside apart notBlob)
  mediaTypes a inside outside :=
    (second.mediaTypes a (Nat.lt_of_lt_of_le inside (first.sizes .blob))
      fun held => outside (first.fresh .blob a inside held)).trans (first.mediaTypes a inside outside)
  sizes shelf := Nat.le_trans (first.sizes shelf) (second.sizes shelf)

theorem held (spares : SparesRest region wider r after) {v : Value} (held : v.In region) : v.In wider :=
  Value.Alike.mono (Region.link_le spares.gains) held

/-- What lies outside the region stays outside. -/
theorem outside (spares : SparesRest region wider r after) {shelf : Shelf} {a : Address}
    (inside : a < r.store.sizeOf shelf) (outside : ¬ region shelf a) : ¬ wider shelf a :=
  fun held => outside (spares.fresh shelf a inside held)

end SparesRest

/-- A write outside the region is of no concern to it. -/
theorem KeepsTo.puts {region : Region} {r : Runtime} (keeps : r.KeepsTo region) {s : Store}
    {shelf : Shelf} {a : Address} {o : Object} (puts : r.store.Puts s shelf a o)
    (notScope : Shelf.scope ≠ shelf) (outside : ¬ region shelf a) :
    ({ r with store := s } : Runtime).KeepsTo region where
  store := by
    have ordered := keeps.store.ordered.of_puts puts notScope
    refine ⟨fun other b c linked => ?_,keeps.store.paired,fun other b c linked => ?_,ordered,ordered⟩
    · rw [puts.sizes]
      exact keeps.store.inside other b c linked
    · obtain ⟨rfl,held⟩ := linked
      have apart : other ≠ shelf ∨ b ≠ a := by
        rw [← Classical.not_and_iff_not_or_not]
        rintro ⟨rfl,rfl⟩
        exact outside held
      rw [puts.others other b apart]
      exact keeps.store.objects other b b ⟨rfl,held⟩
  roots := keeps.roots
  document := keeps.document
  surroundings := rfl

/-- What is made outside the region, and what it holds, is of no concern to it. -/
theorem KeepsTo.grew {region : Region} {r after : Runtime} (keeps : r.KeepsTo region)
    (grew : r.Grew after) (ordered : after.store.Ordered) : after.KeepsTo region where
  store := (keeps.store.of_grew grew.store ordered).of_grew_left grew.store ordered
  roots := by
    rw [grew.roots]
    exact keeps.roots
  document := by
    rw [grew.document]
    exact keeps.document
  surroundings := rfl

/-- A new blob that does not join the region. -/
theorem SparesRest.newBlob {region : Region} {r : Runtime} (keeps : r.KeepsTo region) (b : Blob) :
    SparesRest region region r { r with store := (r.store.newBlob b).2 } :=
  have adds := r.store.newBlob_adds b
  have grew : r.store.Grew (r.store.newBlob b).2 := .of_adds adds
  { keeps := keeps.grew ⟨grew,rfl⟩ (keeps.store.ordered.of_adds adds nofun)
    gains := fun _ _ => id
    fresh := fun _ _ _ => id
    same := fun shelf a inside _ _ => (grew shelf a inside).2
    mediaTypes := fun a inside _ => congrArg Blob.mediaType (Object.blob.inj (grew .blob a inside).2)
    sizes := grew.sizeOf_le }

/-- A blob outside the region that holds other octets. -/
theorem SparesRest.putBlob {region : Region} {r : Runtime} (keeps : r.KeepsTo region) {a : Address}
    (outside : ¬ region .blob a) (data : List UInt8) :
    SparesRest region region r { r with
      store := r.store.putBlob a { r.store.blobAt a with data := data } } := by
  have puts := r.store.putBlob_puts a { r.store.blobAt a with data := data }
  refine ⟨keeps.puts puts nofun outside,fun _ _ => id,fun _ _ _ => id,
    fun shelf b _ _ other => puts.others shelf b (.inl other),fun b inside _ => ?_,
    fun shelf => Nat.le_of_eq (puts.sizes shelf).symm⟩
  by_cases here : b = a
  · subst here
    exact (congrArg Blob.mediaType (Object.blob.inj (puts.object inside))).trans rfl
  · exact congrArg Blob.mediaType (Object.blob.inj (puts.others .blob b (.inr here)))

end Runtime

namespace Act

variable {α β : Type} {region : Region} {r : Runtime}

/-- Whichever way the step ends, nothing has changed outside the region; and if it ends with a value,
the value has to do with the region as it is then. -/
def Stays (region : Region) (has : Region → α → Prop) (r : Runtime) (act : Act α) : Prop :=
  ∀ ending after, act r = (ending,after) →
    ∃ wider, Runtime.Stays region wider r after ∧ ∀ x, ending = .done x → has wider x

/-- The step stays in the region and ends without a value. -/
abbrev Remains (region : Region) (r : Runtime) (act : Act Unit) : Prop :=
  Stays region (fun _ _ => True) r act

namespace Stays

variable {has : Region → α → Prop} {hasNext : Region → β → Prop}

theorem pure (keeps : r.KeepsTo region) {x : α} (here : has region x) :
    Stays region has r (Pure.pure x) := by
  rintro _ _ ⟨⟩
  refine ⟨region,.refl keeps,?_⟩
  rintro _ ⟨⟩
  exact here

theorem done (keeps : r.KeepsTo region) : Remains region r (Pure.pure ()) := pure keeps trivial

theorem bind {act : Act α} {next : α → Act β} (first : Stays region has r act)
    (later : ∀ mid wider x, Runtime.Stays region wider r mid → has wider x →
      Stays wider hasNext mid (next x)) : Stays region hasNext r (act >>= next) := by
  intro ending after ran
  rw [Step.bind_run] at ran
  cases began : act r with
  | mk result mid =>
    obtain ⟨wider,stays,here⟩ := first result mid began
    rw [began] at ran
    cases result with
    | done x =>
      obtain ⟨widest,further,there⟩ := later mid wider x stays (here x rfl) ending after ran
      exact ⟨widest,stays.trans further,there⟩
    | raised failure =>
      cases ran
      exact ⟨wider,stays,nofun⟩
    | exhausted =>
      cases ran
      exact ⟨wider,stays,nofun⟩

theorem store {next : Store → Act β} (later : Stays region hasNext r (next r.store)) :
    Stays region hasNext r (Act.store >>= next) := later

theorem read {next : Runtime → Act β} (later : Stays region hasNext r (next r)) :
    Stays region hasNext r (Step.read >>= next) := later

/-- Making an object of the region, or several things that hold it. -/
theorem make (keeps : r.KeepsTo region) {change : Store → α × Store} {shelf : Shelf} {o : Object}
    (adds : r.store.Adds (change r.store).2 shelf o) (notScope : Shelf.scope ≠ shelf)
    (new : o.Alike region.link o)
    (here : has (region.add shelf (r.store.sizeOf shelf)) (change r.store).1) :
    Stays region has r (Act.make change) := by
  rintro _ _ ⟨⟩
  refine ⟨_,.of_adds keeps adds (keeps.store.ordered.of_adds adds notScope)
    (new.mono (Region.link_le fun _ _ => .inl)),?_⟩
  rintro _ ⟨⟩
  exact here

theorem fail (keeps : r.KeepsTo region) (fault : Fault) : Stays region has r (Act.fail fault) := by
  intro ending after ran
  rw [Act.fail_run] at ran
  cases ran
  have adds := r.store.newFailure_adds ⟨fault,none,none⟩
  exact ⟨_,.of_adds keeps adds (keeps.store.ordered.of_adds adds nofun)
    (.failure ⟨rfl,.none,.none⟩),nofun⟩

theorem ofExcept (keeps : r.KeepsTo region) {result : Except Fault α}
    (yields : ∀ x, result = .ok x → has region x) : Stays region has r (Act.ofExcept result) := by
  cases result with
  | ok x => exact pure keeps (yields x rfl)
  | error fault => exact fail keeps fault

theorem ofAny (keeps : r.KeepsTo region) (result : Except Fault α) :
    Stays region (fun _ _ => True) r (Act.ofExcept result) := ofExcept keeps fun _ _ => trivial

theorem ofSpot (keeps : r.KeepsTo region) {result : Except Fault Spot}
    (agree : Agree (Spot.Alike region.link) result result) :
    Stays region (fun region spot => spot.In region) r (Act.ofExcept result) :=
  ofExcept keeps fun _ => agree.itself

theorem update (keeps : r.KeepsTo region) {change : Store → Store} {shelf : Shelf} {a : Address}
    {o : Object} (held : region shelf a) (puts : r.store.Puts (change r.store) shelf a o)
    (notScope : Shelf.scope ≠ shelf) (new : o.Alike region.link o)
    (loose : shelf.isFixed = false := by rfl) : Remains region r (Act.update change) := by
  rintro _ _ ⟨⟩
  exact ⟨region,.of_puts keeps held puts notScope loose new,fun _ _ => trivial⟩

theorem mapM (mono : ∀ region wider x, (∀ shelf a, region shelf a → wider shelf a) → has region x →
      has wider x) {step : β → Act α} {given : List β} (keeps : r.KeepsTo region)
    (steps : ∀ x ∈ given, ∀ mid wider, Runtime.Stays region wider r mid → Stays wider has mid (step x)) :
    Stays region (fun region made => ∀ x ∈ made, has region x) r (given.mapM step) := by
  induction given generalizing region r with
  | nil => exact pure keeps fun _ member => (List.not_mem_nil member).elim
  | cons x rest ih =>
    rw [List.mapM_cons]
    refine bind (steps x List.mem_cons_self r region (.refl keeps)) fun mid wider y stays here => ?_
    refine bind (ih stays.keeps fun other member last widest further =>
      steps other (List.mem_cons_of_mem _ member) last widest (stays.trans further))
      fun last widest made further all => pure further.keeps fun z member => ?_
    obtain rfl | member := List.mem_cons.mp member
    · exact mono wider widest z further.gains here
    · exact all z member

theorem newList (keeps : r.KeepsTo region) {items : List Value}
    (held : Values.Alike region.link items items) :
    Stays region (fun region v => v.In region) r (Act.make (·.newList items)) :=
  make keeps (r.store.newList_adds items) nofun (.items held) (.list ⟨rfl,.inr ⟨rfl,rfl⟩⟩)

theorem newDict (keeps : r.KeepsTo region) {d : Dict} (held : d.Alike region.link d) :
    Stays region (fun region v => v.In region) r (Act.make (·.newDict d)) :=
  make keeps (r.store.newDict_adds d) nofun (.entries held) (.dict ⟨rfl,.inr ⟨rfl,rfl⟩⟩)

theorem newBlob (keeps : r.KeepsTo region) {b : Blob} (held : b.mediaType.In region) :
    Stays region (fun region v => v.In region) r (Act.make (·.newBlob b)) :=
  make keeps (r.store.newBlob_adds b) nofun (.blob ⟨held,rfl⟩) (.blob ⟨rfl,.inr ⟨rfl,rfl⟩⟩)

theorem newContext (keeps : r.KeepsTo region) {scope : Address} (held : region .scope scope) :
    Stays region (fun region v => v.In region) r (Act.make (·.newContext scope)) :=
  make keeps (r.store.newContext_adds scope) nofun (.context ⟨rfl,held⟩)
    (.context ⟨rfl,.inr ⟨rfl,rfl⟩⟩)

end Stays
end Act
end PageRuntime
