import PageRuntime.Proofs.CaptureOnly
import PageRuntime.Proofs.RecordReading
import PageRuntime.Proofs.Regions

/-! What the records of a batch build, if nothing but these records is looked at. The value that a
batch has built is a value of the page or a new blob; either may be extended by later records. -/
namespace PageRuntime

/-- Whatever has contents within the value is an object of the store and of this part of it. -/
def Store.Covers (s : Store) (part : Region) (v : Value) : Prop :=
  ∀ w, s.Within v w → ∀ shelf a, w.spot? = some (shelf,a) →
    a < s.sizeOf shelf ∧ (shelf.isData = true → part shelf a)

theorem Store.Covers.member {s : Store} {part : Region} {v w : Value} (covers : s.Covers part v)
    (held : w ∈ s.members v) : s.Covers part w := fun u within => covers u (within.of_held held)

theorem Store.Covers.null (s : Store) (part : Region) : s.Covers part .null := by
  intro w within
  obtain rfl | ⟨u,held,-⟩ := within.first
  · rintro _ _ ⟨⟩
  · cases held

namespace ActionBatch

theorem Stage.building?_eq (stage : Stage) : stage.building? =
    (Action.ofRecord stage.runtime.store stage.record).toOption.filter fun action =>
      action.kind.canReturn && action.selector == some Action.returnSelector := by
  unfold Stage.building?
  cases Action.ofRecord stage.runtime.store stage.record with
  | error fault => rfl
  | ok action => rfl

theorem Stage.building_read {stage : Stage} {action : Action}
    (building : stage.building? = some action) :
    Action.ofRecord stage.runtime.store stage.record = .ok action ∧
      (action.kind.canReturn && action.selector == some Action.returnSelector) = true := by
  unfold Stage.building? at building
  split at building
  · next decoded =>
    split at building
    · next asked =>
      cases building
      exact ⟨decoded,asked⟩
    · cases building
  · cases building

/-- The value that a batch has built: a value of the page, or a new blob. -/
inductive Built
  | held (v : Value)
  | made (b : Blob)

/-- The value that a batch has built, beside the blobs of the page as they are by then. -/
structure Gathered where
  built : Built
  blobs : Table Blob

namespace Gathered

/-- The page with these blobs. -/
def page (base : Runtime) (g : Gathered) : Runtime :=
  { base with store := { base.store with blobs := g.blobs } }

/-- Octets go at the end of the blob that has been built, in the page or outside it. -/
def extend (base : Runtime) (g : Gathered) (more : List UInt8) : Option Gathered :=
  match g.built with
  | .made b => some ⟨.made { b with data := b.data ++ more },g.blobs⟩
  | .held (.blob a) =>
    let blob := (g.page base).store.blobAt a
    some ⟨.held (.blob a),g.blobs.set a { blob with data := blob.data ++ more }⟩
  | .held _ => none

/-- What an action on the return selector builds, unless it fails. -/
def capture (base : Runtime) (g : Gathered) (action : Action) : Option Gathered :=
  let octets := (Blob.octetsOf (g.page base).store action.base64).toOption
  match action.kind with
  | .setData => some ⟨.held action.data,g.blobs⟩
  | .blob => octets.map fun data => ⟨.made ⟨action.mediaType,data⟩,g.blobs⟩
  | .extendBlob => octets >>= g.extend base
  | .invalidate | .html => some g

/-- What is built after one more record. -/
def step (base : Runtime) (g : Gathered) (record : Value) : Gathered :=
  match (Stage.mk record .null (g.page base)).building? with
  | some action => (g.capture base action).getD g
  | none => g

end Gathered

/-- What the records build from nothing. -/
def gathered (base : Runtime) (records : List Value) : Gathered :=
  records.foldl (Gathered.step base) ⟨.held .null,base.store.blobs⟩

/-- The value is what was built: the value of the page itself, with nothing of it outside the part, or
a blob made since. -/
inductive Built.Is (part : Region) (base r : Runtime) : Built → Value → Prop
  | held {v : Value} (covers : base.store.Covers part v) : Is part base r (.held v) v
  | made {b : Blob} {a : Address} (new : base.store.sizeOf .blob ≤ a)
      (inside : a < r.store.sizeOf .blob) (same : r.store.blobAt a = b) :
      Is part base r (.made b) (.blob a)

namespace Built.Is

variable {part : Region} {base r after : Runtime} {known : Built} {v : Value}
  (is : known.Is part base r v)
include is

theorem inside {a : Address} (blob : v = .blob a)
    (sizes : base.store.sizeOf .blob ≤ r.store.sizeOf .blob) : a < r.store.sizeOf .blob := by
  subst blob
  cases is with
  | held covers => exact Nat.lt_of_lt_of_le (covers _ .self .blob a rfl).1 sizes
  | made new inside same => exact inside

theorem later (sizes : r.store.sizeOf .blob ≤ after.store.sizeOf .blob)
    (kept : ∀ a, v = .blob a → a < r.store.sizeOf .blob → after.store.blobAt a = r.store.blobAt a) :
    known.Is part base after v := by
  cases is with
  | held covers => exact .held covers
  | made new inside same =>
    exact .made new (Nat.lt_of_lt_of_le inside sizes) ((kept _ rfl inside).trans same)

end Built.Is

namespace Gathered

/-- The value is what was built, and this part of the page is as it was but for its blobs. -/
structure Shows (part : Region) (base : Runtime) (g : Gathered) (r : Runtime) (v : Value) : Prop where
  size : g.blobs.size = base.store.sizeOf .blob
  sizes : ∀ shelf, base.store.sizeOf shelf ≤ r.store.sizeOf shelf
  objects : ∀ shelf (a : Nat), a < base.store.sizeOf shelf → part shelf a →
    r.store.object shelf a = (g.page base).store.object shelf a
  built : g.built.Is part base r v

variable {part : Region} {base r : Runtime} {g : Gathered} {v : Value}

/-- Any other record builds nothing. -/
theorem step_idle {record : Value}
    (idle : (Stage.mk record .null (g.page base)).building? = none) : g.step base record = g := by
  simp only [Gathered.step,idle]

theorem page_mapping? (w : Value) :
    (g.page base).store.mapping? w = base.store.mapping? w := by
  cases w <;> rfl

namespace Shows

variable (shows : g.Shows part base r v)
include shows

theorem page_sizeOf (shelf : Shelf) :
    (g.page base).store.sizeOf shelf = base.store.sizeOf shelf := by
  cases shelf with
  | blob => exact shows.size
  | _ => rfl

/-- What lies within what the part covers reads as it does in the page. -/
theorem settled {u w : Value} (covers : base.store.Covers part u) (within : base.store.Within u w) :
    w.Settled (g.page base).store r.store := fun shelf a here data =>
  have ⟨inside,held⟩ := covers w within shelf a here
  shows.objects shelf a inside (held data)

theorem field_settled {record : Value} (covers : base.store.Covers part record) {d : Dict}
    (mapping : base.store.mapping? record = some d) (name : String) :
    (d.field name).Settled (g.page base).store r.store := by
  obtain none | held := Dict.field_member mapping name
  · rw [none]
    exact .null _ _
  · exact shows.settled covers (.member .self held)

theorem kind_settled {record : Value} (covers : base.store.Covers part record) {d : Dict}
    (mapping : base.store.mapping? record = some d) :
    Action.kindOf? r.store (Action.writtenKind d) =
      Action.kindOf? (g.page base).store (Action.writtenKind d) := by
  obtain none | held := Dict.either_member mapping "type" "kind"
  · rw [Action.writtenKind,none]
    exact (Value.Settled.null _ _).kindOf?
  · exact (shows.settled covers (.member .self held)).kindOf?

/-- The record is read as the same action in the page. -/
theorem ofRecord {record : Value} (covers : base.store.Covers part record) :
    (Action.ofRecord r.store record).toOption =
      (Action.ofRecord (g.page base).store record).toOption := by
  have same := (shows.settled covers .self).mapping?
  unfold Action.ofRecord
  cases mapping : (g.page base).store.mapping? record with
  | none =>
    rw [same,mapping]
    exact Yields.toOption_eq (.error _ _) (.error _ _)
  | some d =>
    rw [same,mapping]
    have mapping : base.store.mapping? record = some d := (page_mapping? record).symm.trans mapping
    have truth (name : String) := (shows.field_settled covers mapping name).isTrue
    have kind := shows.kind_settled covers mapping
    exact Yields.toOption_eq (Action.ofDict_yields_of_truth kind truth)
      (Action.ofDict_yields_of_truth kind.symm fun name => (truth name).symm)

theorem building? {record : Value} (covers : base.store.Covers part record) :
    (Stage.mk record v r).building? = (Stage.mk record .null (g.page base)).building? := by
  rw [Stage.building?_eq,Stage.building?_eq]
  exact congrArg (Option.filter _) (shows.ofRecord covers)

/-- A blob of its own leaves the page as it is. -/
theorem newBlob (b : Blob) : Shows part base ⟨.made b,g.blobs⟩
    { r with store := (r.store.newBlob b).2 } (r.store.newBlob b).1 := by
  have adds := r.store.newBlob_adds b
  have grew := Store.Grew.of_adds adds
  refine ⟨shows.size,fun shelf => ?_,fun shelf a inside held => ?_,?_⟩
  · exact Nat.le_trans (shows.sizes shelf) (grew.sizeOf_le shelf)
  · rw [(grew shelf a (Nat.lt_of_lt_of_le inside (shows.sizes shelf))).2]
    exact shows.objects shelf a inside held
  · refine .made (shows.sizes .blob) ?_ (Object.blob.inj adds.object)
    rw [adds.size]
    exact Nat.lt_succ_self _

/-- The blob that has been built is extended where it is. -/
theorem extend {a : Address} (blob : v = .blob a) (more : List UInt8) : ∃ after,
    g.extend base more = some after ∧ after.Shows part base { r with
      store := r.store.putBlob a { r.store.blobAt a with data := (r.store.blobAt a).data ++ more } }
        (.blob a) := by
  subst blob
  have puts := r.store.putBlob_puts a
    { r.store.blobAt a with data := (r.store.blobAt a).data ++ more }
  have sizes (shelf : Shelf) : base.store.sizeOf shelf ≤ (r.store.putBlob a
      { r.store.blobAt a with data := (r.store.blobAt a).data ++ more }).sizeOf shelf := by
    rw [puts.sizes]
    exact shows.sizes shelf
  have built := shows.built
  cases known : g.built with
  | held w =>
    rw [known] at built
    cases built with
    | held covers =>
      obtain ⟨inside,held⟩ := covers _ .self .blob a rfl
      have same : r.store.blobAt a = (g.page base).store.blobAt a :=
        Object.blob.inj (shows.objects .blob a inside (held rfl))
      have pagePuts := (g.page base).store.putBlob_puts a
        { r.store.blobAt a with data := (r.store.blobAt a).data ++ more }
      refine ⟨⟨.held (.blob a),g.blobs.set a
        { r.store.blobAt a with data := (r.store.blobAt a).data ++ more }⟩,?_,?_,sizes,?_,.held covers⟩
      · rw [Gathered.extend,known,same]
      · exact (pagePuts.sizes .blob).trans shows.size
      · intro shelf b within part
        by_cases here : shelf = .blob ∧ b = a
        · obtain ⟨rfl,rfl⟩ := here
          rw [puts.object (Nat.lt_of_lt_of_le inside (shows.sizes .blob))]
          exact (pagePuts.object (by rwa [shows.page_sizeOf])).symm
        · have apart := Classical.not_and_iff_not_or_not.mp here
          rw [puts.others shelf b apart]
          exact (shows.objects shelf b within part).trans (pagePuts.others shelf b apart).symm
  | made b =>
    rw [known] at built
    cases built with
    | made new inside same =>
      refine ⟨⟨.made { b with data := b.data ++ more },g.blobs⟩,?_,shows.size,sizes,?_,.made new ?_ ?_⟩
      · rw [Gathered.extend,known]
      · intro shelf c within part
        rw [puts.others shelf c ?_]
        · exact shows.objects shelf c within part
        · by_cases here : shelf = .blob
          · subst here
            exact .inr (Nat.ne_of_lt (Nat.lt_of_lt_of_le within new))
          · exact .inl here
      · rwa [puts.sizes]
      · rw [← same]
        exact Object.blob.inj (puts.object inside)

/-- Nothing but a blob that has been built can be extended. -/
theorem extend_none (other : ∀ a, v ≠ .blob a) (more : List UInt8) : g.extend base more = none := by
  have built := shows.built
  unfold Gathered.extend
  cases known : g.built with
  | held w =>
    rw [known] at built
    cases built with
    | held covers =>
      cases v with
      | blob a => exact absurd rfl (other a)
      | _ => rfl
  | made b =>
    rw [known] at built
    cases built with
    | made => exact absurd rfl (other _)

/-- An action on the return selector builds what it does in the page, or it fails. -/
theorem capture {action : Action}
    (data : action.kind = .setData → base.store.Covers part action.data)
    (base64 : action.base64.Settled (g.page base).store r.store) :
    (∃ fault, ActionBatch.capture action v r = (Act.fail fault : Act Value) r ∧
      g.capture base action = none) ∨
    ∃ w mid after, ActionBatch.capture action v r = (.done w,mid) ∧
      g.capture base action = some after ∧ after.Shows part base mid w := by
  have octets := base64.octetsOf
  unfold ActionBatch.capture Gathered.capture
  dsimp only
  cases kind : action.kind with
  | setData =>
    exact .inr ⟨_,r,_,rfl,rfl,shows.size,shows.sizes,shows.objects,.held (data kind)⟩
  | blob =>
    dsimp only
    rw [Blob.make,Step.bind_done (Act.store_run r),← octets]
    cases Blob.octetsOf r.store action.base64 with
    | error fault => exact .inl ⟨fault,rfl,rfl⟩
    | ok more => exact .inr ⟨_,_,_,rfl,rfl,shows.newBlob _⟩
  | extendBlob =>
    dsimp only
    cases v with
    | blob a =>
      dsimp only
      rw [Blob.extend,bind_assoc,Step.bind_done (Act.store_run r),← octets]
      cases Blob.octetsOf r.store action.base64 with
      | error fault => exact .inl ⟨fault,rfl,rfl⟩
      | ok more =>
        obtain ⟨after,extended,shows⟩ := shows.extend rfl more
        exact .inr ⟨_,_,after,rfl,extended,shows⟩
    | _ =>
      refine .inl ⟨_,rfl,?_⟩
      cases (Blob.octetsOf (g.page base).store action.base64).toOption with
      | none => rfl
      | some more => exact shows.extend_none (fun _ => Value.noConfusion) more
  | invalidate => exact .inr ⟨_,r,g,rfl,rfl,shows⟩
  | html => exact .inr ⟨_,r,g,rfl,rfl,shows⟩

/-- A record on the return selector builds what it does in the page, or it fails. -/
theorem step {record : Value} (covers : base.store.Covers part record) {action : Action}
    (building : (Stage.mk record v r).building? = some action) :
    (∃ fault, ActionBatch.capture action v r = (Act.fail fault : Act Value) r ∧
      g.capture base action = none ∧ g.step base record = g) ∨
    ∃ w mid, ActionBatch.capture action v r = (.done w,mid) ∧
      (∃ after, g.capture base action = some after) ∧ (g.step base record).Shows part base mid w := by
  have known := (shows.building? covers).symm.trans building
  obtain ⟨d,mapping,-,-,data,-,base64⟩ := Action.ofRecord_given (Stage.building_read known).1
  have mapping : base.store.mapping? record = some d := (page_mapping? record).symm.trans mapping
  have covered : base.store.Covers part action.data := by
    rw [data]
    obtain none | held := Dict.field_member mapping "data"
    · rw [none]
      exact .null _ _
    · exact covers.member held
  have settled := shows.field_settled covers mapping "blobbase64"
  rw [← base64] at settled
  obtain ⟨fault,failed,none⟩ | ⟨w,mid,after,ran,some,shows⟩ := shows.capture (fun _ => covered) settled
  · refine .inl ⟨fault,failed,none,?_⟩
    simp only [Gathered.step,known,none,Option.getD_none]
  · refine .inr ⟨w,mid,ran,⟨after,some⟩,?_⟩
    simpa only [Gathered.step,known,some,Option.getD_some] using shows

end Shows
end Gathered
end ActionBatch
end PageRuntime
