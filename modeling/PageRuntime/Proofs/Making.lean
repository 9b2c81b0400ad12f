import PageRuntime.Json.Load
import PageRuntime.Value.Copy

/-! Making values. A relation between stores that holds whenever one plain object comes into being
holds across copying a value and across reading a document, since both only put new objects around
what they made before. -/
namespace PageRuntime
namespace Store

variable {R : Store → Store → Prop} {α β : Type}

/-- The relation holds between a store and what it is with one more plain object. -/
structure Makes (R : Store → Store → Prop) : Prop where
  list : ∀ s items, R s (s.newList items).2
  tuple : ∀ s items, R s (s.newTuple items).2
  dict : ∀ s d, R s (s.newDict d).2
  blob : ∀ s b, R s (s.newBlob b).2

/-- A step that yields something leaves a store related to the one that it started from. -/
def Leads (R : Store → Store → Prop) (s : Store) (result : Except Fault (α × Store)) : Prop :=
  ∀ x after, result = .ok (x,after) → R s after

namespace Leads

theorem ok {s after : Store} (x : α) (related : R s after) : Leads R s (.ok (x,after)) := by
  intro y last ended
  cases ended
  exact related

theorem error (s : Store) (fault : Fault) : Leads R s (.error fault : Except Fault (α × Store)) := by
  intro y last ended
  cases ended

theorem bind [Trans R R R] {s : Store} {first : Except Fault (α × Store)}
    {next : α × Store → Except Fault (β × Store)} (leads : Leads R s first)
    (onwards : ∀ x mid, Leads R mid (next (x,mid))) : Leads R s (first >>= next) := by
  cases first with
  | error fault => exact error s fault
  | ok made => exact fun y last ended =>
      Trans.trans (leads made.1 made.2 rfl) (onwards made.1 made.2 y last ended)

end Leads

section Copying

variable [Std.Refl R] [Trans R R R]

theorem mapStore_leads {step : α → Store → Except Fault (β × Store)}
    (leads : ∀ x s, Leads R s (step x s)) : ∀ items s, Leads R s (mapStore step items s)
  | [], s => .ok _ (Std.Refl.refl s)
  | x :: rest, s => .bind (leads x s) fun _ mid =>
      .bind (mapStore_leads leads rest mid) fun _ last => .ok _ (Std.Refl.refl last)

variable (makes : Makes R)
include makes

theorem copyWithin_leads (fuel : Nat) : ∀ (active : List Value) (v : Value) (s : Store),
    Leads R s (copyWithin fuel active v s) := by
  induction fuel with
  | zero => exact fun _ _ s => .error s _
  | succ fuel ih =>
    intro active v s
    have items (values : List Value) :
        Leads R s (mapStore (copyWithin fuel (v :: active)) values s) :=
      mapStore_leads (ih _) values s
    have entries (d : Dict) :
        Leads R s (mapStore (mapSlot (copyWithin fuel (v :: active))) d s) :=
      mapStore_leads (fun slot s => show Leads R s (mapSlot _ slot s) from
        .bind (ih _ slot.value s) fun _ mid => .ok _ (Std.Refl.refl mid)) d s
    unfold copyWithin
    dsimp only
    split
    · exact .error s _
    · split
      · exact .bind (entries _) fun _ mid => .ok _ (makes.dict mid _)
      · exact .bind (entries _) fun _ mid => .ok _ (makes.dict mid _)
      · exact .bind (items _) fun _ mid => .ok _ (makes.list mid _)
      · split
        · exact .ok _ (Std.Refl.refl s)
        · exact .bind (items _) fun _ mid => .ok _ (makes.tuple mid _)
      · exact .ok _ (makes.blob s _)
      · exact .ok _ (Std.Refl.refl s)

theorem deepCopy_leads (s : Store) (v : Value) : Leads R s (s.deepCopy v) :=
  copyWithin_leads makes _ _ _ _

end Copying
end Store

namespace Json
open Store (Makes Leads)

variable {R : Store → Store → Prop} [Std.Refl R] [Trans R R R]

mutual

theorem Document.load_leads (makes : Makes R) : ∀ (document : Document) (s : Store),
    R s (document.load s).2
  | .null, s | .bool _, s | .int _, s | .float _, s | .str _, s => Std.Refl.refl s
  | .array items, s => Trans.trans (loadItems_leads makes items s) (makes.list _ _)
  | .object members, s => Trans.trans (loadMembers_leads makes members [] s) (makes.dict _ _)

theorem loadItems_leads (makes : Makes R) : ∀ (items : List Document) (s : Store),
    R s (loadItems items s).2
  | [], s => Std.Refl.refl s
  | item :: rest, s =>
    Trans.trans (Document.load_leads makes item s) (loadItems_leads makes rest _)

theorem loadMembers_leads (makes : Makes R) : ∀ (members : List (String × Document)) (d : Dict)
    (s : Store), R s (loadMembers members d s).2
  | [], _, s => Std.Refl.refl s
  | (_, member) :: rest, _, s =>
    Trans.trans (Document.load_leads makes member s) (loadMembers_leads makes rest _ _)

end

theorem load_leads (makes : Makes R) (text : String) (s : Store) : Leads R s (load text s) := by
  unfold load
  split
  · exact .ok _ (Document.load_leads makes _ s)
  · exact .error s _

end Json
end PageRuntime
