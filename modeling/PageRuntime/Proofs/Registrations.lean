import Mathlib.Data.List.Nodup
import PageRuntime.Registry

/-! The uses of a registry and what they leave in it. Registrations never come back: each gets a serial
number of its own, so that one that has been replaced or removed is not current again. While a batch
is open, what waits is told by the sweeps made so far and by what they selected. -/
namespace PageRuntime
namespace Registry

variable {g later : Registry} {r other : Registration} {l : List Registration}

theorem map_key_place (r : Registration) (l : List Registration) :
    (place r l).map (·.key) =
      if r.key ∈ l.map (·.key) then l.map (·.key) else l.map (·.key) ++ [r.key] := by
  induction l with
  | nil => rfl
  | cons first rest ih =>
    unfold place
    by_cases here : first.key = r.key
    · simp [here]
    · simp only [if_neg here,List.map_cons,ih,List.mem_cons,Ne.symm here,false_or]
      split <;> rfl

theorem nodup_place (nodup : (l.map (·.key)).Nodup) (r : Registration) :
    ((place r l).map (·.key)).Nodup := by
  rw [map_key_place]
  split
  · exact nodup
  · next absent => exact List.nodup_append_comm.mp (List.nodup_cons.mpr ⟨absent,nodup⟩)

theorem mem_place (nodup : (l.map (·.key)).Nodup) :
    other ∈ place r l ↔ other = r ∨ other ∈ l ∧ other.key ≠ r.key := by
  induction l with
  | nil => simp [place]
  | cons first rest ih =>
    obtain ⟨absent,nodup⟩ := List.nodup_cons.mp nodup
    unfold place
    by_cases here : first.key = r.key
    · have apart (member : other ∈ rest) : other.key ≠ r.key := fun same =>
        absent (List.mem_map.mpr ⟨other,member,same.trans here.symm⟩)
      rw [if_pos here,List.mem_cons,List.mem_cons]
      constructor
      · rintro (rfl | member)
        · exact .inl rfl
        · exact .inr ⟨.inr member,apart member⟩
      · rintro (rfl | ⟨rfl | member,differ⟩)
        · exact .inl rfl
        · exact absurd here differ
        · exact .inr member
    · rw [if_neg here,List.mem_cons,ih nodup,List.mem_cons]
      constructor
      · rintro (rfl | rfl | ⟨member,differ⟩)
        · exact .inr ⟨.inl rfl,here⟩
        · exact .inl rfl
        · exact .inr ⟨.inr member,differ⟩
      · rintro (rfl | ⟨rfl | member,differ⟩)
        · exact .inr (.inl rfl)
        · exact .inl rfl
        · exact .inr (.inr ⟨member,differ⟩)

/-- Registrations noted one after another, each in the place of one with its key. -/
def placeAll (l selected : List Registration) : List Registration :=
  selected.foldl (fun l r => place r l) l

theorem nodup_placeAll (selected : List Registration) (nodup : (l.map (·.key)).Nodup) :
    ((placeAll l selected).map (·.key)).Nodup := by
  induction selected generalizing l with
  | nil => exact nodup
  | cons first rest ih => exact ih (nodup_place nodup first)

theorem mem_placeAll {selected : List Registration} (nodup : (l.map (·.key)).Nodup)
    (apart : (selected.map (·.key)).Nodup) :
    other ∈ placeAll l selected ↔
      other ∈ selected ∨ other ∈ l ∧ other.key ∉ selected.map (·.key) := by
  induction selected generalizing l with
  | nil => simp [placeAll]
  | cons first rest ih =>
    obtain ⟨absent,apart⟩ := List.nodup_cons.mp apart
    refine (ih (nodup_place nodup first) apart).trans ?_
    rw [mem_place nodup,List.map_cons,List.mem_cons,List.mem_cons,not_or]
    constructor
    · rintro (member | ⟨rfl | ⟨member,differ⟩,missing⟩)
      · exact .inl (.inr member)
      · exact .inl (.inl rfl)
      · exact .inr ⟨member,differ,missing⟩
    · rintro ((rfl | member) | ⟨member,differ,missing⟩)
      · exact .inr ⟨.inl rfl,absent⟩
      · exact .inl member
      · exact .inr ⟨.inr ⟨member,differ⟩,missing⟩

theorem map_key_placeAll {selected : List Registration} (apart : (selected.map (·.key)).Nodup)
    (l : List Registration) : (placeAll l selected).map (·.key) =
      l.map (·.key) ++ (selected.map (·.key)).filter (· ∉ l.map (·.key)) := by
  induction selected generalizing l with
  | nil => simp [placeAll]
  | cons first rest ih =>
    obtain ⟨absent,apart⟩ := List.nodup_cons.mp apart
    refine (ih apart (place first l)).trans ?_
    rw [map_key_place]
    split
    · next known => rw [List.map_cons,List.filter_cons_of_neg (by simpa using known)]
    · next new =>
      have others : (rest.map (·.key)).filter (· ∉ l.map (·.key) ++ [first.key]) =
          (rest.map (·.key)).filter (· ∉ l.map (·.key)) := by
        refine List.filter_congr fun key member => ?_
        have differ : key ≠ first.key := by
          rintro rfl
          exact absent member
        simp [differ]
      rw [others,List.map_cons,List.filter_cons_of_pos (by simpa using new),List.append_assoc]
      rfl

/-- Each id is registered once, under a serial number of its own that has been given out. -/
structure Sound (g : Registry) : Prop where
  keys : (g.entries.map (·.key)).Nodup
  serials : ∀ r ∈ g.entries, ∀ other ∈ g.entries, other.serial = r.serial → other = r
  given : ∀ r ∈ g.entries, r.serial < g.nextSerial

/-- No batch is open and nothing waits. -/
structure Settled (g : Registry) : Prop where
  sound : g.Sound
  closed : g.depth = 0
  nothing : g.pending = []

theorem sound_empty : Sound empty where
  keys := List.nodup_nil
  serials := by simp [empty]
  given := by simp [empty]

namespace Sound

variable (sound : g.Sound)
include sound

theorem eq_of_key (member : r ∈ g.entries) (present : other ∈ g.entries)
    (same : other.key = r.key) : other = r := by
  exact List.inj_on_of_nodup_map sound.keys present member same

theorem find?_eq (member : r ∈ g.entries) : g.find? r.key = some r := by
  unfold find?
  cases found : g.entries.find? (·.key = r.key) with
  | none => simpa using List.find?_eq_none.mp found r member
  | some first =>
    have same := List.find?_some found
    exact congrArg some (sound.eq_of_key member (List.mem_of_find?_eq_some found) (by simpa using same))

theorem isCurrent_iff {past : Registration}
    (alone : ∀ entry ∈ g.entries, entry.serial = past.serial → entry = past) :
    g.isCurrent past = true ↔ past ∈ g.entries := by
  constructor
  · intro current
    unfold isCurrent at current
    cases found : g.find? past.key with
    | none => rw [found] at current; cases current
    | some entry =>
      rw [found] at current
      have member : entry ∈ g.entries := List.mem_of_find?_eq_some found
      exact alone entry member (by simpa using current) ▸ member
  · intro member
    unfold isCurrent
    rw [sound.find?_eq member]
    simp

end Sound

theorem mem_of_find? {key : Key} (found : g.find? key = some r) : r ∈ g.entries ∧ r.key = key :=
  ⟨List.mem_of_find?_eq_some found,by simpa using List.find?_some found⟩

/-- What was not registered at some time is registered later only under a serial number that had not
been given out. -/
structure Later (g later : Registry) : Prop where
  counts : g.nextSerial ≤ later.nextSerial
  news : ∀ r ∈ later.entries, r ∈ g.entries ∨ g.nextSerial ≤ r.serial

namespace Later

theorem refl (g : Registry) : g.Later g := ⟨Nat.le_refl _,fun _ member => .inl member⟩

theorem trans {between : Registry} (first : g.Later between) (second : between.Later later) :
    g.Later later := by
  refine ⟨Nat.le_trans first.counts second.counts,fun r member => ?_⟩
  obtain there | new := second.news r member
  · exact first.news r there
  · exact .inr (Nat.le_trans first.counts new)

theorem was (since : g.Later later) (member : r ∈ later.entries) (old : r.serial < g.nextSerial) :
    r ∈ g.entries :=
  (since.news r member).resolve_right (Nat.not_le.mpr old)

end Later

/-- A use of a registry while a batch is open. -/
inductive Use
  | register (key : Key) (id : Value) (query : String) (callback : Nat) (owner : Option Nat)
  | unregister (key : Key)
  | release (owner : Nat)
  | sweep (wanted : String → Bool)
  | enter
  | leave

/-- What a use makes of a registry in which a batch is open. -/
def use (g : Registry) : Use → Registry
  | .register key id query callback owner => g.add key id query callback owner
  | .unregister key => g.remove key
  | .release owner => { g with goneOwners := owner :: g.goneOwners }
  | .sweep wanted => g.postpone (g.select wanted)
  | .enter => { g with depth := g.depth + 1 }
  | .leave => { g with depth := g.depth - 1 }

def afterUses (g : Registry) (uses : List Use) : Registry := uses.foldl use g

/-- What a use selects. -/
def picked (g : Registry) : Use → List Registration
  | .sweep wanted => g.select wanted
  | _ => []

/-- A sweep adds ids that did not wait yet at the end, and an id that is unregistered waits no more. -/
def queued (g : Registry) (keys : List Key) : Use → List Key
  | .sweep wanted => keys ++ ((g.select wanted).map (·.key)).filter (· ∉ keys)
  | .unregister key => keys.filter (· ≠ key)
  | _ => keys

/-- What has been selected in the course of some uses. -/
def selected : Registry → List Use → List Registration
  | _, [] => []
  | g, use :: rest => g.picked use ++ selected (g.use use) rest

/-- The ids that wait after some uses, in the order in which they were first selected since they were
last unregistered. -/
def awaited : Registry → List Key → List Use → List Key
  | _, keys, [] => keys
  | g, keys, use :: rest => awaited (g.use use) (g.queued keys use) rest

theorem select_nodup (sound : g.Sound) (wanted : String → Bool) :
    ((g.select wanted).map (·.key)).Nodup :=
  sound.keys.sublist (List.filter_sublist.map _)

theorem Later.of_subset {g later : Registry} (counts : later.nextSerial = g.nextSerial)
    (fewer : later.entries ⊆ g.entries) : g.Later later :=
  ⟨Nat.le_of_eq counts.symm,fun _ member => .inl (fewer member)⟩

theorem Sound.of_sublist (sound : g.Sound) (counts : later.nextSerial = g.nextSerial)
    (fewer : later.entries.Sublist g.entries) : later.Sound where
  keys := sound.keys.sublist (fewer.map _)
  serials r member other present := sound.serials r (fewer.subset member) other (fewer.subset present)
  given r member := counts ▸ sound.given r (fewer.subset member)

section Adding

variable (key : Key) (id : Value) (query : String) (callback : Nat) (owner : Option Nat)

theorem mem_add (sound : g.Sound) (member : r ∈ (g.add key id query callback owner).entries) :
    r.serial = g.nextSerial ∨ r ∈ g.entries := by
  obtain rfl | ⟨old,-⟩ := (mem_place sound.keys).mp member
  · exact .inl rfl
  · exact .inr old

theorem add_later (sound : g.Sound) : g.Later (g.add key id query callback owner) := by
  refine ⟨Nat.le_succ _,fun r member => ?_⟩
  obtain new | old := mem_add key id query callback owner sound member
  · exact .inr (Nat.le_of_eq new.symm)
  · exact .inl old

theorem Sound.add (sound : g.Sound) : (g.add key id query callback owner).Sound where
  keys := nodup_place sound.keys _
  given r member := by
    obtain new | old := mem_add key id query callback owner sound member
    · exact Nat.lt_succ_of_le (Nat.le_of_eq new)
    · exact Nat.lt_succ_of_lt (sound.given r old)
  serials r member other present same := by
    obtain rfl | ⟨old,-⟩ := (mem_place sound.keys).mp member <;>
      obtain rfl | ⟨older,-⟩ := (mem_place sound.keys).mp present
    · rfl
    · exact absurd same (Nat.ne_of_lt (sound.given other older))
    · exact absurd same.symm (Nat.ne_of_lt (sound.given r old))
    · exact sound.serials r old other older same

end Adding

/-- A use of a sound registry leaves it sound, and brings nothing back. -/
theorem use_later (sound : g.Sound) : ∀ use : Use, g.Later (g.use use) ∧ (g.use use).Sound
  | .register .. => ⟨add_later _ _ _ _ _ sound,sound.add ..⟩
  | .unregister _ =>
    ⟨.of_subset rfl List.filter_sublist.subset,sound.of_sublist rfl List.filter_sublist⟩
  | .release _ => ⟨.of_subset rfl (List.Subset.refl _),sound.of_sublist rfl (.refl _)⟩
  | .sweep _ => ⟨.of_subset rfl (List.Subset.refl _),sound.of_sublist rfl (.refl _)⟩
  | .enter => ⟨.of_subset rfl (List.Subset.refl _),sound.of_sublist rfl (.refl _)⟩
  | .leave => ⟨.of_subset rfl (List.Subset.refl _),sound.of_sublist rfl (.refl _)⟩

/-- What waits is what was selected and has been neither replaced nor unregistered since, in the order
of the ids, and perhaps registrations that were replaced and not selected again. -/
structure Tracks (g : Registry) (chosen : List Registration) (keys : List Key) : Prop where
  sound : g.Sound
  order : g.pending.map (·.key) = keys
  nodup : keys.Nodup
  noted : ∀ r ∈ g.pending, r ∈ chosen
  waits : ∀ r ∈ chosen, r ∈ g.entries → r ∈ g.pending
  given : ∀ r ∈ chosen, r.serial < g.nextSerial
  alone : ∀ r ∈ chosen, ∀ entry ∈ g.entries, entry.serial = r.serial → entry = r

namespace Tracks

variable {chosen : List Registration} {keys : List Key} (tracks : g.Tracks chosen keys)
include tracks

theorem pending_nodup : (g.pending.map (·.key)).Nodup := tracks.order ▸ tracks.nodup

/-- A use that selects nothing and lets no id wait no longer. -/
theorem kept (since : g.Later later) (sound : later.Sound) (same : later.pending = g.pending) :
    later.Tracks chosen keys where
  sound := sound
  order := same ▸ tracks.order
  nodup := tracks.nodup
  noted := same ▸ tracks.noted
  waits r member current :=
    same ▸ tracks.waits r member (since.was current (tracks.given r member))
  given r member := Nat.lt_of_lt_of_le (tracks.given r member) since.counts
  alone r member entry present equal :=
    tracks.alone r member entry
      (since.was present (equal ▸ tracks.given r member)) equal

theorem unregister (key : Key) : (g.remove key).Tracks chosen (keys.filter (· ≠ key)) where
  sound := (use_later tracks.sound (.unregister key)).2
  order := by
    rw [← tracks.order,List.filter_map]
    rfl
  nodup := tracks.nodup.filter _
  noted r member := tracks.noted r (List.mem_filter.mp member).1
  waits r member current := by
    obtain ⟨current,other⟩ := List.mem_filter.mp current
    exact List.mem_filter.mpr ⟨tracks.waits r member current,other⟩
  given := tracks.given
  alone r member entry present := tracks.alone r member entry (List.mem_filter.mp present).1

theorem sweep (wanted : String → Bool) :
    (g.postpone (g.select wanted)).Tracks (chosen ++ g.select wanted)
      (keys ++ ((g.select wanted).map (·.key)).filter (· ∉ keys)) := by
  have apart := select_nodup tracks.sound wanted
  have mem {r : Registration} : r ∈ (g.postpone (g.select wanted)).pending ↔
      r ∈ g.select wanted ∨ r ∈ g.pending ∧ r.key ∉ (g.select wanted).map (·.key) :=
    mem_placeAll tracks.pending_nodup apart
  have entry {r : Registration} (member : r ∈ g.select wanted) : r ∈ g.entries :=
    (List.mem_filter.mp member).1
  have order : (g.postpone (g.select wanted)).pending.map (·.key) = _ :=
    map_key_placeAll apart g.pending
  rw [tracks.order] at order
  exact {
    sound := (use_later tracks.sound (.sweep wanted)).2
    order
    nodup := order ▸ nodup_placeAll _ tracks.pending_nodup
    noted := fun r member => by
      obtain now | ⟨before,-⟩ := mem.mp member
      · exact List.mem_append_right _ now
      · exact List.mem_append_left _ (tracks.noted r before)
    waits := fun r member current => by
      obtain before | now := List.mem_append.mp member
      · by_cases again : r ∈ g.select wanted
        · exact mem.mpr (.inl again)
        · refine mem.mpr (.inr ⟨tracks.waits r before current,fun taken => ?_⟩)
          obtain ⟨other,chosen,same⟩ := List.mem_map.mp taken
          exact again (tracks.sound.eq_of_key current (entry chosen) same ▸ chosen)
      · exact mem.mpr (.inl now)
    given := fun r member => by
      obtain before | now := List.mem_append.mp member
      · exact tracks.given r before
      · exact tracks.sound.given r (entry now)
    alone := fun r member => by
      obtain before | now := List.mem_append.mp member
      · exact tracks.alone r before
      · exact fun other present => tracks.sound.serials r (entry now) other present }

end Tracks

theorem Tracks.start (sound : g.Sound) (nothing : g.pending = []) : g.Tracks [] [] where
  sound := sound
  order := by rw [nothing]; rfl
  nodup := List.nodup_nil
  noted := by simp [nothing]
  waits := by simp
  given := by simp
  alone := by simp

theorem Tracks.use {chosen : List Registration} {keys : List Key} (tracks : g.Tracks chosen keys)
    (use : Use) : (g.use use).Tracks (chosen ++ g.picked use) (g.queued keys use) := by
  obtain ⟨since,sound⟩ := use_later tracks.sound use
  have still (same : (g.use use).pending = g.pending) : (g.use use).Tracks (chosen ++ []) keys := by
    rw [List.append_nil]
    exact tracks.kept since sound same
  cases use with
  | sweep wanted => exact tracks.sweep wanted
  | unregister key =>
    have fewer := tracks.unregister key
    rwa [← List.append_nil chosen] at fewer
  | _ => exact still rfl

/-- What waits after some uses, told by what their sweeps selected. -/
theorem Tracks.afterUses {chosen : List Registration} {keys : List Key} (uses : List Use)
    (tracks : g.Tracks chosen keys) :
    (g.afterUses uses).Tracks (chosen ++ g.selected uses) (g.awaited keys uses) := by
  induction uses generalizing g chosen keys with
  | nil =>
    show g.Tracks (chosen ++ []) keys
    rwa [List.append_nil]
  | cons use rest ih =>
    have onwards := ih (tracks.use use)
    rwa [List.append_assoc] at onwards

end Registry
end PageRuntime
