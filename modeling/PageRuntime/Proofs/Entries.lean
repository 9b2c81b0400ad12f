import PageRuntime.Proofs.Forks
import PageRuntime.Proofs.LostWrites

/-! Entries. Once a value has been entered in a container, its accessor reads as the value and all others
read as before, as long as none counts from the end; and what two such accessors lead to lies at two
positions among the members of the container. -/
namespace PageRuntime
open Reference (extended)

/-- The accessor does not count from the end. -/
def Segment.Counts (key : Segment) : Prop := ∀ place : Int, key = .index place → 0 ≤ place

theorem Backward.mono {keys more : List Segment} (fewer : keys ⊆ more) (back : Backward keys) :
    Backward more := by
  obtain ⟨place,member,negative⟩ := back
  exact ⟨place,fewer member,negative⟩

theorem not_backward_cons {key : Segment} {rest : List Segment} :
    ¬ Backward (key :: rest) ↔ key.Counts ∧ ¬ Backward rest := by
  constructor
  · intro forward
    refine ⟨?_,fun ⟨place,member,negative⟩ => forward ⟨place,.tail _ member,negative⟩⟩
    rintro place rfl
    exact Int.not_lt.mp fun negative => forward ⟨place,.head _,negative⟩
  · rintro ⟨counts,forward⟩ ⟨place,member,negative⟩
    obtain same | member := List.mem_cons.mp member
    · exact Int.not_lt.mpr (counts place same.symm) negative
    · exact forward ⟨place,member,negative⟩

theorem Segment.key_inj {key other : Segment} (same : key.key = other.key) : key = other := by
  cases key <;> cases other <;> cases same <;> rfl

theorem Dict.get_insert (d : Dict) (key other : Key) (label v : Value) :
    (d.insert key label v).get other = if other = key then v else d.get other := by
  split
  · next here =>
    rw [here,Dict.get,Runtime.get?_insert_self]
    rfl
  · next differ => rw [Dict.get,Runtime.get?_insert_of_ne d (Ne.symm differ)]; rfl

theorem Dict.get_at {d : Dict} {key : Key} (something : d.get key ≠ .null) :
    ∃ (n : Nat) (slot : Slot), d[n]? = some slot ∧ slot.key = key ∧ slot.value = d.get key := by
  unfold Dict.get Dict.get? at something ⊢
  cases found : d.find? (·.key = key) with
  | none =>
    rw [found] at something
    exact absurd rfl something
  | some slot =>
    obtain ⟨n,here⟩ := List.mem_iff_getElem?.mp (List.mem_of_find?_eq_some found)
    exact ⟨n,slot,here,by simpa using List.find?_some found,rfl⟩

theorem itemAt_held (items : List Value) (key : Segment) :
    itemAt items key = .null ∨ itemAt items key ∈ items := by
  cases key with
  | field name => exact .inl rfl
  | index place =>
    show Value.ofOption _ = .null ∨ Value.ofOption _ ∈ items
    cases found : (placeOf? items.length place).bind (items[·]?) with
    | none => exact .inl rfl
    | some v =>
      obtain ⟨n,-,here⟩ := Option.bind_eq_some_iff.mp found
      exact .inr (List.mem_of_getElem? here)

theorem itemAt_index (items : List Value) {place : Int} (counts : 0 ≤ place) :
    itemAt items (.index place) = Value.ofOption items[place.toNat]? := by
  rw [itemAt,placeOf?_counted counts]
  split
  · rfl
  · next outside => rw [List.getElem?_eq_none (Nat.le_of_not_lt outside)]; rfl

namespace Store

variable {s t : Store} {v z : Value} {key : Segment}

theorem written_at (items : List Value) {place other : Int} (counts : 0 ≤ place)
    (otherCounts : 0 ≤ other) : Value.ofOption (written items place v)[other.toNat]? =
      if other = place then v else Value.ofOption items[other.toNat]? := by
  have same : other = place ↔ other.toNat = place.toNat := by omega
  rw [written,placeOf?_counted counts]
  generalize place.toNat = n at same
  generalize other.toNat = m at same
  simp only [same]
  by_cases inside : n < items.length
  · rw [if_pos inside]
    dsimp only
    split
    · next here =>
      subst here
      rw [List.getElem?_set_self inside]
      rfl
    · next differ => rw [List.getElem?_set_ne (Ne.symm differ)]
  · rw [if_neg inside]
    dsimp only
    have gap : (items ++ List.replicate (n - items.length) Value.null).length = n := by
      rw [List.length_append,List.length_replicate]
      omega
    rw [extended,List.getElem?_append,gap]
    split
    · next before =>
      rw [if_neg (Nat.ne_of_lt before),List.getElem?_append]
      split
      · rfl
      · next beyond =>
        rw [List.getElem?_eq_none (Nat.le_of_not_lt beyond),List.getElem?_replicate]
        split <;> rfl
    · next beyond =>
      by_cases here : m = n
      · rw [if_pos here,here,Nat.sub_self]
        rfl
      · rw [if_neg here,List.getElem?_eq_none (by rw [List.length_singleton]; omega),
          List.getElem?_eq_none (by omega)]

theorem Enters.member {shelf : Shelf} {a : Address} {o : Object}
    (enters : s.Enters v (.value z) key shelf a o) (puts : s.Puts t shelf a o)
    (unbound : ∀ b, z ≠ .context b) (inside : a < s.sizeOf shelf) (counts : key.Counts)
    {other : Segment} (otherCounts : other.Counts) : t.member (.value z) other =
      if other = key then v else s.member (.value z) other := by
  have held := puts.object inside
  cases enters with
  | dict =>
    have held : t.dictAt a = _ := Object.entries.inj held
    simp only [Store.member,held,Dict.get_insert]
    refine if_congr ⟨Segment.key_inj,congrArg Segment.key⟩ rfl rfl
  | @list b place after =>
    have held : t.listAt a = _ := Object.items.inj held
    simp only [Store.member,held]
    cases other with
    | field name =>
      rw [if_neg (by simp)]
      rfl
    | index place' =>
      rw [itemAt_index _ (otherCounts _ rfl),itemAt_index _ (otherCounts _ rfl),
        written_at _ (counts _ rfl) (otherCounts _ rfl)]
      simp only [Segment.index.injEq]
  | binding shows =>
    obtain same | ⟨b,same,-⟩ := shows
    · cases same
    · exact absurd (Spot.value.inj same) (unbound b)

theorem itemAt_at {items : List Value} (counts : key.Counts) (something : itemAt items key ≠ .null) :
    ∃ n : Nat, key = .index n ∧ items[n]? = some (itemAt items key) := by
  cases key with
  | field name => exact absurd rfl something
  | index place =>
    have counts := counts place rfl
    rw [itemAt_index items counts] at something ⊢
    refine ⟨place.toNat,by rw [Int.toNat_of_nonneg counts],?_⟩
    cases here : items[place.toNat]? with
    | none =>
      rw [here] at something
      exact absurd rfl something
    | some v => rfl

/-- What an accessor leads to is held by the container, if it is anything. -/
theorem member_held (unbound : ∀ b, z ≠ .context b) (key : Segment) :
    s.member (.value z) key = .null ∨ s.member (.value z) key ∈ s.members z := by
  have entry (d : Dict) : d.get key.key = .null ∨ d.get key.key ∈ Dict.values d := by
    by_cases something : d.get key.key = .null
    · exact .inl something
    · obtain ⟨n,slot,here,-,value⟩ := Dict.get_at something
      exact .inr (List.mem_map.mpr ⟨slot,List.mem_of_getElem? here,value⟩)
  cases z with
  | context b => exact absurd rfl (unbound b)
  | dict b => exact entry _
  | frozen b => exact entry _
  | list b => exact itemAt_held _ key
  | tuple b => exact itemAt_held _ key
  | _ => exact .inl rfl

/-- What two accessors lead to lies at two positions. -/
theorem member_places (unbound : ∀ b, z ≠ .context b) {other : Segment} (differ : key ≠ other)
    (counts : key.Counts) (otherCounts : other.Counts) (something : s.member (.value z) key ≠ .null)
    (otherSomething : s.member (.value z) other ≠ .null) : ∃ m n : Nat, m ≠ n ∧
      (s.members z)[m]? = some (s.member (.value z) key) ∧
      (s.members z)[n]? = some (s.member (.value z) other) := by
  have items {items : List Value} (something : itemAt items key ≠ .null)
      (otherSomething : itemAt items other ≠ .null) : ∃ m n : Nat, m ≠ n ∧
        items[m]? = some (itemAt items key) ∧ items[n]? = some (itemAt items other) := by
    obtain ⟨m,first,here⟩ := itemAt_at counts something
    obtain ⟨n,second,there⟩ := itemAt_at otherCounts otherSomething
    refine ⟨m,n,?_,here,there⟩
    rintro rfl
    exact differ (first.trans second.symm)
  have entries {d : Dict} (something : d.get key.key ≠ .null)
      (otherSomething : d.get other.key ≠ .null) : ∃ m n : Nat, m ≠ n ∧
        (Dict.values d)[m]? = some (d.get key.key) ∧ (Dict.values d)[n]? = some (d.get other.key) := by
    obtain ⟨m,slot,here,first,value⟩ := Dict.get_at something
    obtain ⟨n,otherSlot,there,second,otherValue⟩ := Dict.get_at otherSomething
    refine ⟨m,n,?_,?_,?_⟩
    · rintro rfl
      cases here.symm.trans there
      exact differ (Segment.key_inj (first.symm.trans second))
    · rw [Dict.values,List.getElem?_map,here,← value]
      rfl
    · rw [Dict.values,List.getElem?_map,there,← otherValue]
      rfl
  cases z with
  | context b => exact absurd rfl (unbound b)
  | dict b => exact entries something otherSomething
  | frozen b => exact entries something otherSomething
  | list b => exact items something otherSomething
  | tuple b => exact items something otherSomething
  | _ => exact absurd rfl something

end Store
end PageRuntime
