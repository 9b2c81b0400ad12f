import Mathlib.Data.List.Nodup
import PageRuntime.Proofs.Layout
import PageRuntime.Proofs.Growth

/-! Places. A value lies at a place among the data roots if one comes to it from a root by going from
containers to their members; references, nodes, scopes and failures are not entered. That nothing
which can change lies at two places is a matter of which containers hold which. -/
namespace PageRuntime

theorem List.count_le_one_iff {α : Type} [DecidableEq α] {xs : List α} {x : α} :
    xs.count x ≤ 1 ↔ ∀ m n : Nat, xs[m]? = some x → xs[n]? = some x → m = n := by
  induction xs with
  | nil => simp
  | cons y rest ih =>
    rw [List.count_cons]
    constructor
    · intro most m n here there
      by_cases same : y = x
      · subst same
        have absent : rest.count y = 0 := by
          rw [beq_self_eq_true,if_pos rfl] at most
          omega
        have first (k : Nat) (found : (y :: rest)[k]? = some y) : k = 0 := by
          cases k with
          | zero => rfl
          | succ k =>
            have found : rest[k]? = some y := found
            exact absurd (List.mem_of_getElem? found) (List.count_eq_zero.mp absent)
        rw [first m here,first n there]
      · cases m with
        | zero => exact absurd (Option.some.inj here) same
        | succ m =>
          cases n with
          | zero => exact absurd (Option.some.inj there) same
          | succ n =>
            have most := Nat.le_of_add_right_le most
            exact congrArg Nat.succ (ih.mp most m n here there)
    · intro unique
      have restOnce := ih.mpr fun m n here there => Nat.succ.inj (unique (m + 1) (n + 1) here there)
      by_cases same : y = x
      · subst same
        have absent : y ∉ rest := by
          intro member
          obtain ⟨n,there⟩ := List.mem_iff_getElem?.mp member
          exact absurd (unique 0 (n + 1) rfl there) (Nat.zero_ne_add_one n)
        simp [List.count_eq_zero.mpr absent]
      · rw [if_neg (by simpa using same)]
        exact restOnce

namespace Value

/-- Lists, tuples, both kinds of mappings, and blobs. -/
def isContainer : Value → Bool
  | .list _ | .tuple _ | .dict _ | .frozen _ | .blob _ => true
  | _ => false

theorem isContainer_of_isMutable {v : Value} (mutable : v.isMutable = true) :
    v.isContainer = true := by
  cases v <;> first | rfl | cases mutable

end Value

namespace Store

theorem members_none {s : Store} {v : Value} (plain : v.isContainer = false) : s.members v = [] := by
  cases v <;> first | rfl | cases plain

/-- The containers among the members of a value. -/
def parts (s : Store) (v : Value) : List Value := (s.members v).filter (·.isContainer)

theorem holds_of_parts {s : Store} {v w : Value} (member : w ∈ s.parts v) : v.isContainer = true := by
  by_contra plain
  rw [Bool.not_eq_true] at plain
  rw [parts,members_none plain] at member
  cases member

/-- The containers of a store below some values. -/
def layout (s : Store) (tops : List Value) : Layout := ⟨tops.filter (·.isContainer),s.parts⟩

theorem layout_container {s : Store} {tops : List Value} {v : Value} (shown : (s.layout tops).Shows v) :
    v.isContainer = true := by
  cases shown with
  | top member => exact (List.mem_filter.mp member).2
  | under _ member => exact (List.mem_filter.mp member).2

theorem layout_bears {s : Store} {tops : List Value} {v : Value} (bears : (s.layout tops).Bears v) :
    v.isContainer = true := by
  cases bears with
  | itself mutable => exact v.isContainer_of_isMutable mutable
  | under member _ => exact holds_of_parts member

end Store

namespace Runtime

/-- The values among which the last position of a place chooses: the data roots, or the members of
the value at the place before. Places are written last position first. -/
def choices (r : Runtime) : List Nat → List Value
  | [] => r.roots.map (·.2)
  | n :: outer =>
    match (r.choices outer)[n]? with
    | some v => r.store.members v
    | none => []

def valueAt? (r : Runtime) : List Nat → Option Value
  | [] => none
  | n :: outer => (r.choices outer)[n]?

def Placed (r : Runtime) (v : Value) : Prop := ∃ place, r.valueAt? place = some v

/-- No list, dictionary or blob lies at two places. -/
def PlacedOnce (r : Runtime) : Prop := ∀ v one other, v.isMutable = true →
  r.valueAt? one = some v → r.valueAt? other = some v → one = other

/-- The containers below the data roots. -/
def layout (r : Runtime) : Layout := r.store.layout (r.roots.map (·.2))

variable {r : Runtime}

theorem choices_of_valueAt {place : List Nat} {v : Value} (here : r.valueAt? place = some v) :
    r.choices place = r.store.members v := by
  cases place with
  | nil => cases here
  | cons n outer =>
    have here : (r.choices outer)[n]? = some v := here
    rw [choices,here]

/-- What a place chooses among is held by the value there, or it is the top. -/
theorem choices_held (place : List Nat) (choosing : r.choices place ≠ []) :
    r.layout.held (r.valueAt? place) = (r.choices place).filter (·.isContainer) ∧
      (r.valueAt? place = none → place = []) := by
  cases here : r.valueAt? place with
  | some v =>
    rw [choices_of_valueAt here]
    exact ⟨rfl,nofun⟩
  | none =>
    cases place with
    | nil => exact ⟨rfl,fun _ => rfl⟩
    | cons n outer =>
      have here : (r.choices outer)[n]? = none := here
      rw [choices,here] at choosing
      exact absurd rfl choosing

theorem placed_iff {v : Value} (container : v.isContainer = true) : r.Placed v ↔ r.layout.Shows v := by
  constructor
  · rintro ⟨place,here⟩
    induction place generalizing v with
    | nil => cases here
    | cons n outer ih =>
      have here : (r.choices outer)[n]? = some v := here
      have member := List.mem_of_getElem? here
      obtain ⟨held,-⟩ := choices_held outer (List.ne_nil_of_mem member)
      have member : v ∈ r.layout.held (r.valueAt? outer) :=
        held ▸ List.mem_filter.mpr ⟨member,container⟩
      refine Layout.shows_of_held ?_ member
      cases above : r.valueAt? outer with
      | none => trivial
      | some u =>
        refine ih ?_ above
        by_contra plain
        rw [Bool.not_eq_true] at plain
        rw [choices_of_valueAt above,Store.members_none plain] at here
        cases here
  · intro shown
    clear container
    induction shown with
    | top member =>
      obtain ⟨n,here⟩ := List.mem_iff_getElem?.mp (List.mem_filter.mp member).1
      exact ⟨[n],here⟩
    | @under u w _ member ih =>
      obtain ⟨place,above⟩ := ih
      obtain ⟨n,here⟩ := List.mem_iff_getElem?.mp (List.mem_filter.mp member).1
      refine ⟨n :: place,?_⟩
      rw [valueAt?,choices_of_valueAt above]
      exact here

theorem open_place {h : Option Value} (holds : r.layout.Open h) : ∃ place, r.valueAt? place = h ∧
    r.layout.held h = (r.choices place).filter (·.isContainer) := by
  cases h with
  | none => exact ⟨[],rfl,rfl⟩
  | some u =>
    obtain ⟨place,here⟩ := (placed_iff (Store.layout_container holds)).mpr holds
    refine ⟨place,here,?_⟩
    rw [choices_of_valueAt here]
    rfl

/-- Below what bears lies something that can change, at one place seen from it. -/
theorem bears_place {v : Value} (bears : r.layout.Bears v) : ∃ below w, w.isMutable = true ∧
    ∀ place, r.valueAt? place = some v → r.valueAt? (below ++ place) = some w := by
  induction bears with
  | @itself v mutable => exact ⟨[],v,mutable,fun _ here => here⟩
  | @under v u member _ ih =>
    obtain ⟨below,w,mutable,leads⟩ := ih
    obtain ⟨n,chosen⟩ := List.mem_iff_getElem?.mp (List.mem_filter.mp member).1
    refine ⟨below ++ [n],w,mutable,fun place here => ?_⟩
    rw [List.append_assoc]
    refine leads (n :: place) ?_
    rw [valueAt?,choices_of_valueAt here]
    exact chosen

theorem PlacedOnce.of_bears (single : r.PlacedOnce) {v : Value} (bears : r.layout.Bears v)
    {one other : List Nat} (here : r.valueAt? one = some v) (there : r.valueAt? other = some v) :
    one = other := by
  obtain ⟨below,w,mutable,leads⟩ := bears_place bears
  exact List.append_cancel_left (single w _ _ mutable (leads one here) (leads other there))

theorem PlacedOnce.apart (single : r.PlacedOnce) : r.layout.Apart := by
  have chosen {h : Option Value} {place : List Nat} {v : Value}
      (held : r.layout.held h = (r.choices place).filter (·.isContainer))
      (member : 0 < (r.layout.held h).count v) : ∃ n, r.valueAt? (n :: place) = some v := by
    rw [held] at member
    exact List.mem_iff_getElem?.mp (List.mem_filter.mp (List.count_pos_iff.mp member)).1
  have once (h : Option Value) (v : Value) (holds : r.layout.Open h) (bears : r.layout.Bears v) :
      (r.layout.held h).count v ≤ 1 := by
    obtain ⟨place,-,held⟩ := open_place holds
    rw [held,List.count_filter (Store.layout_bears bears)]
    refine List.count_le_one_iff.mpr fun m n here there => ?_
    have here : r.valueAt? (m :: place) = some v := here
    have there : r.valueAt? (n :: place) = some v := there
    exact (List.cons.inj (single.of_bears bears here there)).1
  refine ⟨once,fun h k v differ holds other bears => ?_⟩
  by_contra both
  have first : 0 < (r.layout.held h).count v := by
    have most := once k v other bears
    omega
  have second : 0 < (r.layout.held k).count v := by
    have most := once h v holds bears
    omega
  obtain ⟨place,here,held⟩ := open_place holds
  obtain ⟨otherPlace,there,otherHeld⟩ := open_place other
  obtain ⟨m,found⟩ := chosen held first
  obtain ⟨n,foundToo⟩ := chosen otherHeld second
  obtain rfl := (List.cons.inj (single.of_bears bears found foundToo)).2
  exact differ (here.symm.trans there)

theorem PlacedOnce.of_apart (apart : r.layout.Apart) : r.PlacedOnce := by
  have unique (one : List Nat) : ∀ v other, r.layout.Bears v → r.valueAt? one = some v →
      r.valueAt? other = some v → one = other := by
    induction one with
    | nil => exact fun v other _ here _ => by cases here
    | cons m outer ih =>
      intro v other bears here there
      cases other with
      | nil => cases there
      | cons n otherOuter =>
        have container := Store.layout_bears bears
        have here : (r.choices outer)[m]? = some v := here
        have there : (r.choices otherOuter)[n]? = some v := there
        have member := List.mem_of_getElem? here
        have memberToo := List.mem_of_getElem? there
        obtain ⟨held,top⟩ := choices_held outer (List.ne_nil_of_mem member)
        obtain ⟨otherHeld,otherTop⟩ := choices_held otherOuter (List.ne_nil_of_mem memberToo)
        have counts : 0 < (r.layout.held (r.valueAt? outer)).count v := by
          rw [held,List.count_filter container]
          exact List.count_pos_iff.mpr member
        have countsToo : 0 < (r.layout.held (r.valueAt? otherOuter)).count v := by
          rw [otherHeld,List.count_filter container]
          exact List.count_pos_iff.mpr memberToo
        have opened (place : List Nat) (holds : 0 < (r.layout.held (r.valueAt? place)).count v) :
            r.layout.Open (r.valueAt? place) := by
          cases above : r.valueAt? place with
          | none => trivial
          | some u =>
            rw [above] at holds
            exact (placed_iff (Store.holds_of_parts (List.count_pos_iff.mp holds))).mp ⟨place,above⟩
        have sameHolder : r.valueAt? outer = r.valueAt? otherOuter := by
          by_contra differ
          have most := apart.alone _ _ v differ (opened outer counts) (opened otherOuter countsToo)
            bears
          omega
        have sameOuter : outer = otherOuter := by
          cases above : r.valueAt? outer with
          | none => rw [top above,otherTop (sameHolder ▸ above)]
          | some u =>
            rw [above] at counts
            exact ih u otherOuter (.under (List.count_pos_iff.mp counts) bears) above
              (sameHolder ▸ above)
        subst sameOuter
        have once := apart.once _ v (opened outer counts) bears
        rw [held,List.count_filter container] at once
        rw [List.count_le_one_iff.mp once m n here there]
  exact fun v one other mutable here there => unique one v other (.itself mutable) here there

/-! Places of one length at a time, which tell whether something lies at two places once they come
to an end. -/

def places (r : Runtime) : Nat → List (List Nat)
  | 0 => [[]]
  | n + 1 => (r.places n).flatMap fun outer => (List.range (r.choices outer).length).map (· :: outer)

theorem mem_places {place : List Nat} {v : Value} (here : r.valueAt? place = some v) :
    place ∈ r.places place.length := by
  induction place generalizing v with
  | nil => cases here
  | cons n outer ih =>
    have here : (r.choices outer)[n]? = some v := here
    obtain ⟨inside,-⟩ := List.getElem?_eq_some_iff.mp here
    refine List.mem_flatMap.mpr ⟨outer,?_,List.mem_map.mpr ⟨n,List.mem_range.mpr inside,rfl⟩⟩
    cases outer with
    | nil => exact List.mem_singleton.mpr rfl
    | cons m further =>
      cases above : r.valueAt? (m :: further) with
      | some u => exact ih above
      | none =>
        have above : (r.choices further)[m]? = none := above
        rw [choices,above] at inside
        cases inside

theorem places_ended {n : Nat} (ended : r.places n = []) {more : Nat} (later : n ≤ more) :
    r.places more = [] := by
  induction later with
  | refl => exact ended
  | step _ ih => rw [places,ih,List.flatMap_nil]

theorem listed_place {n : Nat} (ended : r.places n = []) {place : List Nat} {v : Value}
    (here : r.valueAt? place = some v) : place ∈ (List.range n).flatMap r.places := by
  have member := mem_places here
  refine List.mem_flatMap.mpr ⟨place.length,List.mem_range.mpr ?_,member⟩
  refine Nat.lt_of_not_le fun beyond => ?_
  rw [places_ended ended beyond] at member
  cases member

theorem not_placed_of_places {n : Nat} (ended : r.places n = []) {v : Value}
    (absent : some v ∉ ((List.range n).flatMap r.places).map r.valueAt?) : ¬ r.Placed v :=
  fun ⟨_,here⟩ => absent (List.mem_map.mpr ⟨_,listed_place ended here,here⟩)

theorem PlacedOnce.of_places {n : Nat} (ended : r.places n = []) (once : ((((List.range n).flatMap
    r.places).filter fun place => (r.valueAt? place).any (·.isMutable)).map r.valueAt?).Nodup) :
    r.PlacedOnce := by
  intro v one other mutable here there
  have listed {place : List Nat} (here : r.valueAt? place = some v) :
      place ∈ ((List.range n).flatMap r.places).filter fun place =>
        (r.valueAt? place).any (·.isMutable) := by
    refine List.mem_filter.mpr ⟨listed_place ended here,?_⟩
    rw [here]
    exact mutable
  exact List.inj_on_of_nodup_map once (listed here) (listed there) (here.trans there.symm)

end Runtime
end PageRuntime
