/-! Things by name, in the order in which the names first came. Setting a name again keeps its
place. -/
namespace PageRuntime

abbrev Named (α : Type) := List (String × α)

namespace Named

variable {α : Type}

def set (name : String) (x : α) : Named α → Named α
  | [] => [(name, x)]
  | (other, y) :: rest => if other = name then (other, x) :: rest else (other, y) :: set name x rest

def ofList (pairs : List (String × α)) : Named α :=
  pairs.foldl (fun named (name, x) => set name x named) []

theorem lookup_set_self (name : String) (x : α) (named : Named α) :
    (set name x named).lookup name = some x := by
  induction named with
  | nil => simp [set]
  | cons pair rest ih =>
    obtain ⟨other, y⟩ := pair
    by_cases same : other = name
    · subst same
      simp [set]
    · have differ : (name == other) = false := by simpa using fun h => same h.symm
      simp [set, same, List.lookup_cons, differ, ih]

theorem lookup_set_of_ne {name other : String} (differ : other ≠ name) (x : α) (named : Named α) :
    (set name x named).lookup other = named.lookup other := by
  induction named with
  | nil =>
    have absent : (other == name) = false := by simpa using differ
    simp [set, List.lookup_cons, absent]
  | cons pair rest ih =>
    obtain ⟨first, y⟩ := pair
    by_cases same : first = name
    · subst same
      have absent : (other == first) = false := by simpa using differ
      simp [set, List.lookup_cons, absent]
    · by_cases here : (other == first) = true
      · simp [set, same, List.lookup_cons, here]
      · have miss : (other == first) = false := by simpa using here
        simp [set, same, List.lookup_cons, miss, ih]

end Named

end PageRuntime
