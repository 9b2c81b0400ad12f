import Mathlib.Data.List.Nodup
import Mathlib.Data.List.Perm.Subperm
import PageRuntime.Event

/-! The scope that handles an event. The search goes from boundary to boundary and asks each for a
handler; here it is told by the lineage of a scope alone: the nearest scope that claims the event,
unless the event does not bubble and something nearer holds it back. -/
namespace PageRuntime

namespace Store

/-- A scope and its ancestors, nearest first, up to one that has no parent. -/
inductive Lineage (s : Store) : Address → List Address → Prop
  | top {a : Address} (last : (s.scopeAt a).parent = none) : Lineage s a [a]
  | under {a parent : Address} {above : List Address} (next : (s.scopeAt a).parent = some parent)
      (rest : Lineage s parent above) : Lineage s a (a :: above)

namespace Lineage

variable {s : Store} {a : Address} {line : List Address}

theorem unique (lineage : s.Lineage a line) {other : List Address} (again : s.Lineage a other) :
    line = other := by
  induction lineage generalizing other with
  | top last =>
    cases again with
    | top => rfl
    | under next => simp [last] at next
  | under next rest ih =>
    cases again with
    | top last => simp [last] at next
    | under nextAgain restAgain =>
      rw [next] at nextAgain
      obtain rfl := Option.some.inj nextAgain
      rw [ih restAgain]

theorem within (lineage : s.Lineage a line) {b : Address} (member : b ∈ line) :
    ∃ rest, s.Lineage b rest ∧ rest <:+ line := by
  induction lineage with
  | top last =>
    obtain rfl := List.mem_singleton.mp member
    exact ⟨_,.top last,List.suffix_rfl⟩
  | under next rest ih =>
    obtain rfl | member := List.mem_cons.mp member
    · exact ⟨_,.under next rest,List.suffix_rfl⟩
    · obtain ⟨tail,lineage,suffix⟩ := ih member
      exact ⟨tail,lineage,suffix.trans (List.suffix_cons _ _)⟩

theorem nodup (lineage : s.Lineage a line) : line.Nodup := by
  induction lineage with
  | top => exact List.nodup_singleton _
  | @under a parent above next rest ih =>
    refine List.nodup_cons.mpr ⟨fun again => ?_,ih⟩
    obtain ⟨tail,lineage,suffix⟩ := rest.within again
    have same := lineage.unique (.under next rest)
    have shorter := suffix.length_le
    rw [same] at shorter
    exact Nat.not_succ_le_self _ shorter

theorem chainWithin_eq (lineage : s.Lineage a line) {fuel : Nat} (enough : line.length ≤ fuel) :
    s.chainWithin fuel a = line := by
  induction lineage generalizing fuel with
  | top last =>
    cases fuel with
    | zero => simp at enough
    | succ fuel => simp [chainWithin,last]
  | under next rest ih =>
    cases fuel with
    | zero => simp at enough
    | succ fuel => simp [chainWithin,next,ih (by simpa using enough)]

/-- The number of scopes is fuel enough for a lineage of scopes of the store. -/
theorem chain_eq (lineage : s.Lineage a line) (inside : ∀ b ∈ line, b < s.scopes.size) :
    s.chain a = line := by
  apply lineage.chainWithin_eq
  have within : line ⊆ List.range s.scopes.size := fun b member => List.mem_range.mpr (inside b member)
  simpa using (List.Nodup.subperm lineage.nodup within).length_le

end Lineage
end Store

namespace Event

variable (s : Store) (event : Event)

/-- The scope has a boundary, soft or hard, and a handler for the event. -/
def Claims (scope : Address) : Prop :=
  (s.scopeAt scope).boundary ≠ .none ∧ (s.handlerOf? scope event.name).isSome

/-- The scope stops the event whether or not it has a handler for it. -/
def Holds (scope : Address) : Prop :=
  (s.scopeAt scope).boundary = .hard ∨ (s.scopeAt scope).boundary = .soft ∧ event.name = "*"

/-- The event passes boundaries: it is marked so, and is none of those that never do. -/
structure Passes : Prop where
  marked : event.bubble = true
  general : event.name ≠ "load"
  common : ∀ mark rest, event.name.toList = 'x' :: mark :: rest → mark ∉ ['-',':','.']

/-- The nearest scope of a lineage that claims the event, unless something nearer holds it back. -/
structure Selects (line nearer : List Address) (found : Address) : Prop where
  ahead : nearer ++ [found] <+: line
  claims : event.Claims s found
  nearest : ∀ other ∈ nearer, ¬ event.Claims s other
  free : event.Passes ∨ ∀ other ∈ nearer, ¬ event.Holds s other

instance (scope : Address) : Decidable (event.Claims s scope) :=
  inferInstanceAs (Decidable (_ ∧ _))

instance (scope : Address) : Decidable (event.Holds s scope) :=
  inferInstanceAs (Decidable (_ ∨ _))

variable {s event}

theorem passes_iff : event.Passes ↔ event.bubbles = true := by
  have apart : isNamespaced event.name = false ↔
      ∀ mark rest, event.name.toList = 'x' :: mark :: rest → mark ∉ ['-',':','.'] := by
    unfold isNamespaced
    split
    · next mark rest spelled =>
      rw [spelled]
      simp
      tauto
    · next other =>
      simp only [true_iff]
      exact fun mark rest spelled => absurd spelled (other mark rest)
  unfold bubbles
  rw [Bool.and_eq_true,Bool.and_eq_true,Bool.not_eq_true',apart,bne_iff_ne]
  exact ⟨fun passes => ⟨⟨passes.marked,passes.general⟩,passes.common⟩,
    fun all => ⟨all.1.1,all.1.2,all.2⟩⟩

theorem stops_iff {scope : Address} :
    s.stops scope event.name = true ↔ event.Claims s scope ∨ event.Holds s scope := by
  unfold Store.stops Claims Holds
  cases (s.scopeAt scope).boundary with
  | none => simp
  | soft => simp [or_comm]
  | hard => simp

theorem claims_iff {scope : Address} : event.Claims s scope ↔
    s.stops scope event.name = true ∧ (s.handlerOf? scope event.name).isSome = true := by
  rw [stops_iff]
  unfold Claims Holds
  cases (s.scopeAt scope).boundary with
  | none => simp
  | soft => simp; tauto
  | hard => simp

theorem handlerOn?_bubbling (bubbles : event.bubbles = true) (line : List Address) :
    handlerOn? s event line = line.find? (event.Claims s ·) := by
  induction line with
  | nil => rfl
  | cons scope above ih =>
    unfold handlerOn?
    by_cases claims : event.Claims s scope
    · obtain ⟨stops,handles⟩ := claims_iff.mp claims
      simp [claims,stops,handles]
    · have apart := mt claims_iff.mpr claims
      simp only [not_and,Bool.not_eq_true] at apart
      by_cases stops : s.stops scope event.name = true
      · simp [claims,stops,apart stops,bubbles,ih]
      · simp [claims,stops,ih]

/-- Any other event comes no further than the nearest boundary. -/
theorem handlerOn?_still (still : event.bubbles = false) (line : List Address) :
    handlerOn? s event line = (line.find? fun scope => s.stops scope event.name).filter
      fun scope => (s.handlerOf? scope event.name).isSome := by
  induction line with
  | nil => rfl
  | cons scope above ih =>
    unfold handlerOn?
    by_cases stops : s.stops scope event.name = true
    · simp [stops,still,Option.filter]
    · simp [stops,ih]

theorem handlerOn?_eq_some_iff {line : List Address} {found : Address} :
    handlerOn? s event line = some found ↔ ∃ nearer, event.Selects s line nearer found := by
  have split (nearer farther : List Address) (whole : line = nearer ++ found :: farther) :
      nearer ++ [found] <+: line := ⟨farther,by simp [whole]⟩
  cases bubbles : event.bubbles with
  | true =>
    rw [handlerOn?_bubbling bubbles,List.find?_eq_some_iff_append]
    simp only [decide_eq_true_eq,Bool.not_eq_true',decide_eq_false_iff_not]
    constructor
    · rintro ⟨claims,nearer,farther,whole,nearest⟩
      exact ⟨nearer,split nearer farther whole,claims,nearest,.inl (passes_iff.mpr bubbles)⟩
    · rintro ⟨nearer,⟨farther,whole⟩,claims,nearest,-⟩
      exact ⟨claims,nearer,farther,by simp [← whole],nearest⟩
  | false =>
    have stays : ¬ event.Passes := by simp [passes_iff,bubbles]
    rw [handlerOn?_still bubbles,Option.filter_eq_some_iff,List.find?_eq_some_iff_append]
    simp only [Bool.not_eq_true']
    constructor
    · rintro ⟨⟨stops,nearer,farther,whole,before⟩,handles⟩
      simp only [← Bool.not_eq_true,stops_iff,not_or] at before
      exact ⟨nearer,split nearer farther whole,claims_iff.mpr ⟨stops,handles⟩,
        fun other here => (before other here).1,.inr fun other here => (before other here).2⟩
    · rintro ⟨nearer,⟨farther,whole⟩,claims,nearest,free⟩
      obtain ⟨stops,handles⟩ := claims_iff.mp claims
      refine ⟨⟨stops,nearer,farther,by simp [← whole],fun other here => ?_⟩,handles⟩
      rw [← Bool.not_eq_true,stops_iff,not_or]
      exact ⟨nearest other here,free.resolve_left stays other here⟩

/-- The search from boundary to boundary finds the scope that the lineage selects, and none if it
selects none. -/
theorem handlerScope?_selects {scope : Address} {line : List Address}
    (lineage : s.Lineage scope line) (inside : ∀ other ∈ line, other < s.scopes.size) :
    (∀ found, event.handlerScope? s scope = some found ↔
      ∃ nearer, event.Selects s line nearer found) ∧
    (event.handlerScope? s scope = none ↔
      ∀ nearer found, ¬ event.Selects s line nearer found) := by
  have selects (found : Address) : event.handlerScope? s scope = some found ↔
      ∃ nearer, event.Selects s line nearer found := by
    unfold handlerScope?
    rw [lineage.chain_eq inside]
    exact handlerOn?_eq_some_iff
  refine ⟨selects,?_⟩
  rw [Option.eq_none_iff_forall_ne_some]
  constructor
  · intro none nearer found selected
    exact none found ((selects found).mpr ⟨nearer,selected⟩)
  · intro none found claimed
    obtain ⟨nearer,selected⟩ := (selects found).mp claimed
    exact none nearer found selected

/-- Four scopes: a hard boundary at the top and one below it that both bind a handler for saving, a
soft boundary without one, and a scope that binds one behind no boundary. -/
def nested : Store :=
  let saves : Named Handler := [("save",⟨"- log: saved",none,false⟩)]
  let clicks : Named Handler := [("click",⟨"- log: clicked",none,false⟩)]
  { Store.empty with scopes := ⟨#[
    ⟨none,.null,0,false,none,saves,none,.null,.hard⟩,
    ⟨some 0,.null,0,true,none,saves,none,.null,.hard⟩,
    ⟨some 1,.null,0,false,none,clicks,none,.null,.soft⟩,
    ⟨some 2,.null,0,false,none,saves,none,.null,.none⟩]⟩ }

theorem handlerScope?_selects_nested :
    (Event.mk "save" [] false).handlerScope? nested 3 = some 1 ∧
      (Event.mk "*" [] false).handlerScope? nested 3 = none := by
  have lineage : nested.Lineage 3 [3,2,1,0] := .under rfl (.under rfl (.under rfl (.top rfl)))
  have inside : ∀ other ∈ [3,2,1,0], other < nested.scopes.size := by decide
  constructor
  · apply ((handlerScope?_selects lineage inside).1 1).mpr
    exact ⟨[3,2],⟨[0],rfl⟩,⟨by decide,rfl⟩,by decide,.inr (by decide)⟩
  · apply (handlerScope?_selects lineage inside).2.mpr
    have unbound : ∀ found ∈ [3,2,1,0], (nested.handlerOf? found "*").isSome = false := by decide
    rintro nearer found ⟨ahead,⟨-,handles⟩,-,-⟩
    have member : found ∈ [3,2,1,0] := ahead.subset (by simp)
    exact Bool.false_ne_true ((unbound found member).symm.trans handles)

end Event
end PageRuntime
