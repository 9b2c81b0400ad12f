import PageRuntime.Proofs.PlainTrees
import PageRuntime.Proofs.Retargeting

/-! How steps end that only make objects. From a closed runtime they leave one that extends it, and what
they yield there, or what they raise, is put together from what their parts yield or raise. -/
namespace PageRuntime

theorem Runtime.Closed.newContext {r : Runtime} (closed : r.Closed) {scope : Address}
    (inside : scope < r.store.scopes.size) :
    ({ r with store := (r.store.newContext scope).2 } : Runtime).Closed :=
  have adds := r.store.newContext_adds scope
  closed.adds adds (closed.store.ordered.of_adds adds nofun)
    (.context ((Store.Grew.of_adds adds).identity _ _ _ ⟨rfl,inside⟩))

theorem Runtime.Closed.newBlob {r : Runtime} (closed : r.Closed) {b : Blob}
    (media : b.mediaType.Present r.store) :
    ({ r with store := (r.store.newBlob b).2 } : Runtime).Closed :=
  have adds := r.store.newBlob_adds b
  closed.adds adds (closed.store.ordered.of_adds adds nofun)
    (.blob ⟨media.grew (.of_adds adds),rfl⟩)

theorem Runtime.Closed.newNode {r : Runtime} (closed : r.Closed) {n : Node}
    (present : n.Alike r.store.identity n) :
    ({ r with store := (r.store.newNode n).2 } : Runtime).Closed :=
  have adds := r.store.newNode_adds n
  closed.adds adds (closed.store.ordered.of_adds adds nofun)
    (Object.Alike.mono (Store.Grew.of_adds adds).identity (.node present))

namespace Act

variable {α β : Type} {mid : Runtime} {raises : Fault → Prop}

/-- The step yields something as given, in an extended runtime, or raises a fault as given. -/
def EndsAt (mid : Runtime) (yields : α → Runtime → Prop) (raises : Fault → Prop) (act : Act α) :
    Prop :=
  (∃ x after, act mid = (.done x,after) ∧ mid.Extends after ∧ yields x after) ∨
    ∃ failure after, act mid = (.raised failure,after) ∧
      raises (after.store.failureAt failure).fault

namespace EndsAt

variable {yields : α → Runtime → Prop}

theorem pure (closed : mid.Closed) {x : α} (has : yields x mid) :
    EndsAt mid yields raises (Pure.pure x) := .inl ⟨x,mid,rfl,closed.extends,has⟩

theorem fail {fault : Fault} (raised : raises fault) :
    EndsAt mid yields raises (Act.fail fault) := by
  have made : (mid.store.newFailure ⟨fault,none,none⟩).2.failureAt mid.store.failures.size =
      ⟨fault,none,none⟩ := Object.failure.inj (mid.store.newFailure_adds _).object
  refine .inr ⟨_,_,Act.fail_run fault mid,?_⟩
  show raises ((mid.store.newFailure ⟨fault,none,none⟩).2.failureAt mid.store.failures.size).fault
  rwa [made]

theorem bind {act : Act α} {next : α → Act β} {yieldsNext : β → Runtime → Prop}
    (first : EndsAt mid yields raises act)
    (onward : ∀ x after, mid.Extends after → yields x after →
      EndsAt after yieldsNext raises (next x)) :
    EndsAt mid yieldsNext raises (act >>= next) := by
  obtain ⟨x,after,ran,within,has⟩ | ⟨failure,after,ran,raised⟩ := first
  · obtain ⟨y,last,ranNext,further,hasNext⟩ | ⟨failure,last,ranNext,raised⟩ := onward x after within has
    · exact .inl ⟨y,last,(Step.bind_done ran).trans ranNext,
        within.grew further.growth further.closed,hasNext⟩
    · exact .inr ⟨failure,last,(Step.bind_done ran).trans ranNext,raised⟩
  · exact .inr ⟨failure,after,Step.bind_raised ran,raised⟩

theorem fail_bind {fault : Fault} (raised : raises fault) {next : α → Act β}
    {yields : β → Runtime → Prop} : EndsAt mid yields raises (Act.fail fault >>= next) :=
  have none : EndsAt mid (fun _ _ => False) raises (Act.fail fault : Act α) := fail raised
  none.bind fun _ _ _ impossible => impossible.elim

theorem imp {act : Act α} {more : α → Runtime → Prop} (ends : EndsAt mid yields raises act)
    (has : ∀ x after, mid.Extends after → yields x after → more x after) :
    EndsAt mid more raises act := by
  obtain ⟨x,after,ran,within,here⟩ | raised := ends
  · exact .inl ⟨x,after,ran,within,has x after within here⟩
  · exact .inr raised

/-- Reading the store first changes nothing. -/
theorem of_store {next : Store → Act β} {yields : β → Runtime → Prop}
    (ends : EndsAt mid yields raises (next mid.store)) :
    EndsAt mid yields raises (Act.store >>= next) := ends

theorem mapM {yields : α → β → Runtime → Prop}
    (keeps : ∀ x y early late, Runtime.Extends early late → yields x y early → yields x y late)
    {step : α → Act β} {xs : List α} (closed : mid.Closed)
    (steps : ∀ x ∈ xs, ∀ after, mid.Extends after → EndsAt after (yields x) raises (step x)) :
    EndsAt mid (fun ys after => ∃ rows : List (α × β), rows.map (·.1) = xs ∧ rows.map (·.2) = ys ∧
      ∀ row ∈ rows, yields row.1 row.2 after) raises (xs.mapM step) := by
  induction xs generalizing mid with
  | nil => exact pure closed ⟨[],rfl,rfl,fun _ member => (List.not_mem_nil member).elim⟩
  | cons x xs ih =>
    rw [List.mapM_cons]
    refine bind (steps x List.mem_cons_self mid closed.extends) fun y after within has => ?_
    refine bind (ih within.closed fun other member last further =>
      steps other (List.mem_cons_of_mem _ member) last (within.grew further.growth further.closed))
      fun ys last further ⟨rows,given_,made,all⟩ => ?_
    refine pure further.closed ⟨(x,y) :: rows,by rw [List.map_cons,given_],by rw [List.map_cons,made],?_⟩
    intro row member
    obtain rfl | member := List.mem_cons.mp member
    · exact keeps _ _ after last further has
    · exact all row member

theorem newDict {d : Dict} (closed : mid.Closed) (present : d.Alike mid.store.identity d) :
    EndsAt mid (fun w after => w = .dict mid.store.dicts.size ∧
      after.store.Has .dict mid.store.dicts.size (.entries d)) raises (Act.make (·.newDict d)) :=
  have adds := mid.store.newDict_adds d
  .inl ⟨_,_,rfl,⟨closed,⟨.of_adds adds,rfl⟩,closed.newDict present⟩,rfl,adds.has⟩

theorem newList {items : List Value} (closed : mid.Closed)
    (present : Values.Alike mid.store.identity items items) :
    EndsAt mid (fun w after => w = .list mid.store.lists.size ∧
      after.store.Has .list mid.store.lists.size (.items items)) raises
      (Act.make (·.newList items)) :=
  have adds := mid.store.newList_adds items
  .inl ⟨_,_,rfl,⟨closed,⟨.of_adds adds,rfl⟩,closed.newList present⟩,rfl,adds.has⟩

theorem newContext {scope : Address} (closed : mid.Closed) (inside : scope < mid.store.scopes.size) :
    EndsAt mid (fun w after => w = .context mid.store.contexts.size ∧
      after.store.Has .context mid.store.contexts.size (.context scope)) raises
      (Act.make (·.newContext scope)) :=
  have adds := mid.store.newContext_adds scope
  .inl ⟨_,_,rfl,⟨closed,⟨.of_adds adds,rfl⟩,closed.newContext inside⟩,rfl,adds.has⟩

/-- A list of what comes of each item. -/
theorem listed {yields : α → Value → Runtime → Prop}
    (keeps : ∀ x w early late, Runtime.Extends early late → yields x w early → yields x w late)
    (present : ∀ x w after, yields x w after → w.Present after.store) {step : α → Act Value}
    {xs : List α} (closed : mid.Closed)
    (steps : ∀ x ∈ xs, ∀ after, mid.Extends after → EndsAt after (yields x) raises (step x)) :
    EndsAt mid (fun w after => ∃ b, w = .list b ∧ ∃ rows : List (α × Value), rows.map (·.1) = xs ∧
      (∀ row ∈ rows, yields row.1 row.2 after) ∧ after.store.Has .list b (.items (rows.map (·.2))))
      raises (xs.mapM step >>= fun values => Act.make (·.newList values)) := by
  refine .bind (.mapM keeps closed steps) fun made after within ⟨rows,of,forms,all⟩ => ?_
  subst forms
  have items : Values.Alike after.store.identity (rows.map (·.2)) (rows.map (·.2)) :=
    List.forall₂_same.mpr fun w member => by
      obtain ⟨row,held,rfl⟩ := List.mem_map.mp member
      exact present row.1 row.2 after (all row held)
  exact (newList within.closed items).imp fun w last further ⟨made,has⟩ =>
    ⟨_,made,rows,of,fun row held => keeps _ _ after last further (all row held),has⟩

end EndsAt
end Act

end PageRuntime
