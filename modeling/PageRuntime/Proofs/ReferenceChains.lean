import PageRuntime.Proofs.Nesting
import PageRuntime.Proofs.Reach

/-! Chains of references. To read a handle others are read, which it leads through. Where no handle is
read to read itself, every reading comes to an end: with a value, or where a root cannot be resolved.
What is read depends on nothing but the members that are looked up on the way. -/
namespace PageRuntime

namespace Spot

variable (resolve : Address → Except Fault Spot) (s : Store)

/-- The handle that is entered at the spot, if it is a reference. -/
def asked : Spot → List Address
  | value (.ref a) => [a]
  | _ => []

/-- The handles that are entered on a walk and where it ends. -/
def askedOn : List Segment → Spot → List Address
  | [], spot => spot.asked
  | key :: rest, spot => spot.asked ++
      match spot.step resolve s key with
      | .ok v => askedOn rest (.value v)
      | .error _ => []

/-- The members that are looked up on a walk. -/
def looksOn : List Segment → Spot → List (Spot × Segment)
  | [], _ => []
  | key :: rest, spot =>
      match spot.follow resolve with
      | .ok holder => (holder,key) :: looksOn rest (.value (s.member holder key))
      | .error _ => []

variable {resolve} {s}

theorem follow_frame {again : Address → Except Fault Spot} {spot : Spot}
    (same : ∀ a ∈ spot.asked, again a = resolve a) : spot.follow again = spot.follow resolve := by
  unfold follow
  split
  · exact same _ (List.mem_singleton_self _)
  · rfl

/-- A walk comes to the same end if the handles that are entered are read as before and the members that
are looked up are as they were. -/
theorem walk_frame {again : Address → Except Fault Spot} {t : Store} (keys : List Segment) {spot : Spot}
    (same : ∀ a ∈ spot.askedOn resolve s keys, again a = resolve a)
    (members : ∀ look ∈ spot.looksOn resolve s keys, t.member look.1 look.2 = s.member look.1 look.2) :
    spot.walk again t keys >>= follow again = spot.walk resolve s keys >>= follow resolve := by
  induction keys generalizing spot with
  | nil => exact follow_frame same
  | cons key rest ih =>
    rw [askedOn] at same
    have here := follow_frame fun a asked => same a (List.mem_append_left _ asked)
    rw [looksOn] at members
    rw [walk_cons,walk_cons,step,step,here]
    rw [step] at same
    cases followed : spot.follow resolve with
    | error fault => rfl
    | ok holder =>
      rw [followed] at same members
      have member := members _ List.mem_cons_self
      show (value (t.member holder key)).walk again t rest >>= _ = _
      rw [member]
      exact ih (fun a asked => same a (List.mem_append_right _ asked)) fun look taken =>
        members look (List.mem_cons_of_mem _ taken)

theorem follow_error {spot : Spot} {fault : Fault} (ran : spot.follow resolve = .error fault) :
    ∃ a ∈ spot.asked, resolve a = .error fault := by
  unfold follow at ran
  split at ran
  · exact ⟨_,List.mem_singleton_self _,ran⟩
  · cases ran

/-- A walk fails where a handle that is entered does. -/
theorem walk_error (keys : List Segment) {spot : Spot} {fault : Fault}
    (ran : spot.walk resolve s keys >>= follow resolve = .error fault) :
    ∃ a ∈ spot.askedOn resolve s keys, resolve a = .error fault := by
  induction keys generalizing spot with
  | nil => exact follow_error ran
  | cons key rest ih =>
    rw [walk_cons,step] at ran
    rw [askedOn,step]
    cases followed : spot.follow resolve with
    | error failure =>
      rw [followed] at ran
      cases ran
      obtain ⟨a,asked,failed⟩ := follow_error followed
      exact ⟨a,List.mem_append_left _ asked,failed⟩
    | ok holder =>
      rw [followed] at ran
      obtain ⟨a,asked,failed⟩ := ih ran
      exact ⟨a,List.mem_append_right _ asked,failed⟩

/-- What is looked up on a walk is entered if it is a reference. -/
theorem looked_asked (keys : List Segment) {spot : Spot} {look : Spot × Segment} {a : Address}
    (looked : look ∈ spot.looksOn resolve s keys) (found : s.member look.1 look.2 = .ref a) :
    a ∈ spot.askedOn resolve s keys := by
  induction keys generalizing spot with
  | nil => cases looked
  | cons key rest ih =>
    rw [looksOn] at looked
    rw [askedOn,step]
    cases followed : spot.follow resolve with
    | error fault =>
      rw [followed] at looked
      cases looked
    | ok holder =>
      rw [followed] at looked
      refine List.mem_append_right _ ?_
      obtain rfl | looked := List.mem_cons.mp looked
      · show a ∈ (value (s.member holder key)).askedOn resolve s rest
        rw [show s.member holder key = .ref a from found]
        cases rest with
        | nil => exact List.mem_singleton_self a
        | cons _ _ => exact List.mem_append_left _ (List.mem_singleton_self a)
      · exact ih looked

end Spot

namespace Runtime

variable (r : Runtime)

/-- The handles that are entered to read a handle of this form. -/
def asks (resolve : Address → Except Fault Spot) : Handle → List Address
  | .path scope path _ =>
      match r.rootSpot scope path.root with
      | .ok start => start.askedOn resolve r.store path.segments
      | .error _ => []
  | .sub parent key => parent ::
      match resolve parent with
      | .ok container => (Spot.value (r.store.member container key)).asked
      | .error _ => []
  | .locked inner => [inner]
  | .cell v _ => (Spot.value v).asked

/-- The members that are looked up to read a handle of this form, those aside that are looked up to read
the handles that it enters. -/
def looks (resolve : Address → Except Fault Spot) : Handle → List (Spot × Segment)
  | .path scope path _ =>
      match r.rootSpot scope path.root with
      | .ok start => start.looksOn resolve r.store path.segments
      | .error _ => []
  | .sub parent key =>
      match resolve parent with
      | .ok container => [(container,key)]
      | .error _ => []
  | .locked _ | .cell _ _ => []

/-- The handles that are entered to read a handle. -/
def leads (a : Address) : List Address := r.asks r.resolve (r.store.handleAt a)

/-- No handle is read to read itself. -/
def Untangled : Prop := ∀ a, ¬ Relation.TransGen (HasPart r.leads) a a

/-- Reading the handle at last comes to a path whose root cannot be resolved. -/
def Unrooted (a : Address) (fault : Fault) : Prop :=
  ∃ b scope path locked, Relation.ReflTransGen (HasPart r.leads) a b ∧
    r.store.handleAt b = .path scope path locked ∧ r.rootSpot scope path.root = .error fault

variable {r} {resolve : Address → Except Fault Spot} {handle : Handle}

theorem readHandle_frame {after : Runtime} {again : Address → Except Fault Spot}
    (roots : ∀ scope path locked, handle = .path scope path locked →
      after.rootSpot scope path.root = r.rootSpot scope path.root)
    (same : ∀ a ∈ r.asks resolve handle, again a = resolve a)
    (members : ∀ look ∈ r.looks resolve handle,
      after.store.member look.1 look.2 = r.store.member look.1 look.2) :
    after.readHandle again handle = r.readHandle resolve handle := by
  cases handle with
  | path scope path locked =>
    rw [asks] at same
    rw [looks] at members
    rw [readHandle,readHandle,roots scope path locked rfl]
    cases rooted : r.rootSpot scope path.root with
    | error fault => rfl
    | ok start =>
      rw [rooted] at same members
      exact Spot.walk_frame path.segments same members
  | sub parent key =>
    rw [asks] at same
    rw [looks] at members
    rw [readHandle,readHandle,same parent List.mem_cons_self]
    cases above : resolve parent with
    | error fault => rfl
    | ok container =>
      rw [above] at same members
      show (Spot.value (after.store.member container key)).follow again = _
      rw [members (container,key) (List.mem_singleton_self _)]
      exact Spot.follow_frame fun a asked => same a (List.mem_cons_of_mem _ asked)
  | locked inner => exact same inner (List.mem_singleton_self inner)
  | cell v label => exact Spot.follow_frame same

theorem readHandle_error {fault : Fault} (ran : r.readHandle resolve handle = .error fault) :
    (∃ scope path locked, handle = .path scope path locked ∧
      r.rootSpot scope path.root = .error fault) ∨
    ∃ a ∈ r.asks resolve handle, resolve a = .error fault := by
  cases handle with
  | path scope path locked =>
    rw [readHandle] at ran
    rw [asks]
    cases rooted : r.rootSpot scope path.root with
    | error failure =>
      rw [rooted] at ran
      cases ran
      exact .inl ⟨scope,path,locked,rfl,rooted⟩
    | ok start =>
      rw [rooted] at ran
      exact .inr (Spot.walk_error path.segments ran)
  | sub parent key =>
    rw [readHandle] at ran
    rw [asks]
    cases above : resolve parent with
    | error failure =>
      rw [above] at ran
      cases ran
      exact .inr ⟨parent,List.mem_cons_self,above⟩
    | ok container =>
      rw [above] at ran
      obtain ⟨a,asked,failed⟩ := Spot.follow_error ran
      exact .inr ⟨a,List.mem_cons_of_mem _ asked,failed⟩
  | locked inner => exact .inr ⟨inner,List.mem_singleton_self inner,ran⟩
  | cell v label => exact .inr (Spot.follow_error ran)

/-- What is looked up to read a handle is entered if it is a reference. -/
theorem looked_asked {look : Spot × Segment} {a : Address} (looked : look ∈ r.looks resolve handle)
    (found : r.store.member look.1 look.2 = .ref a) : a ∈ r.asks resolve handle := by
  cases handle with
  | path scope path locked =>
    rw [looks] at looked
    rw [asks]
    cases rooted : r.rootSpot scope path.root with
    | error fault =>
      rw [rooted] at looked
      cases looked
    | ok start =>
      rw [rooted] at looked
      exact Spot.looked_asked path.segments looked found
  | sub parent key =>
    rw [looks] at looked
    rw [asks]
    cases above : resolve parent with
    | error fault =>
      rw [above] at looked
      cases looked
    | ok container =>
      rw [above] at looked
      obtain rfl := List.mem_singleton.mp looked
      refine List.mem_cons_of_mem _ ?_
      show a ∈ (Spot.value (r.store.member container key)).asked
      rw [show r.store.member container key = .ref a from found]
      exact List.mem_singleton_self a
  | locked inner => cases looked
  | cell v label => cases looked

/-- In a runtime without such handles there are no more handles on a chain than in the store. -/
theorem Untangled.nestsWithin (untangled : r.Untangled) (a : Address) :
    NestsWithin r.leads (r.store.handles.size + 1) a := by
  have unlooped : Unlooped r.leads a := fun b _ => untangled b
  have nests := unlooped.nestsWithin_succ (List.range r.store.handles.size) fun b _ => by
    by_cases inside : b < r.store.handles.size
    · exact .inl (List.mem_range.mpr inside)
    · rw [leads,r.handleAt_outside (Nat.not_lt.mp inside)]
      exact .inr rfl
  rwa [List.length_range] at nests

theorem NestsWithin.resolve_error {fuel : Nat} {a : Address} (nests : NestsWithin r.leads fuel a)
    {fault : Fault} (ran : r.resolve a = .error fault) : r.Unrooted a fault := by
  induction fuel generalizing a with
  | zero => cases nests
  | succ fuel ih =>
    rw [resolve_eq] at ran
    obtain ⟨scope,path,locked,here,failed⟩ | ⟨b,asked,failed⟩ := readHandle_error ran
    · exact ⟨a,scope,path,locked,.refl,here,failed⟩
    · obtain ⟨c,scope,path,locked,onward,here,failed⟩ := ih (nests b asked) failed
      exact ⟨c,scope,path,locked,.head asked onward,here,failed⟩

/-- Reading a handle fails only where a root cannot be resolved. -/
theorem Untangled.resolve_error (untangled : r.Untangled) {a : Address} {fault : Fault}
    (ran : r.resolve a = .error fault) : r.Unrooted a fault :=
  NestsWithin.resolve_error (untangled.nestsWithin a) ran

theorem NestsWithin.resolve_frame {after : Runtime}
    (handles : ∀ b, after.store.handleAt b = r.store.handleAt b)
    {fuel : Nat} {a : Address} (nests : NestsWithin r.leads fuel a)
    (roots : ∀ scope root, after.rootSpot scope root = r.rootSpot scope root)
    (members : ∀ b, Relation.ReflTransGen (HasPart r.leads) a b →
      ∀ look ∈ r.looks r.resolve (r.store.handleAt b),
        after.store.member look.1 look.2 = r.store.member look.1 look.2) :
    after.resolve a = r.resolve a := by
  induction fuel generalizing a with
  | zero => cases nests
  | succ fuel ih =>
    rw [resolve_eq,resolve_eq,handles]
    refine readHandle_frame (fun scope path _ _ => roots scope path.root) (fun b asked => ?_)
      (members a .refl)
    exact ih (nests b asked) fun c onward => members c (.head asked onward)

/-- A handle is read as before if the members that are looked up on the way are as they were. -/
theorem Untangled.resolve_frame (untangled : r.Untangled) {after : Runtime}
    (handles : ∀ b, after.store.handleAt b = r.store.handleAt b)
    (roots : ∀ scope root, after.rootSpot scope root = r.rootSpot scope root) {a : Address}
    (members : ∀ b, Relation.ReflTransGen (HasPart r.leads) a b →
      ∀ look ∈ r.looks r.resolve (r.store.handleAt b),
        after.store.member look.1 look.2 = r.store.member look.1 look.2) :
    after.resolve a = r.resolve a :=
  NestsWithin.resolve_frame handles (untangled.nestsWithin a) roots members

/-- No handle on the chain of a reference looks up the reference itself. -/
theorem Untangled.looked_elsewhere (untangled : r.Untangled) {a b : Address}
    (onward : Relation.ReflTransGen (HasPart r.leads) a b) {look : Spot × Segment}
    (looked : look ∈ r.looks r.resolve (r.store.handleAt b)) :
    r.store.member look.1 look.2 ≠ .ref a := fun found =>
  untangled a (.tail' onward (looked_asked looked found))

end Runtime
end PageRuntime
