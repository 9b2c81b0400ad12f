import PageRuntime.Proofs.LockedRoots

/-! Roots that cannot be read. Below such a root a write is refused as reading is, and nothing that
is written below a root registers a name, as long as no handle is the bare path of a name that is not
registered. -/
namespace PageRuntime

namespace Act

variable {α β : Type}

/-- The step raises the fault as a new failure and changes nothing. -/
def Refuses (act : Act α) (r : Runtime) (fault : Fault) : Prop :=
  ∃ failure after, act r = (.raised failure,after) ∧
    after.store.failureAt failure = ⟨fault,none,none⟩ ∧ r.Grew after

theorem Refuses.fail (fault : Fault) (r : Runtime) : (Act.fail fault : Act α).Refuses r fault := by
  have adds := r.store.newFailure_adds ⟨fault,none,none⟩
  exact ⟨_,_,Act.fail_run fault r,Object.failure.inj adds.object,.of_adds adds,rfl⟩

theorem Refuses.bind {act : Act α} {r : Runtime} {fault : Fault} (refuses : act.Refuses r fault)
    (next : α → Act β) : (act >>= next).Refuses r fault := by
  obtain ⟨failure,after,ran,rest⟩ := refuses
  exact ⟨failure,after,Step.bind_raised ran,rest⟩

theorem Refuses.after {act : Act α} {r : Runtime} {fault : Fault} {x : α}
    (ran : act r = (.done x,r)) {next : α → Act β} (refuses : (next x).Refuses r fault) :
    (act >>= next).Refuses r fault := by
  unfold Refuses
  rw [Step.bind_done ran]
  exact refuses

theorem Refuses.ofExcept {result : Except Fault α} {fault : Fault} (faulty : result = .error fault)
    (r : Runtime) : (Act.ofExcept result).Refuses r fault := by
  subst faulty
  exact .fail fault r

end Act

namespace Runtime

variable {r : Runtime} {root : Root} {fault : Fault}

/-- Writes below the root are ignored: it is computed, or a locked data root. -/
def Ignores (r : Runtime) (root : Root) : Prop :=
  root.kind.isComputed = true ∨ ∃ name, root.kind.dataRoot? = some name ∧ r.isLocked name = true

theorem heeds_iff : ¬ r.Ignores root ↔
    (false || root.kind.isComputed || root.kind.dataRoot?.any r.isLocked) = false := by
  unfold Ignores
  cases root.kind.dataRoot? <;> simp

/-- Why the root itself cannot be read. -/
inductive Faulty (r : Runtime) (root : Root) : Fault → Prop
  | caret (far : 1 < root.caret) : Faulty r root (.invalidCaret (toString root.caret))
  | name {name : String} (near : root.caret ≤ 1) (kind : root.kind = .named name)
      (unregistered : r.rootValue? name = none) : Faulty r root (.invalidRoot name)

theorem rootSpot_error_iff (alive : r.alive = true) (scope : Address) :
    r.rootSpot scope root = .error fault ↔ r.Faulty root fault := by
  have held (name : String) : r.dataRoot name = .ok (r.rootValue? name) := by
    rw [dataRoot,alive]
    rfl
  constructor
  · intro faulty
    unfold rootSpot at faulty
    by_cases far : 1 < root.caret
    · simp only [if_pos far] at faulty
      cases faulty
      exact .caret far
    · simp only [if_neg far] at faulty
      cases kind : root.kind <;> rw [kind] at faulty <;> simp only [held] at faulty
      case named name =>
        cases found : r.rootValue? name with
        | none =>
          rw [found] at faulty
          cases faulty
          exact .name (Nat.le_of_not_lt far) kind found
        | some v =>
          rw [found] at faulty
          cases faulty
      all_goals cases faulty
  · intro faulty
    unfold rootSpot
    cases faulty with
    | caret far => simp only [if_pos far]
    | name near kind unregistered =>
      simp only [if_neg (Nat.not_lt.mpr near),kind,held,unregistered]
      rfl

def rootNames (r : Runtime) : List String := r.roots.map (·.1)

theorem mem_rootNames {name : String} : name ∈ r.rootNames ↔ (r.rootValue? name).isSome := by
  unfold rootNames rootValue?
  induction r.roots with
  | nil => simp
  | cons pair rest ih =>
    rw [List.map_cons,List.mem_cons,List.lookup_cons,ih]
    by_cases here : name = pair.1
    · simp [here]
    · simp [here,beq_false_of_ne here]

theorem rootNames_setRoot {name : String} (registered : name ∈ r.rootNames) (v : Value) :
    (r.setRoot name v).rootNames = r.rootNames := by
  have kept (named : Named Value) (member : name ∈ named.map (·.1)) :
      (Named.set name v named).map (·.1) = named.map (·.1) := by
    induction named with
    | nil => cases member
    | cons pair rest ih =>
      unfold Named.set
      by_cases here : pair.1 = name
      · rw [if_pos here]
        rfl
      · rw [if_neg here]
        obtain same | member := List.mem_cons.mp member
        · exact absurd same.symm here
        · exact congrArg (pair.1 :: ·) (ih member)
  exact kept r.roots registered

/-- The roots of every page are registered, and so is each root that a handle names by a bare path. -/
structure Grounded (r : Runtime) : Prop where
  global : "global" ∈ r.rootNames
  state : "state" ∈ r.rootNames
  handles : ∀ a scope path locked name, r.store.handleAt a = .path scope path locked →
    path.segments = [] → path.root.kind.dataRoot? = some name → name ∈ r.rootNames

/-- From a grounded runtime with these root names to another. -/
def StaysGrounded (names : List String) (r after : Runtime) : Prop :=
  r.Grounded ∧ r.rootNames = names → after.Grounded ∧ after.rootNames = names

instance (names : List String) : Std.Refl (StaysGrounded names) := ⟨fun _ grounded => grounded⟩

instance (names : List String) :
    Trans (StaysGrounded names) (StaysGrounded names) (StaysGrounded names) :=
  ⟨fun first second grounded => second (first grounded)⟩

namespace StaysGrounded

variable {names : List String} {after : Runtime}

theorem of_same (same : after.rootNames = r.rootNames)
    (paths : ∀ a scope path locked, after.store.handleAt a = .path scope path locked →
      r.store.handleAt a = .path scope path locked) : StaysGrounded names r after := by
  rintro ⟨grounded,rfl⟩
  refine ⟨⟨?_,?_,?_⟩,same⟩ <;> rw [same]
  · exact grounded.global
  · exact grounded.state
  · intro a scope path locked name here
    exact grounded.handles a scope path locked name (paths a scope path locked here)

theorem putCell {a : Address} {held : Value} {label : String}
    (cell : r.store.handleAt a = .cell held label) (v : Value) :
    StaysGrounded names r { r with store := r.store.putHandle a (.cell v label) } := by
  have puts := r.store.putHandle_puts a (.cell v label)
  refine of_same rfl fun b scope path locked here => ?_
  by_cases same : b = a
  · subst same
    by_cases inside : b < r.store.sizeOf .handle
    · rw [Object.handle.inj (puts.object inside)] at here
      cases here
    · have outside : (r.store.putHandle b (.cell v label)).handles.size ≤ b :=
        Nat.le_trans (Nat.le_of_eq (puts.sizes .handle)) (Nat.le_of_not_lt inside)
      rw [handleAt_outside { r with store := r.store.putHandle b (.cell v label) } outside] at here
      cases here
  · exact (Object.handle.inj (puts.others .handle b (.inr same))).symm.trans here

end StaysGrounded
end Runtime

namespace Reference
open PageRuntime.Runtime (StaysGrounded)
open Step (Keeps)

variable (names : List String)

theorem supports_staysGrounded : Supports (StaysGrounded names) where
  fail _ _ := .of_same rfl fun _ _ _ _ here => here
  record _ _ := .of_same rfl fun _ _ _ _ here => here
  newList _ := .of_same rfl fun _ _ _ _ here => here
  newDict _ := .of_same rfl fun _ _ _ _ here => here
  putList _ _ _ := .of_same rfl fun _ _ _ _ here => here
  putDict _ _ _ := .of_same rfl fun _ _ _ _ here => here
  putCell _ _ _ v _ cell := .putCell cell v

/-- A write to a path of a grounded runtime registers no name, unless the path is bare and of a name
that is not registered. -/
theorem setPathValue_staysGrounded {write : Address → Value → Act Unit}
    (writes : ∀ a v, Keeps (StaysGrounded names) (write a v)) {r : Runtime} {path : Path}
    (registered : path.segments = [] → ∀ name, path.root.kind.dataRoot? = some name →
      name ∈ r.rootNames) (scope : Address) (locked : Bool) (v : Value) :
    StaysGrounded names r (setPathValue write scope path locked v r).2 := by
  rintro ⟨grounded,rfl⟩
  have known (name : String) (kind : path.root.kind.dataRoot? = some name)
      (may : path.segments = [] ∨ r.rootSpot scope path.root = .ok .null) : name ∈ r.rootNames := by
    obtain bare | null := may
    · exact registered bare name kind
    · cases found : r.rootValue? name with
      | some v => exact Runtime.mem_rootNames.mpr (by rw [found]; rfl)
      | none =>
        -- a name that is not registered is a fault, unless it is one of the page itself
        unfold Runtime.rootSpot at null
        dsimp only at null
        split at null
        · cases null
        · revert kind null
          cases path.root.kind with
          | global => rintro ⟨⟩ -; exact grounded.global
          | state => rintro ⟨⟩ -; exact grounded.state
          | named other =>
            rintro ⟨⟩ null
            obtain ⟨held,data,null⟩ := ok_of_bind null
            unfold Runtime.dataRoot at data
            split at data
            · rw [← Except.ok.inj data,found] at null
              cases null
            · cases data
          | _ => rintro ⟨⟩
  refine setPathValue_keeps (supports_staysGrounded r.rootNames) writes ?_ locked v ⟨grounded,rfl⟩
  rintro name kind may w mid ⟨midGrounded,same⟩
  have member : name ∈ mid.rootNames := same ▸ known name kind may
  exact StaysGrounded.of_same (Runtime.rootNames_setRoot member w) (fun _ _ _ _ here => here)
    ⟨midGrounded,same⟩

theorem setWithin_staysGrounded (fuel : Nat) (a : Address) (v : Value) :
    Keeps (StaysGrounded names) (setWithin fuel a v) := by
  refine setWithin_keeps (supports_staysGrounded names) ?_ fuel a v
  intro r a scope path locked here write writes v grounded
  exact setPathValue_staysGrounded names writes
    (fun bare name kind => grounded.1.handles a scope path locked name here bare kind) scope locked v
    grounded

namespace Target

variable {r : Runtime} {path : Path}

/-- Below a root that cannot be read, writing is refused with the fault of reading; and nothing that
is written below a root registers a name. -/
theorem set_below_root (below : path.segments ≠ []) (scope : Address) (v : Value) :
    (r.alive = true → ¬ r.Ignores path.root → ∀ fault, r.Faulty path.root fault →
      (place scope path).get.Refuses r fault ∧ ((place scope path).set v).Refuses r fault) ∧
    (r.Grounded → ((place scope path).set v r).2.Grounded ∧
      ((place scope path).set v r).2.rootNames = r.rootNames) := by
  constructor
  · intro alive heeded fault faulty
    have unreadable := (Runtime.rootSpot_error_iff alive scope).mpr faulty
    constructor
    · have unread : r.readHandle r.resolve (.path scope path false) = .error fault := by
        show r.rootSpot scope path.root >>= _ = _
        rw [unreadable]
        rfl
      exact .after (Step.read_run r) ((Act.Refuses.ofExcept unread r).bind _)
    · have unlocked : isLocked path false r = (.done false,r) := by
        rw [isLocked_run alive,Runtime.heeds_iff.mp heeded]
      obtain ⟨key,rest,segments⟩ := List.exists_cons_of_ne_nil below
      refine .after (Act.store_run r) (.after unlocked ?_)
      rw [segments]
      exact Act.Refuses.bind (.after (Step.read_run r) (.ofExcept unreadable r)) _
  · intro grounded
    exact setPathValue_staysGrounded r.rootNames (setWithin_staysGrounded _ _)
      (fun bare => absurd bare below) scope false v ⟨grounded,rfl⟩

def rooted : Runtime := (Scope.makeRoot Page.initial).2

theorem rooted_grounded : rooted.Grounded where
  global := List.mem_cons_self
  state := List.mem_cons_of_mem _ List.mem_cons_self
  handles a scope path locked name here := by
    rw [rooted.handleAt_outside (Nat.zero_le a)] at here
    cases here

def belowUnregistered : Path := ⟨⟨.named "bogus",0⟩,[.field "x"]⟩

theorem set_below_root_unregistered :
    (place 0 belowUnregistered).get.Refuses rooted (.invalidRoot "bogus") ∧
      ((place 0 belowUnregistered).set (.int 1)).Refuses rooted (.invalidRoot "bogus") ∧
      ((place 0 belowUnregistered).set (.int 1) rooted).2.rootNames = ["global","state"] := by
  have heeded : ¬ rooted.Ignores belowUnregistered.root := Runtime.heeds_iff.mpr rfl
  have faulty : rooted.Faulty belowUnregistered.root (.invalidRoot "bogus") :=
    .name (Nat.zero_le 1) rfl rfl
  have below : belowUnregistered.segments ≠ [] := List.cons_ne_nil _ _
  obtain ⟨refused,kept⟩ := set_below_root (r := rooted) below 0 (.int 1)
  obtain ⟨got,set⟩ := refused rfl heeded _ faulty
  exact ⟨got,set,(kept rooted_grounded).2⟩

def farBelowFixed : Path := ⟨⟨.named "fixed",2⟩,[.field "a"]⟩

/-- A locked root ignores writes before its carets are looked at. -/
theorem set_ignores_carets : farBelowFixed.root.kind.isComputed = false ∧
    (place 0 farBelowFixed).get.Refuses Page.fixedRoot (.invalidCaret "2") ∧
    (place 0 farBelowFixed).set (.int 2) Page.fixedRoot = (.done (),Page.fixedRoot) := by
  refine ⟨rfl,⟨_,_,rfl,rfl,?_,rfl⟩,rfl⟩
  exact .of_adds (Page.fixedRoot.store.newFailure_adds _)

end Target
end Reference
end PageRuntime
