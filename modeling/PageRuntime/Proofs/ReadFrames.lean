import PageRuntime.Proofs.LockedRoots
import PageRuntime.Proofs.Rereading

/-! Frames of readings. A reading goes from spot to spot, to members and through the handles behind
references. A runtime that has the same wherever it comes reads the same; so if nothing that it may meet
has changed, it reads as before. -/
namespace PageRuntime

/-- What a member of the spot is looked up in. -/
inductive Store.Consults (s : Store) : Spot → Value → Prop
  | itself (u : Value) : Consults s (.value u) u
  | bindings {spot : Spot} {scope above : Address} (shows : Runtime.Shows s spot scope)
      (up : above ∈ s.chain scope) : Consults s spot (.dict (s.scopeAt above).specials)

namespace Runtime

/-- Reading from `start`, whichever accessors are taken there, may come to the spot with these accessors
left to take. -/
inductive Meets (r : Runtime) (start : Spot) : Spot → List Segment → Prop
  | start (keys : List Segment) : Meets r start start keys
  | member {spot : Spot} {key : Segment} {rest : List Segment} (met : Meets r start spot (key :: rest)) :
      Meets r start (.value (r.store.member spot key)) rest
  | path {a scope : Address} {path : Path} {locked : Bool} {below : Spot} {rest : List Segment}
      (met : Meets r start (.value (.ref a)) rest)
      (here : r.store.handleAt a = .path scope path locked)
      (rooted : r.rootSpot scope path.root = .ok below) : Meets r start below (path.segments ++ rest)
  | sub {a parent : Address} {key : Segment} {rest : List Segment}
      (met : Meets r start (.value (.ref a)) rest) (here : r.store.handleAt a = .sub parent key) :
      Meets r start (.value (.ref parent)) (key :: rest)
  | locked {a inner : Address} {rest : List Segment} (met : Meets r start (.value (.ref a)) rest)
      (here : r.store.handleAt a = .locked inner) : Meets r start (.value (.ref inner)) rest
  | cell {a : Address} {v : Value} {label : String} {rest : List Segment}
      (met : Meets r start (.value (.ref a)) rest) (here : r.store.handleAt a = .cell v label) :
      Meets r start (.value v) rest

/-- Spots that are met, each with the accessors left to take there. -/
abbrev Visits := Spot → List Segment → Prop

/-- Where something is met, the spots that reading comes to from there are met too. -/
structure Follows (r : Runtime) (met : Visits) : Prop where
  member : ∀ {spot key rest}, met spot (key :: rest) → met (.value (r.store.member spot key)) rest
  path : ∀ {a scope path locked below rest}, met (.value (.ref a)) rest →
    r.store.handleAt a = .path scope path locked → r.rootSpot scope path.root = .ok below →
      met below (path.segments ++ rest)
  sub : ∀ {a parent key rest}, met (.value (.ref a)) rest → r.store.handleAt a = .sub parent key →
    met (.value (.ref parent)) (key :: rest)
  locked : ∀ {a inner rest}, met (.value (.ref a)) rest → r.store.handleAt a = .locked inner →
    met (.value (.ref inner)) rest
  cell : ∀ {a v label rest}, met (.value (.ref a)) rest → r.store.handleAt a = .cell v label →
    met (.value v) rest

/-- The other runtime has the same wherever something is met. -/
structure Echoes (r other : Runtime) (met : Visits) : Prop where
  handles : other.store.handles.size = r.store.handles.size
  member : ∀ {spot key rest}, met spot (key :: rest) →
    other.store.member spot key = r.store.member spot key
  handleAt : ∀ {a rest}, met (.value (.ref a)) rest → other.store.handleAt a = r.store.handleAt a
  roots : ∀ {a rest scope path locked}, met (.value (.ref a)) rest →
    r.store.handleAt a = .path scope path locked →
      other.rootSpot scope path.root = r.rootSpot scope path.root

namespace Follows

variable {r other : Runtime} {met : Visits}

section

variable {resolve again : Address → Except Fault Spot}
  (agrees : ∀ a rest, met (.value (.ref a)) rest →
    again a = resolve a ∧ ∀ spot, resolve a = .ok spot → met spot rest)
include agrees

theorem follow {spot : Spot} {rest : List Segment} (here : met spot rest) :
    spot.follow again = spot.follow resolve ∧
      ∀ last, spot.follow resolve = .ok last → met last rest := by
  unfold Spot.follow
  split
  · exact agrees _ rest here
  · exact ⟨rfl,fun last same => Except.ok.inj same ▸ here⟩

theorem step (follows : r.Follows met) (echoes : r.Echoes other met) {spot : Spot} {key : Segment}
    {rest : List Segment} (here : met spot (key :: rest)) :
    spot.step again other.store key = spot.step resolve r.store key ∧
      ∀ next, spot.step resolve r.store key = .ok next → met (.value next) rest := by
  obtain ⟨same,meets⟩ := follow agrees here
  rw [Spot.step,Spot.step,same]
  cases followed : spot.follow resolve with
  | error fault => exact ⟨rfl,fun _ ran => by cases ran⟩
  | ok holder =>
    have here := meets holder followed
    exact ⟨congrArg Except.ok (echoes.member here),fun next ran => Except.ok.inj ran ▸ follows.member here⟩

theorem walk (follows : r.Follows met) (echoes : r.Echoes other met) (keys : List Segment) {spot : Spot}
    {rest : List Segment} (here : met spot (keys ++ rest)) :
    spot.walk again other.store keys = spot.walk resolve r.store keys ∧
      ∀ last, spot.walk resolve r.store keys = .ok last → met last rest := by
  -- the accessors after those walked stay as they are, so what is reached is met with them left
  induction keys generalizing spot with
  | nil => exact ⟨rfl,fun last same => Except.ok.inj same ▸ here⟩
  | cons key keys ih =>
    obtain ⟨same,meets⟩ := step agrees follows echoes here
    rw [Spot.walk_cons,Spot.walk_cons,same]
    cases stepped : spot.step resolve r.store key with
    | error fault => exact ⟨rfl,fun _ ran => by cases ran⟩
    | ok next => exact ih (meets next stepped)

theorem reach (follows : r.Follows met) (echoes : r.Echoes other met) (keys : List Segment) {spot : Spot}
    {rest : List Segment} (here : met spot (keys ++ rest)) :
    spot.walk again other.store keys >>= Spot.follow again =
        spot.walk resolve r.store keys >>= Spot.follow resolve ∧
      ∀ last, spot.walk resolve r.store keys >>= Spot.follow resolve = .ok last → met last rest := by
  obtain ⟨same,meets⟩ := walk agrees follows echoes keys here
  rw [same]
  cases walked : spot.walk resolve r.store keys with
  | error fault => exact ⟨rfl,fun _ ran => by cases ran⟩
  | ok last => exact follow agrees (meets last walked)

end

variable (follows : r.Follows met) (echoes : r.Echoes other met)
include follows echoes

theorem resolveWithin (fuel : Nat) (a : Address) (rest : List Segment)
    (here : met (.value (.ref a)) rest) : other.resolveWithin fuel a = r.resolveWithin fuel a ∧
      ∀ spot, r.resolveWithin fuel a = .ok spot → met spot rest := by
  -- a handle is read by reading others, which are met with the accessors that lead on from them
  induction fuel generalizing a rest with
  | zero => exact ⟨rfl,fun _ ran => by cases ran⟩
  | succ fuel ih =>
    rw [Runtime.resolveWithin,Runtime.resolveWithin,echoes.handleAt here]
    cases handle : r.store.handleAt a with
    | path scope path locked =>
      dsimp only [readHandle]
      rw [echoes.roots here handle]
      cases rooted : r.rootSpot scope path.root with
      | error fault => exact ⟨rfl,fun _ ran => by cases ran⟩
      | ok below => exact reach ih follows echoes path.segments (follows.path here handle rooted)
    | sub parent key =>
      have here := follows.sub here handle
      obtain ⟨same,meets⟩ := ih parent _ here
      dsimp only [readHandle]
      rw [same]
      cases above : r.resolveWithin fuel parent with
      | error fault => exact ⟨rfl,fun _ ran => by cases ran⟩
      | ok container =>
        have here := meets container above
        show (Spot.value (other.store.member container key)).follow _ = _ ∧ _
        rw [echoes.member here]
        exact follow ih (follows.member here)
    | locked inner => exact ih inner rest (follows.locked here handle)
    | cell v label => exact follow ih (follows.cell here handle)

theorem resolve (a : Address) (rest : List Segment) (here : met (.value (.ref a)) rest) :
    other.resolve a = r.resolve a ∧ ∀ spot, r.resolve a = .ok spot → met spot rest := by
  rw [Runtime.resolve,Runtime.resolve,echoes.handles]
  exact resolveWithin follows echoes _ a rest here

end Follows

/-- Nothing has changed that reading from `start` may meet. -/
structure Undisturbed (r after : Runtime) (start : Spot) : Prop where
  scopes : r.store.SameScopes after.store
  handles : after.store.handles.size = r.store.handles.size
  objects : ∀ spot rest, r.Meets start spot rest → ∀ u, r.store.Consults spot u → ∀ shelf a,
    u.spot? = some (shelf,a) → after.store.object shelf a = r.store.object shelf a
  roots : ∀ a rest, r.Meets start (.value (.ref a)) rest → ∀ scope path locked,
    r.store.handleAt a = .path scope path locked →
      after.rootSpot scope path.root = r.rootSpot scope path.root

namespace Undisturbed

variable {r after : Runtime} {start : Spot} (still : r.Undisturbed after start)
include still

theorem member {spot : Spot} {key : Segment} {rest : List Segment}
    (met : r.Meets start spot (key :: rest)) :
    after.store.member spot key = r.store.member spot key := by
  have bound {scope : Address} (shows : Shows r.store spot scope) (key : Key) :
      after.store.contextKey scope key = r.store.contextKey scope key :=
    still.scopes.contextKey (fun above up =>
      Object.entries.inj (still.objects spot _ met _ (.bindings shows up) .dict _ rfl)) key
  cases spot with
  | bindings scope => exact bound (.inl rfl) _
  | items values => rfl
  | value u =>
    have same := still.objects _ _ met u (.itself u)
    by_cases view : ∃ a, u = .context a
    · obtain ⟨a,rfl⟩ := view
      have same : after.store.contextAt a = r.store.contextAt a := Object.context.inj (same .context a rfl)
      simp only [Store.member,same]
      exact bound (.inr ⟨a,rfl,rfl⟩) _
    · exact Store.member_congr (fun a here => view ⟨a,here⟩) same key

theorem echoes : r.Echoes after (r.Meets start) where
  handles := still.handles
  member := still.member
  handleAt met := Object.handle.inj (still.objects _ _ met _ (.itself _) .handle _ rfl)
  roots met here := still.roots _ _ met _ _ _ here

/-- What is read from `start` is what was read there, and reading meets it. -/
theorem read (keys : List Segment) :
    start.walk after.resolve after.store keys >>= Spot.follow after.resolve =
        start.walk r.resolve r.store keys >>= Spot.follow r.resolve ∧
      ∀ last, start.walk r.resolve r.store keys >>= Spot.follow r.resolve = .ok last →
        r.Meets start last [] :=
  have follows : r.Follows (r.Meets start) := ⟨.member,.path,.sub,.locked,.cell⟩
  Follows.reach (follows.resolve still.echoes) follows still.echoes keys (.start (keys ++ []))

end Undisturbed
end Runtime
end PageRuntime
