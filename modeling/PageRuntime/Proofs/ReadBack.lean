import PageRuntime.Proofs.ReadFrames
import PageRuntime.Proofs.Storing

/-! Reading back. After a write below a data root that nothing leads out of, its path reads as the value,
and what the write has nothing to do with reads as before. That the root is not resolved when it is
written by a bare path is the one exception. -/
namespace PageRuntime
open Reference (isFixed)

namespace Runtime

variable {r after : Runtime}

/-- What is read at a path, seen from a scope. -/
def readPath (r : Runtime) (scope : Address) (path : Path) : Except Fault Spot :=
  r.readHandle r.resolve (.path scope path false)

theorem readPath_far {path : Path} (far : 1 < path.root.caret) (scope : Address) :
    r.readPath scope path = .error (.invalidCaret (toString path.root.caret)) := by
  have unreadable : r.rootSpot scope path.root = .error (.invalidCaret (toString path.root.caret)) := by
    unfold rootSpot
    simp only [if_pos far]
  unfold readPath
  dsimp only [readHandle]
  rw [unreadable]
  rfl

theorem readPath_data {name : String} {x : Value} (alive : r.alive = true)
    (held : r.rootValue? name = some x) {path : Path} (kind : path.root.kind.dataRoot? = some name)
    (near : path.root.caret ≤ 1) (scope : Address) : r.readPath scope path =
      Spot.walk r.resolve r.store path.segments (.value x) >>= Spot.follow r.resolve := by
  unfold readPath
  dsimp only [readHandle]
  rw [rootSpot_registered alive held kind near]
  rfl

theorem Meets.present (closed : r.Closed) {start spot : Spot} {rest : List Segment}
    (present : start.Alike r.store.identity start) (met : r.Meets start spot rest) :
    spot.Alike r.store.identity spot := by
  have handle {a : Address} (present : (Spot.value (.ref a)).Alike r.store.identity (.value (.ref a))) :
      (r.store.handleAt a).Alike r.store.identity (r.store.handleAt a) := by
    cases present with
    | value present =>
      cases present with
      | ref linked => exact closed.store.handleAt linked
  induction met with
  | start keys => exact present
  | member _ ih => exact .value (closed.store.member ih _)
  | path _ here rooted ih =>
    have alike := handle ih
    rw [here] at alike
    cases alike with
    | path linked => exact rootSpot_present closed linked.2 rooted
  | sub _ here ih =>
    have alike := handle ih
    rw [here] at alike
    cases alike with
    | sub linked => exact .value (.ref linked)
  | locked _ here ih =>
    have alike := handle ih
    rw [here] at alike
    cases alike with
    | locked linked => exact .value (.ref linked)
  | cell _ here ih =>
    have alike := handle ih
    rw [here] at alike
    cases alike with
    | cell alike => exact .value alike

theorem Meets.consulted (closed : r.Closed) {start spot : Spot} {rest : List Segment}
    (present : start.Alike r.store.identity start) (met : r.Meets start spot rest) {u : Value}
    (consults : r.store.Consults spot u) : u.Present r.store := by
  have there := met.present closed present
  cases consults with
  | itself =>
    cases there with
    | value present => exact present
  | @bindings _ scope above shows up =>
    have linked : r.store.identity .scope scope scope := ⟨rfl,shows.inside closed rfl there⟩
    have above := List.forall₂_same.mp (closed.store.chain linked) above up
    exact .dict (closed.store.scopeAt above).specials

/-- Nothing that can change is both within the data root and met when reading from the value or held by
what is read there, and no path that is met starts from the root. -/
structure SharesNothing (r : Runtime) (name : String) (root x : Value) : Prop where
  met : ∀ spot rest, r.Meets (.value x) spot rest → ∀ u, r.store.Consults spot u →
    u.isMutable = true → ¬ r.store.Within root u
  held : ∀ u, r.Meets (.value x) (.value u) [] → ∀ w, r.store.Within u w → w.isMutable = true →
    ¬ r.store.Within root w
  paths : ∀ a rest, r.Meets (.value x) (.value (.ref a)) rest → ∀ scope path locked,
    r.store.handleAt a = .path scope path locked → path.root.kind.dataRoot? ≠ some name

/-- The value has been set below the root `name`, which held `x` and now holds `y`. -/
structure Stored (r after : Runtime) (name : String) (v x y : Value) (keys : List Segment) : Prop where
  alive : after.alive = r.alive
  root : after.rootValue? name = some y
  roots : ∀ other, other ≠ name → after.rootValue? other = r.rootValue? other
  scopes : r.store.SameScopes after.store
  handles : after.store.handles.size = r.store.handles.size
  kept : ∀ shelf a, a < r.store.sizeOf shelf →
    (∀ z, r.store.Within x z → z.isMutable = true → z.spot? ≠ some (shelf,a)) →
    after.store.object shelf a = r.store.object shelf a
  sets : r.store.Sets after.store v x y keys

namespace Stored

variable {name : String} {v x y : Value} {keys : List Segment} (stored : r.Stored after name v x y keys)
include stored

theorem rootSpot {root : Root} (elsewhere : root.kind.dataRoot? ≠ some name) (scope : Address) :
    after.rootSpot scope root = r.rootSpot scope root :=
  rootSpot_congr stored.scopes stored.alive
    (fun other kind => stored.roots other fun here => elsewhere (here ▸ kind)) scope

theorem object {u : Value} (present : u.Present r.store)
    (apart : u.isMutable = true → ¬ r.store.Within x u) (shelf : Shelf) (a : Address)
    (here : u.spot? = some (shelf,a)) : after.store.object shelf a = r.store.object shelf a := by
  refine stored.kept shelf a (present.inside shelf a here) fun z within mutable there => ?_
  obtain rfl := Value.spot_inj there here
  exact apart mutable within

theorem undisturbed (closed : r.Closed) {w : Value} (present : w.Present r.store)
    (shares : r.SharesNothing name x w) : r.Undisturbed after (.value w) where
  scopes := stored.scopes
  handles := stored.handles
  objects _ _ met _ consults :=
    stored.object (met.consulted closed (.value present) consults)
      (shares.met _ _ met _ consults)
  roots a rest met scope path locked here := stored.rootSpot (shares.paths a rest met scope path locked here) scope

theorem read {path : Path} (alive : r.alive = true) (kind : path.root.kind.dataRoot? = some name)
    (near : path.root.caret ≤ 1) {u : Value} (finds : after.store.Finds y path.segments u)
    (scope : Address) : after.readPath scope path = .ok (.value u) := by
  rw [readPath_data (stored.alive.trans alive) stored.root kind near]
  exact finds.read after.resolve

end Stored

/-- The path reads as before, and what is read there is as it was. -/
def ReadsOn (r after : Runtime) (scope : Address) (path : Path) : Prop :=
  after.readPath scope path = r.readPath scope path ∧
    ∀ u, r.readPath scope path = .ok (.value u) → r.store.Intact after.store u

theorem ReadsOn.far {path : Path} (far : 1 < path.root.caret) (scope : Address) :
    r.ReadsOn after scope path := by
  refine ⟨(readPath_far far scope).trans (readPath_far far scope).symm,fun u same => ?_⟩
  cases (readPath_far far scope).symm.trans same

namespace Stored

variable {name : String} {v x y : Value} {keys : List Segment} (stored : r.Stored after name v x y keys)
  (alive : r.alive = true) {path : Path} (scope : Address)
include stored alive

theorem beside (held : r.rootValue? name = some x) (kind : path.root.kind.dataRoot? = some name)
    (forward : ¬ Backward path.segments) (parts : Parts keys path.segments) :
    r.ReadsOn after scope path := by
  by_cases near : path.root.caret ≤ 1
  · obtain ⟨u,before,now,intact⟩ := stored.sets.elsewhere path.segments forward parts
    have reads : r.readPath scope path = .ok (.value u) := by
      rw [readPath_data alive held kind near]
      exact before.read r.resolve
    refine ⟨(stored.read alive kind near now scope).trans reads.symm,fun w same => ?_⟩
    cases reads.symm.trans same
    exact intact
  · exact .far (Nat.lt_of_not_le near) scope

theorem apart (closed : r.Closed) {other : String} (differ : other ≠ name) {w : Value}
    (held : r.rootValue? other = some w) (shares : r.SharesNothing name x w)
    (kind : path.root.kind.dataRoot? = some other) : r.ReadsOn after scope path := by
  by_cases near : path.root.caret ≤ 1
  · have present := closed.rootHeld held
    have still := stored.undisturbed closed present shares
    have reads := readPath_data alive held kind near scope
    obtain ⟨again,meets⟩ := still.read path.segments
    refine ⟨?_,fun u same z within => ?_⟩
    · have held : after.rootValue? other = some w := (stored.roots other differ).trans held
      rw [reads,readPath_data (stored.alive.trans alive) held kind near]
      exact again
    · rw [reads] at same
      have met := meets _ same
      have there := within.present closed (met.consulted closed (.value present) (.itself u))
      exact stored.object there (shares.held u met z within)
  · exact .far (Nat.lt_of_not_le near) scope

end Stored

/-- The scopes are the same, and there are as many handles. -/
def SameFooting (r after : Runtime) : Prop :=
  r.store.SameScopes after.store ∧ after.store.handles.size = r.store.handles.size

instance : Std.Refl SameFooting := ⟨fun r => ⟨.refl r.store,rfl⟩⟩

instance : Trans SameFooting SameFooting SameFooting :=
  ⟨fun first second => ⟨first.1.trans second.1,second.2.trans first.2⟩⟩

end Runtime

namespace Reference
open PageRuntime.Runtime (SameFooting Stored)
open Step (Keeps)

theorem supports_sameFooting : Supports SameFooting where
  fail _ _ := ⟨⟨rfl,fun _ => rfl⟩,rfl⟩
  record _ _ := ⟨⟨rfl,fun _ => rfl⟩,rfl⟩
  newList _ := ⟨⟨rfl,fun _ => rfl⟩,rfl⟩
  newDict _ := ⟨⟨rfl,fun _ => rfl⟩,rfl⟩
  putList _ _ _ := ⟨⟨rfl,fun _ => rfl⟩,rfl⟩
  putDict _ _ _ := ⟨⟨rfl,fun _ => rfl⟩,rfl⟩
  putCell _ _ _ _ _ _ := ⟨⟨rfl,fun _ => rfl⟩,Table.size_set _ _ _⟩

theorem setPathValue_sameFooting (fuel : Nat) (scope : Address) (path : Path) (locked : Bool)
    (v : Value) : Keeps SameFooting (setPathValue (setWithin fuel) scope path locked v) := by
  have paths {write : Address → Value → Act Unit} (writes : ∀ a v, Keeps SameFooting (write a v))
      (r : Runtime) (scope : Address) (path : Path) (locked : Bool) (v : Value) :
      SameFooting r (setPathValue write scope path locked v r).2 :=
    setPathValue_keeps supports_sameFooting writes (fun _ _ _ _ r => ⟨.refl r.store,rfl⟩) locked v
  have writes := setWithin_keeps supports_sameFooting
    (fun r _ scope path locked _ _ writes v => paths writes r scope path locked v) fuel
  exact fun r => paths writes r scope path locked v

theorem isComputed_data {kind : RootKind} {name : String} (data : kind.dataRoot? = some name) :
    kind.isComputed = false := by
  cases kind <;> first | rfl | cases data

theorem isLocked_alive {path : Path} {name : String} (kind : path.root.kind.dataRoot? = some name)
    {r after : Runtime} {shut : Bool} (ran : isLocked path false r = (.done shut,after)) :
    r.alive = true := by
  by_contra released
  have failed : (Act.fail .released : Act Bool) r = (.done shut,after) := by
    rw [← ran,isLocked,isComputed_data kind,kind]
    show _ = (if r.alive = true then _ else _ : Act Bool) r
    rw [if_neg released]
  cases failed

section

variable {write : Address → Value → Act Unit} {r after : Runtime} {scope : Address} {path : Path}
  {name : String} {root v : Value} (closed : r.Closed) (held : r.rootValue? name = some root)
  (alone : r.store.SelfContained root) (apart : (r.store.layout [root]).Apart)
  (kind : path.root.kind.dataRoot? = some name) (plain : ∀ a, v ≠ .ref a) (footing : r.SameFooting after)
include held kind plain footing

theorem setRootPath_stored (direct : ∀ a, root ≠ .ref a)
    (ran : setRootPath write path v r = (.done (),after)) : r.Stored after name v root v [] := by
  have sets : setRootPath write path v r = setRootValue name v r := by
    rw [setRootPath,kind]
    dsimp only
    rw [Step.bind_done (Step.read_run r),held]
    cases root <;> first | rfl | exact absurd rfl (direct _)
  cases sets.symm.trans ran
  exact ⟨rfl,Named.lookup_set_self name v r.roots,
    fun other differ => Named.lookup_set_of_ne differ v r.roots,footing.1,footing.2,fun _ _ _ _ => rfl,
    .nil plain⟩

include closed alone apart

theorem setBelowRoot_stored {key : Segment} {rest : List Segment} (forward : ¬ Backward (key :: rest))
    (free : r.store.Unfixed root (key :: rest))
    (ran : setBelowRoot write scope path key rest v r = (.done (),after)) :
    ∃ y, r.Stored after name v root y (key :: rest) := by
  obtain ⟨start,mid,found,onwards⟩ := Step.done_of_bind ran
  obtain ⟨rooted,rfl⟩ := Act.ofExcept_done found
  have here := rootValue_of_rootSpot kind rooted
  rw [held] at here
  have here : start = .value root := here
  subst here
  by_cases missing : root = .null
  · subst missing
    rw [kind] at onwards
    obtain ⟨made,base,grew,lacks,blank,but,onwards⟩ := setNullRoot_done onwards
    refine ⟨made,?_,?_,fun other differ => ?_,footing.1,footing.2,fun shelf a inside _ => ?_,
      descend_blank_sets plain (show (base.setRoot name made).Blank key made from blank) forward onwards⟩
    · exact (but.alive).trans grew.alive
    · rw [but.rootValue?]
      exact Named.lookup_set_self name made base.roots
    · rw [but.rootValue?,← grew.rootValue? other]
      exact Named.lookup_set_of_ne differ made base.roots
    · obtain ⟨between,same⟩ := grew.store shelf a inside
      refine ((but.2 shelf a between).2 fun here => ?_).trans same
      exact absurd inside (Nat.not_lt.mpr (lacks shelf a here))
  · have present := closed.rootHeld held
    have found : Spot.value root ≠ .null := fun same => missing (Spot.value.inj same)
    rw [if_neg found] at onwards
    obtain ⟨z,within,mutable,but,sets⟩ := descend_sets closed present apart alone plain forward free onwards
    refine ⟨root,but.alive,(but.rootValue? name).trans held,fun other _ => but.rootValue? other,footing.1,
      footing.2,fun shelf a inside elsewhere => ?_,sets⟩
    exact (but.2 shelf a inside).2 (elsewhere z within mutable)

/-- A write below a data root that nothing leads out of stores the value there. -/
theorem setPathValue_stored (writable : r.isLocked name = false) (forward : ¬ Backward path.segments)
    (free : r.store.Unfixed root path.segments)
    (ran : setPathValue write scope path false v r = (.done (),after)) :
    r.alive = true ∧ ∃ y, r.Stored after name v root y path.segments := by
  obtain ⟨shut,mid,unlocked,ran⟩ := Step.done_of_bind ran
  obtain rfl := isLocked_still unlocked
  refine ⟨isLocked_alive kind unlocked,?_⟩
  cases shut with
  | true =>
    obtain computed | ⟨other,same,locked⟩ := (isLocked_done unlocked).mp rfl
    · rw [isComputed_data kind] at computed
      cases computed
    · cases kind.symm.trans same
      rw [writable] at locked
      cases locked
  | false =>
    cases segments : path.segments with
    | nil =>
      simp only [segments] at ran
      exact ⟨v,setRootPath_stored held kind plain footing (alone root .self).1 ran⟩
    | cons key rest =>
      simp only [segments] at ran
      rw [segments] at forward free
      exact setBelowRoot_stored closed held alone apart kind plain footing forward free ran

end

namespace Target

variable {r after : Runtime} {scope : Address} {path : Path} {u : Value}

theorem get_done (reads : r.readPath scope path = .ok (.value u)) :
    (place scope path).get r = (.done u,r) := by
  show (Act.ofExcept (r.readPath scope path) >>= Spot.realize) r = _
  rw [reads]
  rfl

theorem get_refuses {fault : Fault} (faulty : r.readPath scope path = .error fault) :
    (place scope path).get.Refuses r fault :=
  .after (Step.read_run r) ((Act.Refuses.ofExcept faulty r).bind _)

/-- After a write below a data root that nothing leads out of, its path reads as the value if and only if
the root can be read at all; a path that parts from it, on the root or on one that shares nothing with
it, reads as before. -/
theorem set_reads_back {name : String} {root v : Value} (closed : r.Closed)
    (held : r.rootValue? name = some root) (writable : r.isLocked name = false)
    (alone : r.store.SelfContained root) (apart : (r.store.layout [root]).Apart)
    (kind : path.root.kind.dataRoot? = some name) (forward : ¬ Backward path.segments)
    (free : r.store.Unfixed root path.segments) (plain : ∀ a, v ≠ .ref a)
    (ran : (place scope path).set v r = (.done (),after)) :
    ((place scope path).get after = (.done v,after) ↔ path.root.caret ≤ 1) ∧
      (∀ viewer other, other.root.kind.dataRoot? = some name → ¬ Backward other.segments →
        Parts path.segments other.segments → r.ReadsOn after viewer other) ∧
      ∀ viewer other another x, another ≠ name → r.rootValue? another = some x →
        r.SharesNothing name root x → other.root.kind.dataRoot? = some another →
          r.ReadsOn after viewer other := by
  have ran : setPathValue (setWithin (depth r.store)) scope path false v r = (.done (),after) := ran
  have footing := setPathValue_sameFooting (depth r.store) scope path false v r
  rw [ran] at footing
  obtain ⟨alive,y,stored⟩ := setPathValue_stored closed held alone apart kind plain footing writable
    forward free ran
  refine ⟨⟨fun got => ?_,fun near => ?_⟩,?_,?_⟩
  · by_contra far
    obtain ⟨failure,last,refused,-⟩ := get_refuses (Runtime.readPath_far (r := after)
      (Nat.lt_of_not_le far) scope)
    rw [got] at refused
    cases refused
  · exact get_done (stored.read alive kind near stored.sets.here scope)
  · intro viewer other otherKind counted parts
    exact stored.beside alive viewer held otherKind counted parts
  · intro viewer other another x differ anotherHeld shares otherKind
    exact stored.apart alive viewer closed differ anotherHeld shares otherKind

def beyondEnd : Path := ⟨⟨.state,0⟩,[.index 1,.field "a"]⟩

theorem listed_meets {spot : Spot} {rest : List Segment}
    (met : listed.Meets (.value (.dict 0)) spot rest) : spot = .value (.dict 0) ∨ spot = .null := by
  induction met with
  | start keys => exact .inl rfl
  | member _ ih => obtain rfl | rfl := ih <;> exact .inr rfl
  | path _ _ _ ih => obtain same | same := ih <;> cases same
  | sub _ _ ih => obtain same | same := ih <;> cases same
  | locked _ _ ih => obtain same | same := ih <;> cases same
  | cell _ _ ih => obtain same | same := ih <;> cases same

/-- Filling up a list and making a dictionary in it. -/
theorem set_reads_back_listed : ∃ after, (place 0 beyondEnd).set (.int 5) listed = (.done (),after) ∧
    (place 0 beyondEnd).get after = (.done (.int 5),after) ∧
    listed.ReadsOn after 0 ⟨⟨.state,0⟩,[.index 0]⟩ ∧ listed.ReadsOn after 0 ⟨⟨.global,0⟩,[]⟩ := by
  have ran : (place 0 beyondEnd).set (.int 5) listed =
      (.done (),((place 0 beyondEnd).set (.int 5) listed).2) := rfl
  have only {u : Value} (within : listed.store.Within (.list 0) u) : u = .list 0 := by
    obtain rfl | ⟨w,held,-⟩ := within.first
    · rfl
    · cases held
  have alone : listed.store.SelfContained (.list 0) := by
    intro u within
    obtain rfl := only within
    exact ⟨nofun,nofun⟩
  have free : listed.store.Unfixed (.list 0) beyondEnd.segments := by
    rintro before last ⟨more,split⟩
    obtain _ | ⟨first,_ | ⟨second,before⟩⟩ := before
    · rfl
    · cases split
      rfl
    · simp [beyondEnd] at split
  have forward : ¬ Backward beyondEnd.segments :=
    not_backward_cons.mpr ⟨by rintro place ⟨⟩; decide,by simp [Backward]⟩
  obtain ⟨got,beside,apart⟩ := set_reads_back listed_closed rfl rfl alone
    (Store.layout_apart_of_leaf rfl) rfl forward free (fun _ same => by cases same) ran
  refine ⟨_,ran,got.mpr (Nat.zero_le 1),beside 0 _ rfl ?_ ?_,
    apart 0 _ "global" (.dict 0) (by decide) rfl ?_ rfl⟩
  · exact not_backward_cons.mpr ⟨by rintro place ⟨⟩; decide,by simp [Backward]⟩
  · constructor <;> simp [beyondEnd]
  · refine ⟨fun spot rest met u consults mutable inner => ?_,fun u met w held mutable inner => ?_,?_⟩
    · obtain rfl := only inner
      cases consults
      obtain same | same := listed_meets met <;> cases same
    · obtain rfl := only inner
      obtain same | same := listed_meets met <;> cases same
      · obtain same | ⟨x,member,-⟩ := held.first
        · cases same
        · cases member
      · cases Store.within_null held
    · intro a rest met
      obtain same | same := listed_meets met <;> cases same

def farState : Path := ⟨⟨.state,2⟩,[]⟩

/-- A root written by a bare path is not resolved, so the value cannot be read back there. -/
theorem set_reads_back_far : rooted.rootValue? "state" = some (.dict 1) ∧
    rooted.isLocked "state" = false ∧ rooted.store.members (.dict 1) = [] ∧
    ∃ after, (place 0 farState).set (.int 1) rooted = (.done (),after) ∧
      (place 0 farState).get.Refuses after (.invalidCaret "2") :=
  ⟨rfl,rfl,rfl,_,rfl,get_refuses (Runtime.readPath_far (by decide) 0)⟩

end Target
end Reference
end PageRuntime
