import PageRuntime.Proofs.Landings

/-! Lost writes. A write along a path that ends normally may not be seen there afterwards: a container
has spurned it, or it has gone into a list that was made for it, before the start of that list. In the
first case nothing has changed; in the second what was made for it stays behind. -/
namespace PageRuntime

/-- Some accessor counts from the end. -/
def Backward (keys : List Segment) : Prop := ∃ place : Int, .index place ∈ keys ∧ place < 0

theorem Store.not_spurns_null {s : Store} (key : Segment) (rest : List Segment) :
    ¬ s.Spurns (s.landing .null key rest).container (s.landing .null key rest).key := by
  have here : s.landing .null key rest = ⟨.null,key,rest⟩ := by
    cases rest with
    | nil => rfl
    | cons next rest => exact if_pos rfl
  rw [here]
  rintro (fixed | ⟨a,place,same,-⟩)
  · cases fixed
  · cases same

namespace Runtime

variable {r : Runtime} {scope : Address} {path : Path}

/-- A write along the path is passed over: below its root writes are ignored, or the container that it
lands in spurns it. -/
def PassesOver (r : Runtime) (scope : Address) (path : Path) : Prop :=
  r.Ignores path.root ∨ ∃ start key rest, r.rootSpot scope path.root = .ok start ∧
    path.segments = key :: rest ∧
    r.store.Spurns (r.store.landing start key rest).container (r.store.landing start key rest).key

/-- A write along the path is lost: it is passed over, or it counts from the end of a list that is
made for it. -/
def Loses (r : Runtime) (scope : Address) (path : Path) : Prop :=
  r.PassesOver scope path ∨ ∃ start key rest, r.rootSpot scope path.root = .ok start ∧
    path.segments = key :: rest ∧
    Backward (if start = .null then key :: rest else (r.store.landing start key rest).left)

theorem rootSpot_present (closed : r.Closed) (inside : scope < r.store.scopes.size) {root : Root}
    {start : Spot} (rooted : r.rootSpot scope root = .ok start) :
    start.Alike r.store.identity start := by
  have agree := closed.rootSpot ⟨rfl,inside⟩ root
  rw [rooted] at agree
  cases agree with
  | ok present => exact present

theorem rootSpot_listed {root : Root} {items : List Value}
    (rooted : r.rootSpot scope root = .ok (.items items)) : root.kind.isComputed = true := by
  cases data : root.kind.dataRoot? with
  | some name => cases Reference.rootValue_of_rootSpot data rooted
  | none =>
    unfold rootSpot at rooted
    dsimp only at rooted
    split at rooted
    · cases rooted
    · cases kind : root.kind <;> rw [kind] at rooted data <;> dsimp only at rooted
      case context => cases above : r.store.ancestor? scope root.caret <;> rw [above] at rooted <;> cases rooted
      case currentContext =>
        cases above : r.store.ancestor? scope root.caret <;> rw [above] at rooted <;> cases rooted
      all_goals first | rfl | cases rooted | cases data

section

variable (heeded : ¬ r.Ignores path.root) {start : Spot} {key : Segment} {rest : List Segment}
  (rooted : r.rootSpot scope path.root = .ok start) (segments : path.segments = key :: rest)
include rooted segments

include heeded in
theorem passesOver_iff : r.PassesOver scope path ↔
    r.store.Spurns (r.store.landing start key rest).container (r.store.landing start key rest).key := by
  constructor
  · rintro (ignored | ⟨other,k,more,otherRooted,split,spurns⟩)
    · exact absurd ignored heeded
    · cases rooted.symm.trans otherRooted
      cases segments.symm.trans split
      exact spurns
  · exact fun spurns => .inr ⟨start,key,rest,rooted,segments,spurns⟩

theorem backward_of_loses (lost : r.Loses scope path) (kept : ¬ r.PassesOver scope path) :
    Backward (if start = .null then key :: rest else (r.store.landing start key rest).left) := by
  obtain ⟨other,k,more,otherRooted,split,back⟩ := lost.resolve_left kept
  cases rooted.symm.trans otherRooted
  cases segments.symm.trans split
  exact back

end
end Runtime

namespace Reference

theorem isLocked_done {path : Path} {r after : Runtime} {shut : Bool}
    (ran : isLocked path false r = (.done shut,after)) : shut = true ↔ r.Ignores path.root := by
  unfold isLocked at ran
  unfold Runtime.Ignores
  cases computed : path.root.kind.isComputed with
  | true =>
    rw [computed] at ran
    cases ran
    simp
  | false =>
    rw [computed] at ran
    cases data : path.root.kind.dataRoot? with
    | none =>
      rw [data] at ran
      cases ran
      simp
    | some name =>
      rw [data] at ran
      by_cases alive : r.alive = true
      · have ran : (Outcome.done (r.isLocked name),r) = (.done shut,after) := by
          rw [← ran]
          show _ = (if r.alive = true then _ else _ : Act Bool) r
          rw [if_pos alive]
          rfl
        cases ran
        simp
      · have ran : (Act.fail .released : Act Bool) r = (.done shut,after) := by
          rw [← ran]
          show _ = (if r.alive = true then _ else _ : Act Bool) r
          rw [if_neg alive]
        cases ran

theorem MadeBelow.not_grew {write : Address → Value → Act Unit} {v : Value} {r after : Runtime}
    {landing : Landing} (closed : r.Closed)
    (present : landing.container.Alike r.store.identity landing.container)
    (made : MadeBelow write v r landing after) : ¬ r.Grew after := by
  intro whole
  obtain ⟨next,more,made,base,mid,-,grew,-,lacks,⟨shelf,a,o,t,enters,puts,rfl⟩,blank,ran⟩ := made
  have inside := Store.Enters.inside closed grew present enters
  obtain ⟨last,run,but,-⟩ := descend_blank write blank more v
  obtain rfl : last = after := (Prod.mk.inj (run.symm.trans ran)).2
  obtain ⟨between,-⟩ := grew.store shelf a inside
  have elsewhere : made.spot? ≠ some (shelf,a) := fun here =>
    absurd inside (Nat.not_lt.mpr (lacks shelf a here))
  have held : r.store.object shelf a = o := by
    rw [← (whole.store shelf a inside).2,
      (but.2 shelf a ((puts.sizes shelf).symm ▸ between)).2 elsewhere]
    exact puts.object between
  refine enters.foreign (blank.fresh lacks) ?_
  rw [← held]
  exact closed.store.objects shelf a a ⟨rfl,inside⟩

/-- A root that reads as null is given a container, and the write goes on in it. -/
theorem setNullRoot_done {write : Address → Value → Act Unit} {name : String} {key : Segment}
    {rest : List Segment} {v : Value} {r after : Runtime}
    (ran : (do
      let made ← emptyFor key
      setRootValue name made
      descend write (.value made) key rest v) r = (.done (),after)) :
    ∃ made base, r.Grew base ∧ r.Lacks made ∧ base.Blank key made ∧
      (base.setRoot name made).GrewBut made after ∧
      descend write (.value made) key rest v (base.setRoot name made) = (.done (),after) := by
  obtain ⟨made,s,makes,grew,blank,lacks,-,-⟩ := emptyFor_run key r
  rw [Step.bind_done makes] at ran
  obtain ⟨last,run,but,-⟩ := descend_blank write
    (show (({ r with store := s } : Runtime).setRoot name made).Blank key made from blank) rest v
  obtain rfl : last = after := (Prod.mk.inj (run.symm.trans ran)).2
  exact ⟨made,_,grew,lacks,blank,but,ran⟩

theorem setBelowRoot_lost {r after : Runtime} (closed : r.Closed) {scope : Address}
    (inside : scope < r.store.scopes.size) {path : Path} (heeded : ¬ r.Ignores path.root)
    {key : Segment} {rest : List Segment} (segments : path.segments = key :: rest)
    (direct : ∀ start, r.rootSpot scope path.root = .ok start → r.store.Direct start (key :: rest))
    (lost : r.Loses scope path) {write : Address → Value → Act Unit} {v : Value}
    (ran : setBelowRoot write scope path key rest v r = (.done (),after)) :
    r.Grew after ↔ r.PassesOver scope path := by
  obtain ⟨start,mid,found,onwards⟩ := Step.done_of_bind ran
  obtain ⟨rooted,rfl⟩ := Act.ofExcept_done found
  have passes := Runtime.passesOver_iff heeded rooted segments
  have back := Runtime.backward_of_loses rooted segments lost
  by_cases missing : start = .null
  · subst missing
    refine iff_of_false (fun whole => ?_) (mt passes.mp (Store.not_spurns_null key rest))
    cases data : path.root.kind.dataRoot? with
    | none =>
      rw [data] at onwards
      cases onwards
    | some name =>
      rw [data] at onwards
      obtain ⟨made,base,-,-,blank,but,-⟩ := setNullRoot_done onwards
      have bound : after.rootValue? name = some made :=
        (but.rootValue? name).trans (Named.lookup_set_self name made base.roots)
      have same := rootValue_of_rootSpot data rooted
      rw [← whole.rootValue? name,bound] at same
      exact blank.plain.1 (Spot.value.inj same).symm
  · rw [if_neg missing,descend_eq_land (direct start rooted)] at onwards
    rw [if_neg missing] at back
    obtain ⟨before,lies,-⟩ := mid.store.landing_lies start key rest
    have there : (mid.store.landing start key rest).container.Alike mid.store.identity
        (mid.store.landing start key rest).container := by
      rw [lies]
      exact Store.lies_present closed (Runtime.rootSpot_present closed inside rooted) before
    have listed (items : List Value) : start ≠ .items items := by
      rintro rfl
      exact heeded (.inl (Runtime.rootSpot_listed rooted))
    obtain ⟨spurns,grew⟩ | ⟨heeds,⟨all,-⟩ | made⟩ := land_done closed there
      (Store.landing_listed listed) (direct start rooted).landing onwards
    · exact iff_of_true grew (passes.mpr spurns)
    · obtain ⟨place,member,-⟩ := back (mt passes.mp heeds)
      rw [all] at member
      cases member
    · exact iff_of_false (made.not_grew closed there) (mt passes.mp heeds)

namespace Target

variable {r after : Runtime} {scope : Address} {path : Path}

/-- A write that is lost changes nothing if and only if it is passed over. -/
theorem set_lost (closed : r.Closed) (inside : scope < r.store.scopes.size)
    (direct : ∀ start, r.rootSpot scope path.root = .ok start → r.store.Direct start path.segments)
    {v : Value} (lost : r.Loses scope path) (ran : (place scope path).set v r = (.done (),after)) :
    r.Grew after ↔ r.PassesOver scope path := by
  have ran : setPathValue (setWithin (depth r.store)) scope path false v r = (.done (),after) := ran
  obtain ⟨shut,mid,unlocked,ran⟩ := Step.done_of_bind ran
  obtain rfl := isLocked_still unlocked
  have ignores := isLocked_done unlocked
  cases shut with
  | true =>
    obtain ⟨entries,noted⟩ := debugLine_run ("set on read-only location ignored: " ++ path.text) mid
    cases noted.symm.trans ran
    exact iff_of_true ⟨.refl _,rfl⟩ (.inl (ignores.mp rfl))
  | false =>
    have heeded : ¬ mid.Ignores path.root := fun ignored => nomatch ignores.mpr ignored
    cases segments : path.segments with
    | nil =>
      obtain (ignored | ⟨_,_,_,_,split,_⟩) | ⟨_,_,_,_,split,_⟩ := lost
      · exact absurd ignored heeded
      · cases segments.symm.trans split
      · cases segments.symm.trans split
    | cons key rest =>
      simp only [segments] at ran
      exact setBelowRoot_lost closed inside heeded segments (segments ▸ direct) lost ran

/-- A page whose state is an empty list. -/
def listed : Runtime := { rooted with store := (rooted.store.newList []).2 }.setRoot "state" (.list 0)

theorem listed_closed : listed.Closed :=
  (Runtime.Closed.initial.makeRoot.newList .nil).setRoot "state" (.list ⟨rfl,Nat.zero_lt_one⟩)

def beforeStart : Path := ⟨⟨.state,0⟩,[.index (-1)]⟩

theorem set_lost_listed : ∃ after,
    (place 0 beforeStart).set (.int 1) listed = (.done (),after) ∧ listed.Grew after := by
  have ran : (place 0 beforeStart).set (.int 1) listed =
      (.done (),((place 0 beforeStart).set (.int 1) listed).2) := rfl
  have direct (start : Spot) (found : listed.rootSpot 0 beforeStart.root = .ok start) :
      listed.store.Direct start beforeStart.segments := by
    cases found
    refine Store.direct_cons.mpr ⟨nofun,fun before head => ?_⟩
    obtain rfl := List.prefix_nil.mp head
    exact nofun
  have passes : listed.PassesOver 0 beforeStart :=
    .inr ⟨_,_,_,rfl,rfl,.inr ⟨0,-1,rfl,rfl,by decide⟩⟩
  have unchanged := set_lost listed_closed Nat.zero_lt_one direct (.inl passes) ran
  exact ⟨_,ran,unchanged.mpr passes⟩

def beforeMissing : Path := ⟨⟨.state,0⟩,[.field "a",.index (-1)]⟩

/-- The list that was made for a lost write stays behind. -/
theorem set_lost_changes : ∃ after,
    (place 0 beforeMissing).set (.int 1) rooted = (.done (),after) ∧
      (place 0 beforeMissing).get after = (.done .null,after) ∧ rooted.Loses 0 beforeMissing ∧
      rooted.store.dictAt 1 = [] ∧ after.store.dictAt 1 = [⟨.text "a",.str "a",.list 0⟩] ∧
      ¬ rooted.Grew after := by
  let after := ((place 0 beforeMissing).set (.int 1) rooted).2
  have held : after.store.dictAt 1 = [⟨.text "a",.str "a",.list 0⟩] := rfl
  refine ⟨after,rfl,rfl,.inr ⟨_,_,_,rfl,rfl,-1,?_,by decide⟩,rfl,held,fun whole => ?_⟩
  · exact List.mem_singleton_self _
  · have same : after.store.dictAt 1 = rooted.store.dictAt 1 :=
      Object.entries.inj (whole.store .dict 1 (by decide)).2
    rw [held] at same
    cases same

end Target
end Reference
end PageRuntime
