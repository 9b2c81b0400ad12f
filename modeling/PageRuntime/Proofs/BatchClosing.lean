import PageRuntime.Proofs.RefreshDeferral
import PageRuntime.Proofs.Registrations

/-! The closing of a batch of the registry. Programs may use the registry in any way while a batch is
open, and the refreshes may use it again while the batch closes: they may raise, register and
unregister, sweep, and open batches of their own. -/
namespace PageRuntime

variable {η α β : Type}

namespace Registry

variable {g later : Registry}

/-- A registry after programs that close every batch that they open. -/
structure Resumed (g later : Registry) : Prop where
  since : g.Later later
  sound : later.Sound
  depth : later.depth = g.depth
  nothing : g.depth = 0 → g.pending = [] → later.pending = []

def Resumes (g later : Registry) : Prop := g.Sound → g.Resumed later

instance : Std.Refl Resumes := ⟨fun g sound => ⟨.refl g,sound,rfl,fun _ nothing => nothing⟩⟩

instance : Trans Resumes Resumes Resumes where
  trans first second sound :=
    have before := first sound
    have after := second before.sound
    { since := before.since.trans after.since
      sound := after.sound
      depth := after.depth.trans before.depth
      nothing := fun outside nothing =>
        after.nothing (before.depth.trans outside) (before.nothing outside nothing) }

theorem Resumed.settled (resumed : g.Resumed later) (settled : g.Settled) : later.Settled :=
  ⟨resumed.sound,resumed.depth.trans settled.closed,resumed.nothing settled.closed settled.nothing⟩

theorem Resumes.of_use (use : Use) (depth : (g.use use).depth = g.depth)
    (nothing : g.depth = 0 → g.pending = [] → (g.use use).pending = []) : g.Resumes (g.use use) :=
  fun sound => ⟨(use_later sound use).1,(use_later sound use).2,depth,nothing⟩

theorem Resumes.removeEntry (key : Key) : g.Resumes (g.removeEntry key) := fun sound =>
  { since := .of_subset rfl List.filter_sublist.subset
    sound := sound.of_sublist rfl List.filter_sublist
    depth := rfl
    nothing := fun _ nothing => nothing }

/-- While a batch is open, a registry has been used and no more, and the batch is still open. -/
structure Used (g later : Registry) : Prop where
  sound : later.Sound
  depth : later.depth = g.depth
  uses : ∃ uses, later = g.afterUses uses

def Uses (g later : Registry) : Prop := g.Sound → 0 < g.depth → g.Used later

theorem afterUses_append (g : Registry) (uses more : List Use) :
    g.afterUses (uses ++ more) = (g.afterUses uses).afterUses more := List.foldl_append ..

instance : Std.Refl Uses := ⟨fun _ sound _ => ⟨sound,rfl,[],rfl⟩⟩

instance : Trans Uses Uses Uses where
  trans first second sound inside := by
    obtain ⟨sound,depth,uses,rfl⟩ := first sound inside
    obtain ⟨sound,still,more,rfl⟩ := second sound (depth ▸ inside)
    exact ⟨sound,still.trans depth,uses ++ more,(afterUses_append _ uses more).symm⟩

theorem Uses.of_use (use : Use) (depth : (g.use use).depth = g.depth) : g.Uses (g.use use) :=
  fun sound _ => ⟨(use_later sound use).2,depth,[use],rfl⟩

end Registry

namespace Sweep
open Registry (Use Resumes Uses)

/-- Programs that use the registry through its own steps alone, whatever else they do. The refreshes
that a sweep or the closing of a batch may start are such programs again. -/
inductive Orderly : {α : Type} → Run η α → Prop
  | aside {α : Type} {run : Run η α}
      (apart : Step.Keeps (Step.Same fun w : World η => w.runtime.registry) run) : Orderly run
  | bind {α β : Type} {first : Run η α} {next : α → Run η β} (one : Orderly first)
      (onwards : ∀ x, Orderly (next x)) : Orderly (first >>= next)
  | attempt {α : Type} {run : Run η α} (one : Orderly run) : Orderly (Step.attempt run)
  | register (id : Value) (query : String) (callback : Nat) (owner : Option Nat) :
      Orderly (register id query callback owner : Act Unit)
  | unregister (id : Value) : Orderly (unregister id : Act Unit)
  | release (owner : Nat) : Orderly (release owner : Act Unit)
  | sweep {host : Host η} (refreshes : ∀ token, Orderly (host.refresh token))
      (wanted : String → Bool) : Orderly (run host wanted)
  | batch {α : Type} {host : Host η} (refreshes : ∀ token, Orderly (host.refresh token))
      {body : Run η α} (one : Orderly body) : Orderly (batch host body)

namespace Orderly

theorem pure (x : α) : Orderly (Pure.pure x : Run η α) := .aside (Step.Keeps.pure x)

theorem act {act : Act α} (only : act.OnlyData) : Orderly (act : Run η α) :=
  .aside fun w => only.registry w.runtime

theorem invalidate {host : Host η} (refreshes : ∀ token, Orderly (host.refresh token))
    (query : String) : Orderly (Sweep.invalidate host query) := .sweep refreshes _

theorem invalidateAll {host : Host η} (refreshes : ∀ token, Orderly (host.refresh token)) :
    Orderly (Sweep.invalidateAll host) := .sweep refreshes _

theorem invalidatePattern {host : Host η} (refreshes : ∀ token, Orderly (host.refresh token))
    (pattern : String) : Orderly (Sweep.invalidatePattern host pattern) := by
  unfold Sweep.invalidatePattern
  split
  · exact .sweep refreshes _
  · exact .act (.fail _)

end Orderly

/-- However the program ends, unless it runs out of fuel, it leaves a registry related to the one that
it started from. -/
def Leaves (R : Registry → Registry → Prop) (run : Run η α) : Prop := ∀ w ending after,
  run w = (ending,after) → ending ≠ .exhausted → R w.runtime.registry after.runtime.registry

namespace Leaves

variable {R : Registry → Registry → Prop}

theorem of_keeps {run : Run η α}
    (kept : ∀ w, R w.runtime.registry (run w).2.runtime.registry) : Leaves R run := by
  intro w ending after ran _
  have kept := kept w
  rwa [ran] at kept

theorem aside [Std.Refl R] {run : Run η α}
    (apart : Step.Keeps (Step.Same fun w : World η => w.runtime.registry) run) : Leaves R run :=
  of_keeps fun w => by
    have same : (run w).2.runtime.registry = w.runtime.registry := apart w
    rw [same]
    exact Std.Refl.refl _

theorem pure [Std.Refl R] (x : α) : Leaves R (Pure.pure x : Run η α) := aside (Step.Keeps.pure x)

theorem bind [Trans R R R] {first : Run η α} {next : α → Run η β} (one : Leaves R first)
    (onwards : ∀ x, Leaves R (next x)) : Leaves R (first >>= next) := by
  intro w ending after ran finished
  rw [Step.bind_run] at ran
  split at ran
  · next x mid began => exact Trans.trans (one w _ mid began nofun) (onwards x mid _ _ ran finished)
  · next began =>
    cases ran
    exact one w _ _ began nofun
  · cases ran
    exact absurd rfl finished

theorem attempt {run : Run η α} (one : Leaves R run) : Leaves R (Step.attempt run) := by
  intro w ending after ran finished
  unfold Step.attempt at ran
  split at ran
  · next began =>
    cases ran
    exact one w _ _ began nofun
  · next began =>
    cases ran
    exact one w _ _ began nofun
  · cases ran
    exact absurd rfl finished

/-- A registration that cannot be made changes nothing. -/
theorem register [Std.Refl R] (id : Value) (query : String) (callback : Nat) (owner : Option Nat)
    (one : ∀ g key, R g (g.use (.register key id query callback owner))) :
    Leaves R (Sweep.register id query callback owner : Run η Unit) :=
  of_keeps fun w => by
    show R _ (Sweep.register id query callback owner w.runtime).2.registry
    unfold Sweep.register
    rw [Step.bind_done (Act.store_run w.runtime)]
    cases w.runtime.store.key? id with
    | some key => exact one _ key
    | none => exact Std.Refl.refl _

theorem unregister [Std.Refl R] (id : Value) (one : ∀ g key, R g (g.use (.unregister key))) :
    Leaves R (Sweep.unregister id : Run η Unit) :=
  of_keeps fun w => by
    show R _ (Sweep.unregister id w.runtime).2.registry
    unfold Sweep.unregister
    rw [Step.bind_done (Act.store_run w.runtime)]
    cases w.runtime.store.key? id with
    | some key => exact one _ key
    | none => exact Std.Refl.refl _

end Leaves

/-- A world in which one batch more is open. -/
def opened (w : World η) : World η :=
  { w with runtime.registry := w.runtime.registry.use .enter }

/-- A world whose outermost batch is closed, before the first refresh. -/
def closed (w : World η) : World η := { w with runtime.registry := w.runtime.registry.closed }

theorem closed_later (w : World η) : w.runtime.registry.Later (closed w).runtime.registry :=
  .of_subset rfl (List.Subset.refl _)

section Hosted

variable (host : Host η)

/-- Inside a batch a sweep only notes what it selects. -/
theorem run_inside (wanted : String → Bool) {w : World η} (inside : 0 < w.depth) :
    run host wanted w = (.done (w.runtime.registry.select wanted).length,
      { w with runtime.registry := w.runtime.registry.use (.sweep wanted) }) := by
  have inBatch : w.runtime.registry.inBatch = true := by
    simpa [Registry.inBatch,World.depth] using inside
  simp only [run,Step.bind_run,Step.read_run,inBatch,if_true]
  rfl

theorem run_outside (wanted : String → Bool) {w : World η} (outside : w.depth = 0) :
    run host wanted w = (refreshAll host (w.runtime.registry.select wanted) >>= fun _ =>
      Pure.pure (w.runtime.registry.select wanted).length) w := by
  have inBatch : w.runtime.registry.inBatch = false := by
    simpa [Registry.inBatch,World.depth] using outside
  simp only [run,Step.bind_run,Step.read_run,inBatch]
  rfl

theorem leave_run (w : World η) : leave host w =
    (if (w.runtime.registry.depth - 1) == 0 && !w.runtime.registry.pending.isEmpty then (do
      (change fun registry => { registry with pending := [] } : Act Unit)
      refreshAll host w.runtime.registry.pending : Run η Unit) else Pure.pure ())
    { w with runtime.registry := w.runtime.registry.use .leave } := rfl

/-- A batch within another closes without a refresh. -/
theorem leave_inside {w : World η} (inside : 1 < w.depth) :
    leave host w = (.done (),{ w with runtime.registry := w.runtime.registry.use .leave }) := by
  have still : (w.runtime.registry.depth - 1 == 0) = false := by
    simp only [World.depth] at inside
    simp
    omega
  rw [leave_run,still]
  rfl

/-- The outermost batch closes by refreshing what waits. -/
theorem leave_closed {w : World η} (outermost : w.depth = 1) :
    leave host w = refreshAll host w.runtime.registry.pending (closed w) :=
  (leave_outermost host outermost).trans
    (refreshAll_skipStale host w.runtime.registry.pending (closed w)).symm

/-- Refreshes that fail are logged, so that no batch fails in closing. -/
theorem leave_quiet (w after : World η) (failure : Address) :
    leave host w ≠ (.raised failure,after) := by
  rw [leave_run]
  split
  · exact refreshAll_quiet host _ _ _ _
  · exact nofun

/-- A batch that ends has closed after its body, and ends as the body did. -/
theorem batch_ended {body : Run η α} {w after : World η} {ending : Outcome α}
    (ran : batch host body w = (ending,after)) (finished : ending ≠ .exhausted) :
    ∃ mid, body (opened w) = (ending,mid) ∧ leave host mid = (.done (),after) := by
  have run : batch host body w = Step.thenAlways body (leave host) (opened w) := rfl
  rw [run,Step.thenAlways] at ran
  split at ran
  · cases ran
    exact absurd rfl finished
  · next mid _ began =>
    split at ran
    · next left =>
      cases ran
      exact ⟨mid,began,left⟩
    · next left => exact absurd left (leave_quiet host mid _ _)
    · cases ran
      exact absurd rfl finished

variable {host} (refreshes : ∀ token, Leaves Resumes (host.refresh token))
include refreshes

theorem refreshNow_resumes (registration : Registration) :
    Leaves Resumes (refreshNow host registration) := by
  refine .bind (.attempt (refreshes registration.callback)) fun result => ?_
  cases result with
  | ok _ => exact .pure ()
  | error failure =>
    refine .aside fun w => ?_
    exact (Act.OnlyData.bind .store fun _ => Journal.logFailure_onlyData _ _).registry w.runtime

theorem refresh_resumes (registration : Registration) :
    Leaves Resumes (refresh host registration) := by
  intro w ending after ran finished
  rw [refresh_run] at ran
  split at ran
  · cases ran
    exact Std.Refl.refl _
  · split at ran
    · cases ran
      exact .removeEntry _
    · exact refreshNow_resumes refreshes registration w ending after ran finished

theorem refreshAll_resumes : ∀ waiting : List Registration,
    Leaves Resumes (refreshAll host waiting)
  | [] => .pure ()
  | registration :: waiting =>
    .bind (refresh_resumes refreshes registration) fun _ => refreshAll_resumes waiting

theorem run_resumes (wanted : String → Bool) : Leaves Resumes (run host wanted) := by
  intro w ending after ran finished
  obtain outside | inside := Nat.eq_zero_or_pos w.depth
  · rw [run_outside host wanted outside] at ran
    exact Leaves.bind (refreshAll_resumes refreshes _) (fun _ => .pure _) w ending after ran finished
  · rw [run_inside host wanted inside] at ran
    cases ran
    exact .of_use (.sweep wanted) rfl fun outside => absurd outside (Nat.ne_of_gt inside)

theorem batch_resumes {body : Run η α} (one : Leaves Resumes body) :
    Leaves Resumes (batch host body) := by
  intro w ending after ran finished sound
  obtain ⟨mid,began,left⟩ := batch_ended host ran finished
  have opens := Registry.use_later sound .enter
  have during := one (opened w) ending mid began finished opens.2
  have depth : mid.depth = w.depth + 1 := during.depth
  have since := opens.1.trans during.since
  obtain outside | inside := Nat.eq_zero_or_pos w.depth
  · rw [leave_closed host (by omega)] at left
    have shut : (closed mid).runtime.registry.Sound := during.sound.of_sublist rfl (.refl _)
    have closes := refreshAll_resumes refreshes _ (closed mid) _ _ left nofun shut
    exact ⟨(since.trans (closed_later mid)).trans closes.since,closes.sound,closes.depth.trans outside.symm,
      fun _ _ => closes.nothing rfl rfl⟩
  · rw [leave_inside host (by omega)] at left
    cases left
    have closes := Registry.use_later during.sound .leave
    exact ⟨since.trans closes.1,closes.2,Nat.sub_eq_of_eq_add depth,
      fun outside => absurd outside (Nat.ne_of_gt inside)⟩

end Hosted

theorem run_uses (host : Host η) (wanted : String → Bool) : Leaves Uses (run host wanted) := by
  intro w ending after ran _ sound inside
  rw [run_inside host wanted inside] at ran
  cases ran
  exact Uses.of_use (.sweep wanted) rfl sound inside

theorem batch_uses {host : Host η} {body : Run η α} (one : Leaves Uses body) :
    Leaves Uses (batch host body) := by
  intro w ending after ran finished sound inside
  obtain ⟨mid,began,left⟩ := batch_ended host ran finished
  have opens := Registry.use_later sound .enter
  obtain ⟨still,depth,uses,during⟩ := one (opened w) ending mid began finished opens.2 (Nat.succ_pos _)
  have depth : mid.depth = w.depth + 1 := depth
  have inside : 0 < w.depth := inside
  rw [leave_inside host (by omega)] at left
  cases left
  refine ⟨(Registry.use_later still .leave).2,Nat.sub_eq_of_eq_add depth,(.enter :: uses) ++ [.leave],?_⟩
  rw [Registry.afterUses_append]
  exact congrArg (·.use .leave) during

/-- Orderly programs close every batch that they open, and while one is open they do nothing to the
registry but use it. -/
theorem Orderly.leaves {run : Run η α} (orderly : Orderly run) :
    Leaves Resumes run ∧ Leaves Uses run := by
  induction orderly with
  | aside apart => exact ⟨.aside apart,.aside apart⟩
  | bind one onwards ih ihNext =>
    exact ⟨.bind ih.1 fun x => (ihNext x).1,.bind ih.2 fun x => (ihNext x).2⟩
  | attempt one ih => exact ⟨.attempt ih.1,.attempt ih.2⟩
  | register id query callback owner =>
    exact ⟨.register _ _ _ _ fun g key => .of_use _ rfl fun _ nothing => nothing,
      .register _ _ _ _ fun g key => .of_use _ rfl⟩
  | unregister id =>
    refine ⟨.unregister _ fun g key => .of_use _ rfl fun _ nothing => ?_,
      .unregister _ fun g key => .of_use _ rfl⟩
    show g.pending.filter (·.key ≠ key) = []
    rw [nothing]
    rfl
  | release owner =>
    exact ⟨.of_keeps fun w => .of_use (.release owner) rfl fun _ nothing => nothing,
      .of_keeps fun w => .of_use (.release owner) rfl⟩
  | sweep refreshes wanted ih => exact ⟨run_resumes (fun token => (ih token).1) wanted,run_uses _ _⟩
  | batch refreshes one ihRefresh ih =>
    exact ⟨batch_resumes (fun token => (ihRefresh token).1) ih.1,batch_uses ih.2⟩

/-- The registrations that have their turn when a batch closes, each beside the world it finds. -/
def turns (host : Host η) : List Registration → World η → List (Registration × World η)
  | [], _ => []
  | registration :: waiting, w =>
    (registration,w) :: turns host waiting (refresh host registration w).2

theorem turns_fst (host : Host η) (waiting : List Registration) (w : World η) :
    (turns host waiting w).map Prod.fst = waiting := by
  induction waiting generalizing w with
  | nil => rfl
  | cons registration waiting ih => rw [turns,List.map_cons,ih]

/-- Every turn finds a registry resumed from the one at the close. -/
theorem turns_resumed {host : Host η} (refreshes : ∀ token, Leaves Resumes (host.refresh token))
    {waiting : List Registration} {w after : World η} (sound : w.runtime.registry.Sound)
    (ran : refreshAll host waiting w = (.done (),after)) :
    ∀ r u, (r,u) ∈ turns host waiting w → w.runtime.registry.Resumed u.runtime.registry := by
  induction waiting generalizing w with
  | nil => exact fun r u member => absurd member List.not_mem_nil
  | cons registration waiting ih =>
    intro r u member
    obtain here | later := List.mem_cons.mp member
    · cases here
      exact Std.Refl.refl (r := Resumes) _ sound
    · rw [refreshAll,Step.bind_run] at ran
      cases refreshed : refresh host registration w with
      | mk result mid =>
        rw [refreshed] at ran later
        cases result with
        | done _ =>
          have first := refresh_resumes refreshes registration w _ mid refreshed nofun
          have onwards := ih (first sound).sound ran r u later
          exact Trans.trans (r := Resumes) (s := Resumes) first (fun _ => onwards) sound
        | raised failure => cases ran
        | exhausted => cases ran

/-- What is logged of a failing refresh ahead of the failure itself. -/
def failedText (s : Store) (registration : Registration) : String :=
  "Error refreshing data node " ++ s.shown registration.id ++ " (query " ++
    Text.quote registration.query ++ "):"

theorem refreshNow_done (host : Host η) (r : Registration) {u v : World η}
    (ran : host.refresh r.callback u = (.done (),v)) : refreshNow host r u = (.done (),v) := by
  unfold refreshNow
  rw [Step.bind_run,Step.attempt,ran]
  rfl

theorem refreshNow_raised (host : Host η) (r : Registration) {u v : World η} {failure : Address}
    (ran : host.refresh r.callback u = (.raised failure,v)) : refreshNow host r u = (.done (),
      { v with runtime.journal := v.runtime.journal ++
          Journal.added v.runtime (failedText v.runtime.store r) failure }) := by
  have logged := Journal.logFailure_run (failedText v.runtime.store r) failure v.runtime
  unfold refreshNow
  rw [Step.bind_run,Step.attempt,ran]
  exact congrArg (fun ended : Outcome Unit × Runtime => (ended.1,{ v with runtime := ended.2 })) logged

/-- A registration in its turn. One that is not the current one of its id is passed over; the current
one is refreshed, and its failure is logged. -/
structure Turn (host : Host η) (r : Registration) (u : World η) : Prop where
  stale : u.runtime.registry.isCurrent r = false → refresh host r u = (.done (),u)
  returned : u.runtime.registry.isCurrent r = true → u.runtime.registry.isAlive r = true →
    ∀ v, host.refresh r.callback u = (.done (),v) → refresh host r u = (.done (),v)
  raised : u.runtime.registry.isCurrent r = true → u.runtime.registry.isAlive r = true →
    ∀ failure v, host.refresh r.callback u = (.raised failure,v) → refresh host r u = (.done (),
      { v with runtime.journal := v.runtime.journal ++
          Journal.added v.runtime (failedText v.runtime.store r) failure })

theorem turn (host : Host η) (r : Registration) (u : World η) : Turn host r u where
  stale past := by
    rw [refresh_run]
    simp [past]
  returned current alive v ran := by
    rw [refresh_run]
    simp [current,alive,refreshNow_done host r ran]
  raised current alive failure v ran := by
    rw [refresh_run]
    simp [current,alive,refreshNow_raised host r ran]

end Sweep

namespace Registry.Tracks

variable {g later : Registry} {chosen : List Registration} {keys : List Key}
  (tracks : g.Tracks chosen keys) (since : g.Later later)
include tracks since

/-- A selected registration that is still there waits. -/
theorem waits_still {r : Registration} (member : r ∈ chosen) (present : r ∈ later.entries) :
    r ∈ g.pending :=
  tracks.waits r member (since.was present (tracks.given r member))

/-- What waits is still current just if the current registration of its id has been selected. -/
theorem isCurrent_iff (sound : later.Sound) {r : Registration} (waiting : r ∈ g.pending) :
    later.isCurrent r = true ↔ ∃ current ∈ chosen, later.find? r.key = some current := by
  have noted := tracks.noted r waiting
  have alone (entry : Registration) (present : entry ∈ later.entries)
      (same : entry.serial = r.serial) : entry = r :=
    tracks.alone r noted entry (since.was present (same ▸ tracks.given r noted)) same
  rw [sound.isCurrent_iff alone]
  constructor
  · intro present
    exact ⟨r,noted,sound.find?_eq present⟩
  · rintro ⟨current,selected,found⟩
    obtain ⟨present,same⟩ := mem_of_find? found
    have waits := tracks.waits_still since selected present
    have equal : current = r := List.inj_on_of_nodup_map tracks.pending_nodup waits waiting same
    exact equal ▸ present

end Registry.Tracks

namespace Sweep
open Registry (Use Resumes Uses)

/-- A batch runs no refresh before the outermost one closes. Then each id that waits has its turn, in
the order in which the ids were first selected since they were last unregistered: its refresh is run
once if its current registration has been selected by a sweep of the batch, and not otherwise. -/
theorem batch_refreshes_in_turn {host : Host η} (refreshes : ∀ token, Orderly (host.refresh token))
    {body : Run η α} (orderly : Orderly body) {w after : World η}
    (settled : w.runtime.registry.Settled) {ending : Outcome α}
    (ran : batch host body w = (ending,after)) (finished : ending ≠ .exhausted) :
    (∀ (u : World η) wanted, 0 < u.depth →
      run host wanted u = (.done (u.runtime.registry.select wanted).length,
        { u with runtime.registry := u.runtime.registry.use (.sweep wanted) })) ∧
    (∀ u : World η, 1 < u.depth →
      leave host u = (.done (),{ u with runtime.registry := u.runtime.registry.use .leave })) ∧
    ∃ mid, body (opened w) = (ending,mid) ∧ mid.depth = 1 ∧
      refreshAll host mid.runtime.registry.pending (closed mid) = (.done (),after) ∧
      after.runtime.registry.Settled ∧
      (∃ uses, mid.runtime.registry = (opened w).runtime.registry.afterUses uses) ∧
      ∀ uses, mid.runtime.registry = (opened w).runtime.registry.afterUses uses →
        let chosen := (opened w).runtime.registry.selected uses
        let waiting := (opened w).runtime.registry.awaited [] uses
        waiting.Nodup ∧
        (turns host mid.runtime.registry.pending (closed mid)).map (·.1.key) = waiting ∧
        ∀ r u, (r,u) ∈ turns host mid.runtime.registry.pending (closed mid) →
          Turn host r u ∧
          (u.runtime.registry.isCurrent r = true ↔
            ∃ current ∈ chosen, u.runtime.registry.find? r.key = some current) ∧
          ∀ current ∈ chosen, u.runtime.registry.find? current.key = some current →
            current.key ∈ waiting := by
  refine ⟨fun u wanted => run_inside host wanted,fun u => leave_inside host,?_⟩
  have refreshes (token : Nat) := (refreshes token).leaves.1
  obtain ⟨mid,began,left⟩ := batch_ended host ran finished
  have opens := (Registry.use_later settled.sound .enter).2
  have during := orderly.leaves.1 (opened w) ending mid began finished opens
  have depth : mid.depth = 1 := by
    have kept : mid.depth = w.runtime.registry.depth + 1 := during.depth
    rw [kept,settled.closed]
  have used := orderly.leaves.2 (opened w) ending mid began finished opens (Nat.succ_pos _)
  rw [leave_closed host depth] at left
  have shut : (closed mid).runtime.registry.Sound := during.sound.of_sublist rfl (.refl _)
  have closes := refreshAll_resumes refreshes _ (closed mid) _ _ left nofun shut
  refine ⟨mid,began,depth,left,closes.settled ⟨shut,rfl,rfl⟩,used.uses,fun uses explained => ?_⟩
  have start : (opened w).runtime.registry.Tracks [] [] := .start opens settled.nothing
  have tracks := start.afterUses uses
  rw [← explained,List.nil_append] at tracks
  have order : (turns host mid.runtime.registry.pending (closed mid)).map (·.1.key) =
      (opened w).runtime.registry.awaited [] uses := by
    rw [← tracks.order]
    conv_rhs => rw [← turns_fst host mid.runtime.registry.pending (closed mid)]
    exact (List.map_map ..).symm
  refine ⟨tracks.nodup,order,fun r u member => ?_⟩
  have resumed := turns_resumed refreshes shut left r u member
  have since : mid.runtime.registry.Later u.runtime.registry :=
    (closed_later mid).trans resumed.since
  refine ⟨turn host r u,?_,fun current selected found => ?_⟩
  · have waits : r ∈ mid.runtime.registry.pending := by
      rw [← turns_fst host mid.runtime.registry.pending (closed mid)]
      exact List.mem_map_of_mem member
    exact tracks.isCurrent_iff since resumed.sound waits
  · obtain ⟨present,-⟩ := Registry.mem_of_find? found
    rw [← tracks.order]
    exact List.mem_map_of_mem (tracks.waits_still since selected present)

/-- Notes that a refresh runs. -/
def note (token : Nat) : Run (List Nat) Unit :=
  Step.modify fun w => { w with host := w.host ++ [token] }

def noter : Host (List Nat) := { Host.idle with refresh := note }

/-- A host whose refresh of the first callback sweeps for the query of the second. -/
def meddler : Host (List Nat) := { Host.idle with
  refresh := fun token => do
    note token
    if token == 0 then
      let _ ← invalidate noter "b" }

/-- Two mounted queries. -/
def twoQueries : World (List Nat) where
  runtime := { Page.initial with
    registry := (Registry.empty.add (.text "a") (.str "a") "a" 0 none).add
      (.text "b") (.str "b") "b" 1 none }
  host := []

/-- Selects both queries, and the first one again after it has been mounted anew. -/
def remount : Run (List Nat) Nat := do
  let _ ← invalidate meddler "a"
  let _ ← invalidate meddler "b"
  unregister (.str "a")
  register (.str "a") "a" 0 none
  invalidate meddler "a"

def remounted : List Use := [.sweep (· == "a"),.sweep (· == "b"),.unregister (.text "a"),
  .register (.text "a") (.str "a") "a" 0 none,.sweep (· == "a")]

/-- The id that is selected first has the last turn once it has been unregistered in between, and its
refresh brings about a second one of the other id. -/
theorem remount_repeats : ∃ mid after,
    remount (opened twoQueries) = (.done 1,mid) ∧
      mid.runtime.registry = (opened twoQueries).runtime.registry.afterUses remounted ∧
      ((opened twoQueries).runtime.registry.selected remounted).map (·.id) =
        [.str "a",.str "b",.str "a"] ∧
      batch meddler remount twoQueries = (.done 1,after) ∧ after.host = [1,0,1] :=
  ⟨_,_,rfl,by decide,by decide,rfl,by decide⟩

theorem note_orderly (token : Nat) : Orderly (note token) := .aside fun _ => rfl

theorem meddler_orderly (token : Nat) : Orderly (meddler.refresh token) := by
  refine .bind (note_orderly token) fun _ => ?_
  split
  · exact .bind (.invalidate note_orderly _) fun _ => .pure ()
  · exact .pure ()

theorem remount_orderly : Orderly remount :=
  .bind (.invalidate meddler_orderly _) fun _ => .bind (.invalidate meddler_orderly _) fun _ =>
    .bind (.unregister _) fun _ => .bind (.register ..) fun _ => .invalidate meddler_orderly _

theorem twoQueries_settled : twoQueries.runtime.registry.Settled :=
  ⟨(Registry.sound_empty.add ..).add ..,rfl,rfl⟩

theorem batch_refreshes_in_turn_remount : ∃ mid after,
    batch meddler remount twoQueries = (.done 1,after) ∧
      (turns meddler mid.runtime.registry.pending (closed mid)).map (·.1.key) =
        [.text "b",.text "a"] ∧
      refreshAll meddler mid.runtime.registry.pending (closed mid) = (.done (),after) ∧
      after.runtime.registry.Settled := by
  have ran : batch meddler remount twoQueries =
      (.done 1,(batch meddler remount twoQueries).2) := rfl
  obtain ⟨-,-,mid,began,-,left,settled,-,turns⟩ := batch_refreshes_in_turn meddler_orderly
    remount_orderly twoQueries_settled ran nofun
  obtain rfl : mid = (remount (opened twoQueries)).2 := congrArg Prod.snd began.symm
  obtain ⟨-,order,-⟩ := turns remounted (by decide)
  exact ⟨_,_,ran,order.trans (by decide),left,settled⟩

end Sweep
end PageRuntime
