import PageRuntime.Page
import PageRuntime.Proofs.WriteEnds

/-! What waits for the initialisation of a page. Callbacks that are queued before it start in the order
in which they were queued once the page is marked as initialised, and those queued later start at
once. The page is marked before this is written among its data, so if that write fails the callbacks
go on waiting while later ones start. -/
namespace PageRuntime
namespace Page

variable {η : Type}

/-- A callback is given to the page, or it starts. -/
inductive Happening
  | asked (token : Nat)
  | started (token : Nat)
deriving DecidableEq

theorem count_asked (tokens : List Nat) (token : Nat) :
    (tokens.map Happening.asked).count (.asked token) = tokens.count token := by
  induction tokens with
  | nil => rfl
  | cons head rest ih => rw [List.map_cons,List.count_cons,List.count_cons,ih]; simp

theorem count_started (tokens : List Nat) (token : Nat) :
    (tokens.map Happening.asked).count (.started token) = 0 :=
  List.count_eq_zero.mpr (by simp)

/-- A diary that a host keeps of what happens. -/
structure Diary (η : Type) where
  entries : η → List Happening
  add : Happening → η → η
  entries_add : ∀ happening host, entries (add happening host) = entries host ++ [happening]

/-- The callbacks of a queue start one after the other, and those that are given meanwhile start at
once. -/
inductive Serves : List Nat → List Happening → Prop
  | nothing : Serves [] []
  | turn {token : Nat} {queue : List Nat} {later : List Happening} (rest : Serves queue later) :
      Serves (token :: queue) (.started token :: later)
  | atOnce {token : Nat} {queue : List Nat} {later : List Happening} (rest : Serves queue later) :
      Serves queue (.asked token :: .started token :: later)

namespace Serves

theorem append {queue more : List Nat} {later latest : List Happening} (first : Serves queue later)
    (second : Serves more latest) : Serves (queue ++ more) (later ++ latest) := by
  induction first with
  | nothing => exact second
  | turn _ ih => exact .turn ih
  | atOnce _ ih => exact .atOnce ih

/-- Every callback of the queue starts once, and so does every one that is given meanwhile. -/
theorem once {queue : List Nat} {later : List Happening} (serves : Serves queue later) (token : Nat) :
    later.count (.started token) = queue.count token + later.count (.asked token) := by
  induction serves with
  | nothing => rfl
  | turn rest ih => simp [List.count_cons,ih]; omega
  | atOnce rest ih => simp [List.count_cons,ih]; omega

end Serves

/-- What is written among the data of a page once it is marked as initialised. -/
def announce : Act Unit := setData initializedPath (.bool true)

theorem announce_ends : Step.Ends announce :=
  .bind (.bind (Act.make_ends _) fun _ => Act.make_ends _) fun _ => Reference.setPath_ends _ _ _

/-- The runtime with more callbacks that wait. -/
def queueing (tokens : List Nat) (r : Runtime) : Runtime := { r with postInit := r.postInit ++ tokens }

/-- The runtime, marked as initialised. -/
def marked (r : Runtime) : Runtime := { r with initialized := true }

/-- What waits for the initialisation of a runtime, and whether it has been. -/
def outlook (r : Runtime) : List Nat × Bool := (r.postInit,r.initialized)

theorem onlyData_outlook {α : Type} {act : Act α} (only : act.OnlyData) :
    Step.Keeps (Step.Same outlook) act := by
  intro r
  have same := congrArg Page.outlook (only r : (act r).2.control = r.control)
  exact same

theorem announce_keeps : Step.Keeps (Step.Same outlook) announce :=
  .bind (fun _ => rfl) fun scope => onlyData_outlook (Reference.setPath_onlyData scope _ _)

section Marking

variable {host : Host η} {w : World η} {r : Runtime}

theorem markInitialized_run : markInitialized host w =
    ((announce : Run η Unit) >>= fun _ => Step.read >>= fun w =>
      runPostInit host w.runtime.postInit.length) { w with runtime.initialized := true } := by
  have marked : ((Step.modify fun r => { r with initialized := true } : Act Unit) : Run η Unit) w =
      (.done (),{ w with runtime.initialized := true }) := rfl
  rw [announce,setData,Run.ofAct_bind,Step.bind_assoc,markInitialized,Step.bind_done marked]

theorem markInitialized_done (written : announce (marked w.runtime) = (.done (),r)) :
    markInitialized host w = runPostInit host r.postInit.length { w with runtime := r } := by
  have ran : (announce : Run η Unit) { w with runtime.initialized := true } =
      (.done (),{ w with runtime := r }) :=
    Run.ofAct_run (w := { w with runtime.initialized := true }) written
  rw [markInitialized_run,Step.bind_done ran,Step.bind_done (Step.read_run _)]

theorem markInitialized_raised {failure : Address}
    (refused : announce (marked w.runtime) = (.raised failure,r)) :
    markInitialized host w = (.raised failure,{ w with runtime := r }) := by
  have ran : (announce : Run η Unit) { w with runtime.initialized := true } =
      (.raised failure,{ w with runtime := r }) :=
    Run.ofAct_run (w := { w with runtime.initialized := true }) refused
  rw [markInitialized_run,Step.bind_raised ran]

end Marking

namespace Diary

variable (d : Diary η)

def write (happening : Happening) : Run η Unit :=
  Step.modify fun w => { w with host := d.add happening w.host }

/-- What the diary of a world says, beside what waits for the initialisation and whether it has been. -/
def view (w : World η) : List Nat × Bool × List Happening :=
  (w.runtime.postInit,w.runtime.initialized,d.entries w.host)

/-- Each callback of the host writes into the diary that it starts. -/
def Notes (host : Host η) (body : Nat → Run η Unit) : Prop :=
  ∀ token, host.postInit token = d.write (.started token) >>= fun _ => body token

/-- Giving a callback to the page, which is written into the diary. -/
def ask (host : Host η) (token : Nat) : Run η Unit :=
  d.write (.asked token) >>= fun _ => queuePostInit host token

/-- Programs that end, and that have to do with the initialisation only by giving callbacks to the page
and by marking it as initialised. Whatever else they do leaves all of this as it is. -/
inductive Scheduled (d : Diary η) : {α : Type} → Run η α → Prop
  | aside {α : Type} {run : Run η α} (apart : Step.Concludes (Step.Same d.view) run) : Scheduled d run
  | bind {α β : Type} {first : Run η α} {next : α → Run η β} (one : Scheduled d first)
      (onwards : ∀ x, Scheduled d (next x)) : Scheduled d (first >>= next)
  | attempt {α : Type} {run : Run η α} (one : Scheduled d run) : Scheduled d (Step.attempt run)
  | ask {host : Host η} {body : Nat → Run η Unit} (notes : d.Notes host body)
      (callbacks : ∀ token, Scheduled d (body token)) (token : Nat) : Scheduled d (d.ask host token)
  | mark {host : Host η} {body : Nat → Run η Unit} (notes : d.Notes host body)
      (callbacks : ∀ token, Scheduled d (body token)) : Scheduled d (markInitialized host)

/-- From a world that is marked as initialised, one has come to another that is, and what waited has
been served as far as it waits no more. -/
def Serving (w after : World η) : Prop :=
  w.runtime.initialized = true → after.runtime.initialized = true ∧ ∃ served later,
    w.runtime.postInit = served ++ after.runtime.postInit ∧
      d.entries after.host = d.entries w.host ++ later ∧ Serves served later

instance : Std.Refl d.Serving := ⟨fun _ marked => ⟨marked,[],[],rfl,(List.append_nil _).symm,.nothing⟩⟩

instance : Trans d.Serving d.Serving d.Serving := ⟨by
  intro w mid after first second marked
  obtain ⟨marked,served,later,queue,entries,serves⟩ := first marked
  obtain ⟨marked,more,latest,queueAfter,entriesAfter,servesAfter⟩ := second marked
  refine ⟨marked,served ++ more,later ++ latest,?_,?_,serves.append servesAfter⟩
  · rw [queue,queueAfter,List.append_assoc]
  · rw [entriesAfter,entries,List.append_assoc]⟩

variable {d} {host : Host η} {body : Nat → Run η Unit}

theorem Serving.of_same {w after : World η} (same : Step.Same d.view w after) : d.Serving w after := by
  intro marked
  obtain ⟨queue,rest⟩ := Prod.mk.inj same
  obtain ⟨flag,entries⟩ := Prod.mk.inj rest
  exact ⟨flag.trans marked,[],[],queue.symm,entries.trans (List.append_nil _).symm,.nothing⟩

/-- A callback that starts at once or in its turn. -/
theorem Notes.start (notes : d.Notes host body) (callbacks : ∀ token, Step.Concludes d.Serving (body token))
    (token : Nat) (w : World η) : ∃ mid, mid.runtime = w.runtime ∧
      d.entries mid.host = d.entries w.host ++ [.started token] ∧
      host.postInit token w = body token mid ∧ (body token mid).1 ≠ .exhausted ∧
      d.Serving mid (body token mid).2 := by
  refine ⟨{ w with host := d.add (.started token) w.host },rfl,d.entries_add _ _,?_,callbacks token _⟩
  rw [notes token]
  rfl

theorem Serving.turn {w mid after : World η} {token : Nat}
    (queue : w.runtime.postInit = token :: mid.runtime.postInit)
    (flag : mid.runtime.initialized = w.runtime.initialized)
    (entries : d.entries mid.host = d.entries w.host ++ [.started token]) (serving : d.Serving mid after) :
    d.Serving w after := by
  intro marked
  obtain ⟨still,served,later,queueAfter,entriesAfter,serves⟩ := serving (flag.trans marked)
  refine ⟨still,token :: served,.started token :: later,?_,?_,.turn serves⟩
  · rw [queue,queueAfter,List.cons_append]
  · rw [entriesAfter,entries,List.append_assoc,List.singleton_append]

theorem postInitFailed_run (failure : Address) (w : World η) :
    ∃ journal, (postInitFailed failure : Run η Unit) w =
      (.done (),{ w with runtime.journal := journal }) :=
  ⟨_,Run.ofAct_run (Journal.logFailure_run _ failure w.runtime)⟩

section Turns

variable {token : Nat} {rest : List Nat} {w left : World η} (queue : w.runtime.postInit = token :: rest)
include queue

theorem runPostInit_turn (host : Host η) (fuel : Nat) : runPostInit host (fuel + 1) w =
    (Step.attempt (host.postInit token) >>= fun result =>
      Except.casesOn result (fun failure => postInitFailed failure >>= fun _ => runPostInit host fuel)
        fun _ => runPostInit host fuel) { w with runtime.postInit := rest } := by
  rw [runPostInit,Step.bind_done (Step.read_run w),queue]
  refine congrFun (congrArg (Step.attempt (host.postInit token) >>= ·) (funext fun result => ?_)) _
  cases result <;> rfl

theorem runPostInit_done (fuel : Nat)
    (runs : host.postInit token { w with runtime.postInit := rest } = (.done (),left)) :
    runPostInit host (fuel + 1) w = runPostInit host fuel left := by
  rw [runPostInit_turn queue,Step.bind_done (Step.attempt_done runs)]

theorem runPostInit_raised (fuel : Nat) {failure : Address}
    (runs : host.postInit token { w with runtime.postInit := rest } = (.raised failure,left)) :
    ∃ journal, runPostInit host (fuel + 1) w =
      runPostInit host fuel { left with runtime.journal := journal } := by
  obtain ⟨journal,written⟩ := postInitFailed_run failure left
  refine ⟨journal,?_⟩
  rw [runPostInit_turn queue,Step.bind_done (Step.attempt_raised runs)]
  exact Step.bind_done written

end Turns

section Callbacks

variable (notes : d.Notes host body) (callbacks : ∀ token, Step.Concludes d.Serving (body token))
include notes callbacks

/-- What waits is served in turn until nothing waits any more. -/
theorem runPostInit_serves : ∀ (fuel : Nat) (w : World η), w.runtime.initialized = true →
    w.runtime.postInit.length ≤ fuel → ∃ after, runPostInit host fuel w = (.done (),after) ∧
      d.Serving w after ∧ after.runtime.postInit = []
  | 0, w, _, few => ⟨w,rfl,Std.Refl.refl w,List.length_eq_zero_iff.mp (Nat.le_zero.mp few)⟩
  | fuel + 1, w, marked, few => by
    cases queue : w.runtime.postInit with
    | nil =>
      refine ⟨w,?_,Std.Refl.refl w,queue⟩
      rw [runPostInit,Step.bind_done (Step.read_run w),queue]
      rfl
    | cons token rest =>
      let popped : World η := { w with runtime.postInit := rest }
      obtain ⟨mid,same,noted,runs,ends,serving⟩ := notes.start callbacks token popped
      have here : mid.runtime.postInit = rest := congrArg Runtime.postInit same
      have flag : mid.runtime.initialized = w.runtime.initialized := by rw [same]
      have waits : w.runtime.postInit = token :: mid.runtime.postInit := by rw [queue,here]
      obtain ⟨still,served,_,left,-⟩ := serving (flag.trans marked)
      have fewer : (body token mid).2.runtime.postInit.length ≤ fuel := by
        have length := congrArg List.length (here.symm.trans left)
        rw [queue,List.length_cons] at few
        rw [List.length_append] at length
        omega
      cases ran : body token mid with
      | mk ending left =>
        rw [ran] at runs ends serving still fewer
        cases ending with
        | done _ =>
          obtain ⟨after,drained,onwards,empty⟩ := runPostInit_serves fuel left still fewer
          exact ⟨after,(runPostInit_done queue fuel runs).trans drained,
            (Trans.trans serving onwards).turn waits flag noted,empty⟩
        | raised failure =>
          obtain ⟨journal,turned⟩ := runPostInit_raised queue fuel runs
          let logged : World η := { left with runtime.journal := journal }
          have aside : d.Serving left logged := .of_same rfl
          obtain ⟨after,drained,onwards,empty⟩ := runPostInit_serves fuel logged still fewer
          exact ⟨after,turned.trans drained,
            (Trans.trans serving (Trans.trans aside onwards)).turn waits flag noted,empty⟩
        | exhausted => exact absurd rfl ends

/-- Once the page is marked, what waits has been served, or nothing has happened but that the page is
marked, and that is because it cannot be written among the data. -/
theorem markInitialized_ends (w : World η) :
    (∃ r after, announce (marked w.runtime) = (.done (),r) ∧
      markInitialized host w = (.done (),after) ∧ after.runtime.initialized = true ∧
      after.runtime.postInit = [] ∧ ∃ later, d.entries after.host = d.entries w.host ++ later ∧
        Serves w.runtime.postInit later) ∨
    ∃ failure r, announce (marked w.runtime) = (.raised failure,r) ∧
      markInitialized host w = (.raised failure,{ w with runtime := r }) ∧ r.initialized = true ∧
      r.postInit = w.runtime.postInit := by
  have ends := announce_ends (marked w.runtime)
  have same : outlook _ = _ := announce_keeps (marked w.runtime)
  cases ran : announce (marked w.runtime) with
  | mk ending r =>
    rw [ran] at ends same
    obtain ⟨queue,marked⟩ := Prod.mk.inj same
    cases ending with
    | done _ =>
      obtain ⟨after,drained,serving,empty⟩ := runPostInit_serves notes callbacks r.postInit.length
        { w with runtime := r } marked (Nat.le_refl _)
      obtain ⟨still,served,later,waited,entries,serves⟩ := serving marked
      rw [empty,List.append_nil] at waited
      refine .inl ⟨r,after,rfl,(markInitialized_done ran).trans drained,still,empty,later,entries,?_⟩
      rw [show w.runtime.postInit = served from queue.symm.trans waited]
      exact serves
    | raised failure => exact .inr ⟨failure,r,rfl,markInitialized_raised ran,marked,queue⟩
    | exhausted => exact absurd rfl ends

theorem mark_serving : Step.Concludes d.Serving (markInitialized host) := by
  intro w
  obtain ⟨r,after,-,ran,marked,empty,later,entries,serves⟩ | ⟨failure,r,-,ran,marked,queue⟩ :=
    markInitialized_ends notes callbacks w
  · rw [ran]
    exact ⟨Step.done_ends (),fun _ => ⟨marked,_,later,by rw [empty,List.append_nil],entries,serves⟩⟩
  · rw [ran]
    exact ⟨Step.raised_ends failure,fun _ => ⟨marked,[],[],queue.symm,(List.append_nil _).symm,.nothing⟩⟩

theorem ask_open (token : Nat) {w : World η} (marked : w.runtime.initialized = true) :
    (d.ask host token w).1 ≠ .exhausted ∧ d.Serving w (d.ask host token w).2 := by
  let asked : World η := { w with host := d.add (.asked token) w.host }
  obtain ⟨mid,same,noted,runs,ends,serving⟩ := notes.start callbacks token asked
  have run : d.ask host token w = body token mid := by
    show queuePostInit host token asked = _
    rw [queuePostInit,Step.bind_done (Step.read_run asked),if_pos marked,runs]
  rw [run]
  refine ⟨ends,fun _ => ?_⟩
  obtain ⟨still,served,later,queue,entries,serves⟩ := serving (by rw [same]; exact marked)
  refine ⟨still,served,.asked token :: .started token :: later,?_,?_,.atOnce serves⟩
  · rw [← queue,same]
  · rw [entries,noted,show d.entries asked.host = _ from d.entries_add _ _]
    simp

end Callbacks

/-- Before the page is marked a callback that is given to it waits. -/
theorem ask_shut (host : Host η) (token : Nat) {w : World η} (shut : w.runtime.initialized = false) :
    d.ask host token w = (.done (),⟨queueing [token] w.runtime,d.add (.asked token) w.host⟩) := by
  let asked : World η := { w with host := d.add (.asked token) w.host }
  show queuePostInit host token asked = _
  rw [queuePostInit,Step.bind_done (Step.read_run asked),if_neg (by rw [shut]; nofun)]
  rfl

theorem ask_serving (notes : d.Notes host body)
    (callbacks : ∀ token, Step.Concludes d.Serving (body token)) (token : Nat) :
    Step.Concludes d.Serving (d.ask host token) := by
  intro w
  cases flag : w.runtime.initialized with
  | true => exact ask_open notes callbacks token flag
  | false =>
    rw [ask_shut host token flag]
    exact ⟨Step.done_ends (),fun marked => by rw [flag] at marked; cases marked⟩

/-- Whatever a program does once the page is marked, the queue is served in order. -/
theorem Scheduled.concludes {α : Type} {run : Run η α} (scheduled : d.Scheduled run) :
    Step.Concludes d.Serving run := by
  induction scheduled with
  | aside apart => exact fun w => ⟨(apart w).1,.of_same (apart w).2⟩
  | bind _ _ one onwards => exact .bind one onwards
  | attempt _ one => exact one.attempt
  | ask notes _ token callbacks => exact ask_serving notes callbacks token
  | mark notes _ callbacks => exact mark_serving notes callbacks

end Diary

/-- What the host tells the page. -/
inductive Notice
  | queue (token : Nat)
  | mark
deriving DecidableEq

namespace Notice

/-- The callbacks that are given to the page before it is first marked. -/
def early : List Notice → List Nat
  | queue token :: rest => token :: early rest
  | _ => []

def give (d : Diary η) (host : Host η) : Notice → Run η Unit
  | queue token => d.ask host token
  | mark => markInitialized host

/-- Gives all notices one after the other, whether or not one of them raises. -/
def giveAll (d : Diary η) (host : Host η) : List Notice → Run η Unit
  | [] => return ()
  | notice :: rest => do
    let _ ← Step.attempt (notice.give d host)
    giveAll d host rest

theorem early_append (before rest : List Notice) : early (before ++ .mark :: rest) = early before := by
  induction before with
  | nil => rfl
  | cons notice more ih => cases notice with
    | mark => rfl
    | queue token => exact congrArg (token :: ·) ih

theorem early_cases (notices : List Notice) :
    (.mark ∉ notices ∧ notices = (early notices).map queue) ∨
      ∃ rest, notices = (early notices).map queue ++ .mark :: rest := by
  induction notices with
  | nil => exact .inl ⟨List.not_mem_nil,rfl⟩
  | cons notice rest ih => cases notice with
    | mark => exact .inr ⟨rest,rfl⟩
    | queue token =>
      obtain ⟨without,all⟩ | ⟨onwards,split⟩ := ih
      · exact .inl ⟨by simpa using without,congrArg (queue token :: ·) all⟩
      · exact .inr ⟨onwards,congrArg (queue token :: ·) split⟩

variable {d : Diary η} {host : Host η} {body : Nat → Run η Unit}

theorem giveAll_append (first second : List Notice) :
    giveAll d host (first ++ second) = giveAll d host first >>= fun _ => giveAll d host second := by
  induction first with
  | nil => rfl
  | cons notice rest ih => rw [List.cons_append,giveAll,giveAll,Step.bind_assoc,ih]

theorem giveAll_queue (d : Diary η) (host : Host η) (tokens : List Nat) :
    ∀ {w : World η}, w.runtime.initialized = false → ∃ kept,
    d.entries kept = d.entries w.host ++ tokens.map .asked ∧
      giveAll d host (tokens.map queue) w = (.done (),⟨queueing tokens w.runtime,kept⟩) := by
  induction tokens with
  | nil =>
    intro w _
    refine ⟨w.host,(List.append_nil _).symm,?_⟩
    rw [queueing,List.append_nil]
    rfl
  | cons token rest ih =>
    intro w shut
    obtain ⟨kept,entries,ran⟩ := ih (w := ⟨queueing [token] w.runtime,d.add (.asked token) w.host⟩) shut
    refine ⟨kept,?_,?_⟩
    · rw [entries,d.entries_add,List.append_assoc,List.map_cons,List.singleton_append]
    · have asked : (queue token).give d host w = _ := Diary.ask_shut host token shut
      rw [List.map_cons,giveAll,Step.bind_done (Step.attempt_done asked),ran,queueing,queueing,queueing,
        List.append_assoc,List.singleton_append]

section Scheduled

variable (notes : d.Notes host body) (callbacks : ∀ token, d.Scheduled (body token))
include notes callbacks

theorem give_scheduled : ∀ notice : Notice, d.Scheduled (notice.give d host)
  | queue token => .ask notes callbacks token
  | mark => .mark notes callbacks

theorem giveAll_serving (notices : List Notice) (w : World η) :
    ∃ after, giveAll d host notices w = (.done (),after) ∧ d.Serving w after := by
  induction notices generalizing w with
  | nil => exact ⟨w,rfl,Std.Refl.refl w⟩
  | cons notice rest ih =>
    obtain ⟨ends,serving⟩ := (give_scheduled notes callbacks notice).concludes w
    cases ran : notice.give d host w with
    | mk ending mid =>
      rw [ran] at ends serving
      obtain ⟨after,onwards,further⟩ := ih mid
      refine ⟨after,?_,Trans.trans serving further⟩
      cases ending with
      | done _ => rw [giveAll,Step.bind_done (Step.attempt_done ran),onwards]
      | raised failure => rw [giveAll,Step.bind_done (Step.attempt_raised ran),onwards]
      | exhausted => exact absurd rfl ends

theorem mark_done {w : World η} {r : Runtime} (written : announce (marked w.runtime) = (.done (),r)) :
    ∃ after, markInitialized host w = (.done (),after) ∧ after.runtime.initialized = true ∧
      after.runtime.postInit = [] ∧ ∃ later, d.entries after.host = d.entries w.host ++ later ∧
        Serves w.runtime.postInit later := by
  obtain ⟨_,after,_,ran,all⟩ | ⟨_,_,refused,-⟩ := Diary.markInitialized_ends notes
    (fun token => (callbacks token).concludes) w
  · exact ⟨after,ran,all⟩
  · rw [written] at refused
    cases refused

theorem mark_raised {w v : World η} {failure : Address}
    (raised : markInitialized host w = (.raised failure,v)) :
    (∃ failure r, announce (marked w.runtime) = (.raised failure,r)) ∧ v.runtime.initialized = true := by
  obtain ⟨_,_,_,ran,-⟩ | ⟨_,r,refused,ran,flag,-⟩ := Diary.markInitialized_ends notes
    (fun token => (callbacks token).concludes) w
  · rw [ran] at raised
    cases raised
  · rw [ran] at raised
    obtain ⟨-,rfl⟩ := Prod.mk.inj raised
    exact ⟨⟨_,r,refused⟩,flag⟩

end Scheduled

/-- What is to be said of the notices that are given in a world. When the page cannot be marked, whether
it was is as before. Of the callbacks that wait or are given each one starts once unless it waits at the
end. Before the page is first marked they wait in order, and all that wait start in order while it is,
and those that are given later start at once. -/
structure Punctual (d : Diary η) (host : Host η) (notices : List Notice) (w after : World η) : Prop where
  restores : ∀ before rest, notices = before ++ .mark :: rest → ∀ u v failure,
    giveAll d host before w = (.done (),u) → markInitialized host u = (.raised failure,v) →
      v.runtime.initialized = u.runtime.initialized
  once : ∃ happened, d.entries after.host = d.entries w.host ++ happened ∧ ∀ token,
    happened.count (.started token) + after.runtime.postInit.count token =
      w.runtime.postInit.count token + happened.count (.asked token)
  waits : w.runtime.initialized = false → .mark ∉ notices → after.runtime.initialized = false ∧
    after.runtime.postInit = w.runtime.postInit ++ early notices ∧
      d.entries after.host = d.entries w.host ++ (early notices).map .asked
  drains : w.runtime.initialized = false → .mark ∈ notices → ∃ u drained,
    giveAll d host ((early notices).map queue ++ [.mark]) w = (.done (),u) ∧
      u.runtime.postInit = [] ∧ Serves (w.runtime.postInit ++ early notices) drained ∧
        d.entries u.host = d.entries w.host ++ (early notices).map .asked ++ drained ∧
          ∃ later, d.entries after.host = d.entries u.host ++ later ∧ Serves [] later
  opened : w.runtime.initialized = true → ∃ later,
    d.entries after.host = d.entries w.host ++ later ∧ Serves [] later
  empties : w.runtime.initialized = true ∨ .mark ∈ notices →
    after.runtime.initialized = true ∧ after.runtime.postInit = []

section Punctual

variable (notes : d.Notes host body) (callbacks : ∀ token, d.Scheduled (body token)) {w : World η}
include notes callbacks

theorem giveAll_open (notices : List Notice) (flag : w.runtime.initialized = true)
    (empty : w.runtime.postInit = []) : ∃ after later, giveAll d host notices w = (.done (),after) ∧
      after.runtime.initialized = true ∧ after.runtime.postInit = [] ∧
        d.entries after.host = d.entries w.host ++ later ∧ Serves [] later := by
  obtain ⟨after,ran,serving⟩ := giveAll_serving notes callbacks notices w
  obtain ⟨still,served,later,queue,entries,serves⟩ := serving flag
  obtain ⟨rfl,none⟩ := List.append_eq_nil_iff.mp (queue.symm.trans empty)
  exact ⟨after,later,ran,still,none,entries,serves⟩

theorem giveAll_marked (tokens : List Nat) (shut : w.runtime.initialized = false) {r : Runtime}
    (written : announce (marked (queueing tokens w.runtime)) = (.done (),r)) : ∃ u drained,
      giveAll d host (tokens.map queue ++ [.mark]) w = (.done (),u) ∧ u.runtime.initialized = true ∧
        u.runtime.postInit = [] ∧ Serves (w.runtime.postInit ++ tokens) drained ∧
          d.entries u.host = d.entries w.host ++ tokens.map .asked ++ drained := by
  obtain ⟨kept,entries,ran⟩ := giveAll_queue d host tokens shut
  obtain ⟨u,there,flag,empty,drained,entriesAfter,serves⟩ := mark_done notes callbacks
    (w := ⟨queueing tokens w.runtime,kept⟩) written
  have mark : Notice.mark.give d host ⟨queueing tokens w.runtime,kept⟩ = (.done (),u) := there
  refine ⟨u,drained,?_,flag,empty,serves,entriesAfter.trans (congrArg (· ++ drained) entries)⟩
  rw [giveAll_append,Step.bind_done ran,giveAll,Step.bind_done (Step.attempt_done mark)]
  rfl

theorem punctual_open (notices : List Notice) (flag : w.runtime.initialized = true)
    (empty : w.runtime.postInit = []) :
    ∃ after, giveAll d host notices w = (.done (),after) ∧ Punctual d host notices w after := by
  obtain ⟨after,later,ran,still,none,entries,serves⟩ := giveAll_open notes callbacks notices flag empty
  refine ⟨after,ran,fun before rest _ u v failure there raised => ?_,⟨later,entries,fun token => ?_⟩,
    fun shut => ?_,fun shut => ?_,fun _ => ⟨later,entries,serves⟩,fun _ => ⟨still,none⟩⟩
  · obtain ⟨u',again,serving⟩ := giveAll_serving notes callbacks before w
    rw [there] at again
    obtain ⟨-,rfl⟩ := Prod.mk.inj again
    exact (mark_raised notes callbacks raised).2.trans (serving flag).1.symm
  · rw [serves.once,none,empty]
    simp
  · rw [flag] at shut
    cases shut
  · rw [flag] at shut
    cases shut

omit notes callbacks in
theorem punctual_unmarked (notices : List Notice) (shut : w.runtime.initialized = false)
    (never : .mark ∉ notices) :
    ∃ after, giveAll d host notices w = (.done (),after) ∧ Punctual d host notices w after := by
  obtain ⟨-,all⟩ | ⟨rest,split⟩ := early_cases notices
  · obtain ⟨kept,entries,ran⟩ := giveAll_queue d host (early notices) shut
    rw [← all] at ran
    refine ⟨_,ran,fun before rest split => ?_,⟨_,entries,fun token => ?_⟩,fun _ _ => ⟨shut,rfl,entries⟩,
      fun _ marked => absurd marked never,fun flag => ?_,fun opens => ?_⟩
    · exact absurd (split ▸ List.mem_append_right before List.mem_cons_self) never
    · rw [count_started,count_asked,Nat.zero_add]
      exact List.count_append
    · rw [shut] at flag
      cases flag
    · obtain flag | marked := opens
      · rw [shut] at flag
        cases flag
      · exact absurd marked never
  · exact absurd (split ▸ List.mem_append_right _ List.mem_cons_self) never

theorem punctual_marked (notices : List Notice) (shut : w.runtime.initialized = false)
    (ends : .mark ∈ notices) {r : Runtime}
    (written : announce (marked (queueing (early notices) w.runtime)) = (.done (),r)) :
    ∃ after, giveAll d host notices w = (.done (),after) ∧ Punctual d host notices w after := by
  obtain ⟨u,drained,first,flag,empty,serves,entries⟩ := giveAll_marked notes callbacks _ shut written
  obtain ⟨never,-⟩ | ⟨rest,split⟩ := early_cases notices
  · exact absurd ends never
  obtain ⟨after,later,onwards,still,none,entriesAfter,servesLater⟩ :=
    giveAll_open notes callbacks rest flag empty
  refine ⟨after,?_,fun before rest' split' v v' failure there raised => ?_,
    ⟨(early notices).map .asked ++ drained ++ later,?_,fun token => ?_⟩,fun _ never => absurd ends never,
    fun _ _ => ⟨u,drained,first,empty,serves,entries,later,entriesAfter,servesLater⟩,fun flag => ?_,
    fun _ => ⟨still,none⟩⟩
  · rw [split,← List.singleton_append,← List.append_assoc,giveAll_append,Step.bind_done first,onwards]
  · have same : early notices = early before := split' ▸ early_append before rest'
    rw [same] at first written
    obtain ⟨-,all⟩ | ⟨more,further⟩ := early_cases before
    · obtain ⟨kept,-,ran⟩ := giveAll_queue d host (early before) shut
      rw [← all,there] at ran
      obtain ⟨-,rfl⟩ := Prod.mk.inj ran
      obtain ⟨⟨_,_,refused⟩,-⟩ := mark_raised notes callbacks raised
      rw [written] at refused
      cases refused
    · obtain ⟨u',ran,serving⟩ := giveAll_serving notes callbacks more u
      rw [further,← List.singleton_append,← List.append_assoc,giveAll_append,Step.bind_done first,ran]
        at there
      obtain ⟨-,rfl⟩ := Prod.mk.inj there
      exact (mark_raised notes callbacks raised).2.trans (serving flag).1.symm
  · rw [entriesAfter,entries]
    simp only [List.append_assoc]
  · have turns := serves.once token
    rw [List.count_append] at turns
    rw [List.count_append,List.count_append,List.count_append,List.count_append,count_started,
      count_asked,turns,servesLater.once,none]
    simp only [List.count_nil]
    omega
  · rw [shut] at flag
    cases flag

/-- Whatever lies among the data, and whatever callbacks raise or give further callbacks, all goes as
it is to if and only if it can be written among the data that the page is marked. -/
theorem giveAll_punctual (notices : List Notice)
    (consistent : w.runtime.initialized = true → w.runtime.postInit = []) :
    ∃ after, giveAll d host notices w = (.done (),after) ∧ (Punctual d host notices w after ↔
      (w.runtime.initialized = false → .mark ∈ notices →
        ∃ r, announce (marked (queueing (early notices) w.runtime)) = (.done (),r))) := by
  cases flag : w.runtime.initialized with
  | true =>
    obtain ⟨after,ran,punctual⟩ := punctual_open notes callbacks notices flag (consistent flag)
    exact ⟨after,ran,fun _ shut => Bool.noConfusion shut,fun _ => punctual⟩
  | false =>
    by_cases ends : .mark ∈ notices
    · have concludes := announce_ends (marked (queueing (early notices) w.runtime))
      cases written : announce (marked (queueing (early notices) w.runtime)) with
      | mk ending r =>
        rw [written] at concludes
        cases ending with
        | done _ =>
          obtain ⟨after,ran,punctual⟩ := punctual_marked notes callbacks notices flag ends written
          exact ⟨after,ran,fun _ _ _ => ⟨r,rfl⟩,fun _ => punctual⟩
        | raised failure =>
          obtain ⟨after,ran,-⟩ := giveAll_serving notes callbacks notices w
          refine ⟨after,ran,fun punctual => ?_,fun writes => ?_⟩
          · obtain ⟨never,-⟩ | ⟨rest,split⟩ := early_cases notices
            · exact absurd ends never
            obtain ⟨kept,-,waiting⟩ := giveAll_queue d host (early notices) flag
            have raised : markInitialized host ⟨queueing (early notices) w.runtime,kept⟩ =
                (.raised failure,⟨r,kept⟩) := markInitialized_raised written
            have restored := punctual.restores _ _ split _ _ _ waiting raised
            have marked := (mark_raised notes callbacks raised).2
            exact absurd (marked.symm.trans (restored.trans flag)) Bool.noConfusion
          · obtain ⟨_,done⟩ := writes rfl ends
            cases done
        | exhausted => exact absurd rfl concludes
    · obtain ⟨after,ran,punctual⟩ := punctual_unmarked notices flag ends
      exact ⟨after,ran,fun _ _ marked => absurd marked ends,fun _ => punctual⟩

end Punctual

end Notice

/-- A host that keeps nothing but a diary. -/
def diary : Diary (List Happening) := ⟨id,fun happening kept => kept ++ [happening],fun _ _ => rfl⟩

def calling (body : Nat → Run (List Happening) Unit) : Host (List Happening) := { Host.idle with
  postInit := fun token => diary.write (.started token) >>= fun _ => body token }

/-- The first callback gives another one to the page, and then it raises. -/
def troubled : Nat → Run (List Happening) Unit
  | 0 => do
    diary.ask (calling fun _ => return ()) 2
    (Act.fail (.misuse .value "out of order") : Act Unit)
  | _ => return ()

theorem troubled_scheduled : ∀ token, diary.Scheduled (troubled token)
  | 0 => .bind (.ask (fun _ => rfl) (fun _ => .aside (.pure ())) 2) fun _ => .aside fun w => by
    rw [Run.ofAct_run (Act.fail_run _ w.runtime)]
    exact ⟨Step.raised_ends _,rfl⟩
  | _ + 1 => .aside (.pure ())

namespace Notice

/-- Two callbacks are given to a new page, and another one after it is marked. -/
theorem giveAll_punctual_troubled : diary.Notes (calling troubled) troubled ∧
    (∀ token, diary.Scheduled (troubled token)) ∧ ∃ after,
      giveAll diary (calling troubled) [.queue 0,.queue 1,.mark,.queue 3] ⟨initial,[]⟩ =
        (.done (),after) ∧
      Punctual diary (calling troubled) [.queue 0,.queue 1,.mark,.queue 3] ⟨initial,[]⟩ after := by
  have notes : diary.Notes (calling troubled) troubled := fun _ => rfl
  obtain ⟨after,ran,punctual⟩ := giveAll_punctual notes troubled_scheduled (w := ⟨initial,[]⟩)
    [.queue 0,.queue 1,.mark,.queue 3] nofun
  have written : (announce (marked (queueing [0,1] initial))).1 = .done () := by decide +kernel
  exact ⟨notes,troubled_scheduled,after,ran,punctual.mpr fun _ _ => Step.ended written⟩

def numbered : World (List Happening) := ⟨initial.setRoot "state" (.int 5),[]⟩

/-- A page whose state is a number cannot be marked. It counts as initialised all the same, and the
callback that is given to it before goes on waiting while the one that is given later starts. -/
theorem giveAll_overtakes :
    (markInitialized (calling fun _ => return ()) numbered).1 = .raised 0 ∧
    (markInitialized (calling fun _ => return ()) numbered).2.runtime.initialized = true ∧
    numbered.runtime.initialized = false ∧
    (giveAll diary (calling fun _ => return ()) [.queue 0,.mark,.queue 1] numbered).2.host =
      [.asked 0,.asked 1,.started 1] ∧
    (giveAll diary (calling fun _ => return ()) [.queue 0,.mark,.queue 1] numbered).2.runtime.postInit =
      [0] :=
  ⟨by decide +kernel,by decide +kernel,rfl,by decide +kernel,by decide +kernel⟩

end Notice

end Page
end PageRuntime
