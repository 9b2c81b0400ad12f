import Mathlib.Data.ENat.Lattice
import PageRuntime.Page
import PageRuntime.Proofs.Step

/-! Requests that are tried again. With a host that does as a script says, a request goes out once more
after each failure, as long as retries are left: it ends with the first response or with the failure
of the last attempt, and a pause stands between two attempts. Two things come in between: with less
than no retry nothing goes out, and after the attempt that would be followed by a pause of `2 ^ 1024`
there is none. -/
namespace PageRuntime
namespace Http

variable {η : Type}

/-- What a host has been asked to do. -/
inductive Deed
  | sent (request : HttpRequest)
  | paused (length : Number.Binary64)

/-- What comes of the requests of a host, in the order in which they are sent. -/
abbrev Script := Nat → Except Address HttpResponse

namespace Script

/-- So many outcomes are failures, and the one after them, if there is one, is a response. -/
def Leads (script : Script) (k : ℕ∞) : Prop :=
  (∀ i : ℕ, i < k → ∃ failure, script i = .error failure) ∧
    ∀ n : ℕ, k = n → ∃ response, script n = .ok response

/-- Every script begins with some failures, be it none or all of it. -/
theorem leads_exists (script : Script) : ∃ k, script.Leads k := by
  by_cases answered : ∃ n response, script n = .ok response
  · classical
    refine ⟨(Nat.find answered : ℕ),fun i before => ?_,fun n same => ?_⟩
    · cases outcome : script i with
      | error failure => exact ⟨failure,rfl⟩
      | ok response =>
        exact absurd ⟨response,outcome⟩ (Nat.find_min answered (Nat.cast_lt.mp before))
    · rw [← Nat.cast_inj.mp same]
      exact Nat.find_spec answered
  · refine ⟨⊤,fun i _ => ?_,fun n same => absurd same.symm (ENat.natCast_ne_top n)⟩
    cases outcome : script i with
    | error failure => exact ⟨failure,rfl⟩
    | ok response => exact absurd ⟨i,response,outcome⟩ answered

/-- The script after so many requests. -/
def after (script : Script) (count : Nat) : Script := fun i => script (count + i)

end Script

def Deed.isSent : Deed → Bool
  | sent _ => true
  | paused _ => false

def endingOf : Except Address HttpResponse → Outcome HttpResponse
  | .ok response => .done response
  | .error failure => .raised failure

/-- The client and the clock of the host do as the script says, and the host keeps account of it. -/
structure Follows (host : Host η) (script : Script) (deeds : η → List Deed) : Prop where
  send : ∀ request w, (host.send request w).1 = endingOf (script ((deeds w.host).countP Deed.isSent)) ∧
    deeds (host.send request w).2.host = deeds w.host ++ [.sent request]
  pause : ∀ length w, (host.pause length w).1 = .done () ∧
    deeds (host.pause length w).2.host = deeds w.host ++ [.paused length]

/-- So many requests that fail, with a pause after each. -/
def rounds (request : HttpRequest) (backoff : Number.Binary64) (n : Nat) : List Deed :=
  (List.range n).flatMap fun i => [.sent request,.paused (backoff.doubled i)]

theorem rounds_succ (request : HttpRequest) (backoff : Number.Binary64) (n : Nat) :
    rounds request backoff (n + 1) =
      rounds request backoff n ++ [.sent request,.paused (backoff.doubled n)] := by
  simp [rounds,List.range_succ]

theorem sent_rounds (request : HttpRequest) (backoff : Number.Binary64) (n : Nat) :
    (rounds request backoff n).countP Deed.isSent = n := by
  induction n with
  | zero => rfl
  | succ n ih => rw [rounds_succ,List.countP_append,ih]; rfl

section Attempts

variable {host : Host η} {script : Script} {deeds : η → List Deed} (follows : Follows host script deeds)
  (request : HttpRequest) (backoff : Number.Binary64) {w : World η}
include follows

/-- Where so many rounds have passed, the next attempt has the outcome that is next in the script. -/
theorem Follows.attempt {u : World η} {n : Nat}
    (passed : deeds u.host = deeds w.host ++ rounds request backoff n) :
    ∃ v, host.send request u =
        (endingOf (script.after ((deeds w.host).countP Deed.isSent) n),v) ∧
      deeds v.host = deeds w.host ++ rounds request backoff n ++ [.sent request] := by
  obtain ⟨ending,account⟩ := follows.send request u
  refine ⟨_,Prod.ext ?_ rfl,by rw [account,passed]⟩
  rw [ending,passed,List.countP_append,sent_rounds]
  rfl

variable {n : Nat} (within : n ≤ 1024)
  (failed : ∀ i < n, ∃ failure, script.after ((deeds w.host).countP Deed.isSent) i = .error failure)
include within failed

/-- As long as the attempts fail and retries are left, one follows the other. -/
theorem attempts_pass {retries : Nat} (more : n ≤ retries) :
    ∃ u, deeds u.host = deeds w.host ++ rounds request backoff n ∧
      attempts host request backoff (retries + 1) 0 w =
        attempts host request backoff (retries - n + 1) n u := by
  induction n with
  | zero => exact ⟨w,(List.append_nil _).symm,rfl⟩
  | succ n ih =>
    obtain ⟨u,passed,same⟩ := ih (Nat.le_of_succ_le within) (fun i before => failed i (Nat.lt_succ_of_lt before))
      (Nat.le_of_succ_le more)
    obtain ⟨failure,outcome⟩ := failed n (Nat.lt_succ_self n)
    obtain ⟨v,sent,account⟩ := follows.attempt request backoff passed
    rw [outcome] at sent
    obtain ⟨paused,slept⟩ := follows.pause (backoff.doubled n) v
    refine ⟨(host.pause (backoff.doubled n) v).2,?_,?_⟩
    · rw [slept,account,rounds_succ]
      simp
    · have left : retries - n = retries - (n + 1) + 1 := by omega
      have length : pauseAfter backoff n = .ok (backoff.doubled n) := if_pos within
      rw [same,left,attempts,Step.bind_done (Step.attempt_raised sent)]
      simp only [Nat.succ_ne_zero,beq_iff_eq,if_false,length]
      exact Step.bind_done (Prod.ext paused rfl)

omit within failed in
/-- The attempt after which no retry is left ends the request, and so does a response. -/
theorem attempts_end {u : World η} (passed : deeds u.host = deeds w.host ++ rounds request backoff n)
    {left : Nat}
    (ends : left = 0 ∨ ∃ response, script.after ((deeds w.host).countP Deed.isSent) n = .ok response) :
    ∃ v, deeds v.host = deeds w.host ++ rounds request backoff n ++ [.sent request] ∧
      attempts host request backoff (left + 1) n u =
        (match script.after ((deeds w.host).countP Deed.isSent) n with
          | .ok response => .done (some response)
          | .error failure => .raised failure,v) := by
  obtain ⟨v,sent,account⟩ := follows.attempt request backoff passed
  refine ⟨v,account,?_⟩
  rw [attempts]
  cases outcome : script.after ((deeds w.host).countP Deed.isSent) n with
  | ok response =>
    rw [outcome] at sent
    rw [Step.bind_done (Step.attempt_done sent)]
    rfl
  | error failure =>
    obtain rfl | ⟨response,answered⟩ := ends
    · rw [outcome] at sent
      rw [Step.bind_done (Step.attempt_raised sent)]
      rfl
    · cases outcome.symm.trans answered

omit within failed in
/-- A pause that is too long for a number is none. -/
theorem attempts_stop {u : World η} (passed : deeds u.host = deeds w.host ++ rounds request backoff 1024)
    {failure : Address}
    (outcome : script.after ((deeds w.host).countP Deed.isSent) 1024 = .error failure) (left : Nat) :
    deeds (attempts host request backoff (left + 2) 1024 u).2.host =
      deeds w.host ++ rounds request backoff 1024 ++ [.sent request] := by
  obtain ⟨v,sent,account⟩ := follows.attempt request backoff passed
  rw [outcome] at sent
  rw [attempts,Step.bind_done (Step.attempt_raised sent),← account]
  rfl

end Attempts

/-- What goes out for a request. -/
def outgoing (method url : String) (options : Options) (data : Value) : HttpRequest :=
  ⟨Unicode.upper method,url,headersFor (contentOf data) options.headers,options.query,contentOf data,
    options.timeout,true⟩

/-- A response as it is handed on. -/
def lowered (s : Store) (response : HttpResponse) : HttpResponse :=
  { response with headers := lowerHeaders s response.headers }

/-- Where `k` attempts would fail before the first response, the request has gone out once and again
for each of these failures as long as retries were left, with one pause between two attempts. It has
ended with the response, or with the failure of the last attempt if none was left for it. -/
structure Persists (script : Script) (k : ℕ∞) (retries : Nat) (request : HttpRequest)
    (backoff : Number.Binary64) (before after : List Deed) (s : Store)
    (ending : Outcome (Option HttpResponse)) : Prop where
  deeds : ∃ n : ℕ, n = min k retries ∧ after = before ++ rounds request backoff n ++ [.sent request]
  answered : ∀ n : ℕ, k = n → n ≤ retries → ∃ response, script n = .ok response ∧
    ending = .done (some (lowered s response))
  given_up : retries < k → ∃ failure, script retries = .error failure ∧ ending = .raised failure

section Requests

variable {host : Host η} {script : Script} {deeds : η → List Deed} (method url : String)
  (options : Options) (data : Value) {w : World η}

theorem request_eq : request host method url options data =
    attempts host (outgoing method url options data) options.backoff (options.retries + 1).toNat 0 >>=
      fun response => Step.read >>= fun after =>
        Pure.pure (response.map (lowered after.runtime.store)) := rfl

theorem request_leaves : (request host method url options data w).2 =
    (attempts host (outgoing method url options data) options.backoff (options.retries + 1).toNat 0 w).2 := by
  rw [request_eq,Step.bind_run]
  generalize attempts host _ _ _ 0 w = ran
  obtain ⟨_ | _ | _,after⟩ := ran <;> rfl

theorem request_unasked (negative : options.retries < 0) (w : World η) :
    request host method url options data w = (.done none,w) := by
  have never : (options.retries + 1).toNat = 0 := by omega
  rw [request_eq,never]
  rfl

variable (follows : Follows host script deeds)
include follows

theorem request_stops (counted : 0 ≤ options.retries) (more : 1024 < options.retries.toNat)
    (failed : ∀ i ≤ 1024, ∃ failure,
      script.after ((deeds w.host).countP Deed.isSent) i = .error failure) :
    deeds (request host method url options data w).2.host = deeds w.host ++
      rounds (outgoing method url options data) options.backoff 1024 ++
        [.sent (outgoing method url options data)] := by
  have all : (options.retries + 1).toNat = options.retries.toNat + 1 := by omega
  have left : options.retries.toNat - 1024 + 1 = options.retries.toNat - 1025 + 2 := by omega
  obtain ⟨u,passed,same⟩ := attempts_pass follows (outgoing method url options data) options.backoff
    (Nat.le_refl 1024) (fun i before => failed i (Nat.le_of_lt before)) (Nat.le_of_lt more)
  obtain ⟨failure,outcome⟩ := failed 1024 (Nat.le_refl _)
  rw [request_leaves,all,same,left]
  exact attempts_stop follows _ _ passed outcome _

/-- After so many failures the request ends, with a response or because no retry is left. -/
theorem request_ends {n : Nat} (counted : 0 ≤ options.retries) (within : n ≤ 1024)
    (more : n ≤ options.retries.toNat)
    (failed : ∀ i < n, ∃ failure, script.after ((deeds w.host).countP Deed.isSent) i = .error failure)
    (ends : options.retries.toNat = n ∨
      ∃ response, script.after ((deeds w.host).countP Deed.isSent) n = .ok response) :
    ∃ v, deeds v.host = deeds w.host ++ rounds (outgoing method url options data) options.backoff n ++
        [.sent (outgoing method url options data)] ∧
      request host method url options data w =
        (match script.after ((deeds w.host).countP Deed.isSent) n with
          | .ok response => .done (some (lowered v.runtime.store response))
          | .error failure => .raised failure,v) := by
  have all : (options.retries + 1).toNat = options.retries.toNat + 1 := by omega
  obtain ⟨u,passed,same⟩ := attempts_pass follows (outgoing method url options data) options.backoff
    within failed more
  have ends : options.retries.toNat - n = 0 ∨
      ∃ response, script.after ((deeds w.host).countP Deed.isSent) n = .ok response :=
    ends.imp_left fun last => by omega
  obtain ⟨v,account,ended⟩ := attempts_end follows (outgoing method url options data) options.backoff
    passed ends
  refine ⟨v,account,?_⟩
  rw [request_eq,all]
  cases outcome : script.after ((deeds w.host).countP Deed.isSent) n with
  | ok response =>
    rw [outcome] at ended
    exact Step.bind_done (same.trans ended)
  | error failure =>
    rw [outcome] at ended
    exact Step.bind_raised (same.trans ended)

/-- A request is tried again as it is asked for if and only if it is not asked for less than no retry
and no more than 1024 pauses are needed for it. -/
theorem request_persists {k : ℕ∞} (leads : (script.after ((deeds w.host).countP Deed.isSent)).Leads k) :
    Persists (script.after ((deeds w.host).countP Deed.isSent)) k options.retries.toNat
        (outgoing method url options data) options.backoff (deeds w.host)
        (deeds (request host method url options data w).2.host)
        (request host method url options data w).2.runtime.store
        (request host method url options data w).1 ↔
      0 ≤ options.retries ∧ min k options.retries.toNat ≤ 1024 := by
  constructor
  · intro persists
    obtain ⟨n,pauses,account⟩ := persists.deeds
    have counted : 0 ≤ options.retries := by
      by_contra negative
      rw [request_unasked method url options data (Int.not_le.mp negative)] at account
      simp at account
    refine ⟨counted,?_⟩
    by_contra many
    obtain ⟨most,more⟩ := lt_min_iff.mp (not_le.mp many)
    have more : 1024 < options.retries.toNat := Nat.cast_lt.mp more
    have failed (i : ℕ) (before : i ≤ 1024) : ∃ failure,
        script.after ((deeds w.host).countP Deed.isSent) i = .error failure :=
      leads.1 i (lt_of_le_of_lt (Nat.cast_le.mpr before) most)
    rw [request_stops method url options data follows counted more failed] at account
    have sent := congrArg (List.countP Deed.isSent) account
    simp only [List.countP_append,sent_rounds] at sent
    have fewer : n = 1024 := by omega
    rw [← pauses,fewer] at many
    exact many le_rfl
  · rintro ⟨counted,few⟩
    obtain ⟨n,pauses⟩ : ∃ n : ℕ, n = min k options.retries.toNat :=
      ENat.ne_top_iff_exists.mp (ne_top_of_le_ne_top (ENat.natCast_ne_top _) (min_le_right _ _))
    rw [← pauses] at few
    have below : (n : ℕ∞) ≤ k := pauses ▸ min_le_left _ _
    have more : n ≤ options.retries.toNat := Nat.cast_le.mp (pauses ▸ min_le_right _ _)
    have answers (same : k = n) := leads.2 n same
    have ends : options.retries.toNat = n ∨ k = n := by
      obtain here | there := le_total k options.retries.toNat
      · exact .inr ((min_eq_left here).symm.trans pauses.symm)
      · exact .inl (Nat.cast_inj.mp ((min_eq_right there).symm.trans pauses.symm))
    obtain ⟨v,account,ran⟩ := request_ends method url options data follows counted (Nat.cast_le.mp few)
      more (fun i before => leads.1 i (lt_of_lt_of_le (Nat.cast_lt.mpr before) below))
      (ends.imp_right answers)
    rw [ran]
    refine ⟨⟨n,pauses,account⟩,fun m same left => ?_,fun beyond => ?_⟩
    · have here : m = n := by
        rw [same,min_eq_left (Nat.cast_le.mpr left)] at pauses
        exact (Nat.cast_inj.mp pauses).symm
      subst here
      obtain ⟨response,outcome⟩ := answers same
      exact ⟨response,outcome,by rw [outcome]⟩
    · have here : options.retries.toNat = n := by
        rw [min_eq_right (le_of_lt beyond)] at pauses
        exact (Nat.cast_inj.mp pauses).symm
      obtain ⟨failure,outcome⟩ := leads.1 _ beyond
      exact ⟨failure,outcome,by rw [← here,outcome]⟩

end Requests

/-- A host that does as a script says and writes down what it does. -/
def scripted (script : Script) : Host (List Deed) := { Host.idle with
  send := fun request w =>
    (endingOf (script (w.host.countP Deed.isSent)),{ w with host := w.host ++ [.sent request] })
  pause := fun length w => (.done (),{ w with host := w.host ++ [.paused length] }) }

theorem scripted_follows (script : Script) : Follows (scripted script) script id :=
  ⟨fun _ _ => ⟨rfl,rfl⟩,fun _ _ => ⟨rfl,rfl⟩⟩

/-- The first two requests fail. -/
def recovering : Script := fun i => if i < 2 then .error i else .ok ⟨200,[],[]⟩

theorem recovering_leads : recovering.Leads 2 := by
  refine ⟨fun i before => ⟨i,if_pos (Nat.cast_lt.mp before)⟩,fun n same => ⟨⟨200,[],[]⟩,?_⟩⟩
  obtain rfl : 2 = n := Nat.cast_inj.mp same
  rfl

def threeRetries : Options := ⟨Settings.default.fetchTimeout,3,Settings.default.fetchBackoff,[],[]⟩

/-- Two failures, three retries and a host that starts with a clean sheet. -/
theorem request_persists_recovering :
    (recovering.after (([] : List Deed).countP Deed.isSent)).Leads 2 ∧
      Persists recovering 2 3 (outgoing "GET" "http://e" threeRetries .null) threeRetries.backoff []
        (request (scripted recovering) "GET" "http://e" threeRetries .null ⟨Page.initial,[]⟩).2.host
        (request (scripted recovering) "GET" "http://e" threeRetries .null ⟨Page.initial,[]⟩).2.runtime.store
        (request (scripted recovering) "GET" "http://e" threeRetries .null ⟨Page.initial,[]⟩).1 := by
  have same : recovering.after (([] : List Deed).countP Deed.isSent) = recovering := by
    funext i
    exact congrArg recovering (Nat.zero_add i)
  have leads := same.symm ▸ recovering_leads
  have persists := (request_persists "GET" "http://e" threeRetries .null
    (scripted_follows recovering) (w := ⟨Page.initial,[]⟩) leads).mpr
      ⟨by decide,le_trans (min_le_left _ _) (Nat.cast_le.mpr (by decide : 2 ≤ 1024))⟩
  exact ⟨leads,same ▸ persists⟩

/-- Settings may ask for less than no retry, and then nothing is sent. -/
theorem request_silent : ∃ settings, Settings.ofDict Store.empty
      [⟨.text "fetch_retries",.str "fetch_retries",.int (-1)⟩] = .ok settings ∧
    request (scripted fun _ => .ok ⟨200,[],[]⟩) "GET" "http://e"
        ⟨settings.fetchTimeout,settings.fetchRetries,settings.fetchBackoff,[],[]⟩ .null ⟨Page.initial,[]⟩ =
      (.done none,⟨Page.initial,[]⟩) :=
  ⟨_,rfl,request_unasked _ _ _ _ (by decide) _⟩

end Http
end PageRuntime
