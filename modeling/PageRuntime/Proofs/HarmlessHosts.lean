import PageRuntime.Proofs.HostSteps
import PageRuntime.Proofs.LockedRoots

/-! Hosts that do no harm: their modules and hooks make objects and write the journal at most, but for
the hook that may adjust the outgoing record of a fetch. That record is made for the call, so with
such a host the making of a call and the sending of a request leave all there was as it was. -/
namespace PageRuntime

variable {η α β : Type}

/-- Objects were made, the journal was written and the host went on. -/
def World.Grew (w after : World η) : Prop := w.runtime.Grew after.runtime

instance : Std.Refl (World.Grew (η := η)) := ⟨fun w => .refl w.runtime⟩

instance : Trans (World.Grew (η := η)) World.Grew World.Grew :=
  ⟨fun first second => Runtime.Grew.trans first second⟩

theorem World.Grew.of_only {act : Act α} (only : act.OnlyGrows) :
    Step.Keeps World.Grew (act : Run η α) := fun w => only w.runtime

theorem World.Grew.of_makes {act : Act α} (only : act.OnlyMakes) :
    Step.Keeps World.Grew (act : Run η α) := of_only only.onlyGrows

/-- What holds where a step stops and wherever the next one may stop holds after both. -/
theorem Step.after_bind {σ : Type} {Q : σ → Prop} {first : Step σ α} {next : α → Step σ β}
    {state : σ} (stopped : Q (first state).2)
    (later : ∀ x mid, first state = (.done x,mid) → Q (next x mid).2) :
    Q ((first >>= next) state).2 := by
  rw [Step.bind_run]
  cases ran : first state with
  | mk ending mid =>
    rw [ran] at stopped
    cases ending with
    | done x => exact later x mid ran
    | raised failure => exact stopped
    | exhausted => exact stopped

namespace Fetch

/-- Of the objects there were, only the outgoing record and its header fields may have changed. -/
structure Adjusted (init : Value) (w after : World η) : Prop where
  frame : after.runtime.frame = w.runtime.frame
  objects : ∀ shelf a, a < w.runtime.store.sizeOf shelf → a < after.runtime.store.sizeOf shelf ∧
    (after.runtime.store.object shelf a = w.runtime.store.object shelf a ∨
      shelf = .dict ∧ (init = .dict a ∨ headersOf w.runtime.store init = .dict a))

end Fetch

/-- Modules and hooks that do not reach into the runtime: they make objects and write the journal at
most, but for the outgoing record of a fetch, which a hook may adjust. -/
structure Host.Harmless (host : Host η) : Prop where
  accept : ∀ token request, Step.Keeps World.Grew (host.accept token request)
  answer : ∀ token request, Step.Keeps World.Grew (host.answer token request)
  csrfHeaders : Step.Keeps World.Grew host.csrfHeaders
  adjust : ∀ url init, Step.Keeps (Fetch.Adjusted init) (host.adjust url init)
  send : ∀ request, Step.Keeps World.Grew (host.send request)
  pause : ∀ seconds, Step.Keeps World.Grew (host.pause seconds)
  report : ∀ receive, host.report = some receive →
    ∀ report, Step.Keeps World.Grew (receive report)

namespace Fetch

/-- An outgoing record and its header fields, both made since `base`. -/
structure Prepared (base : Runtime) (record fields : Address) (w : World η) : Prop where
  grew : base.Grew w.runtime
  apart : record ≠ fields
  newRecord : base.store.sizeOf .dict ≤ record
  newFields : base.store.sizeOf .dict ≤ fields
  inside : record < w.runtime.store.sizeOf .dict
  held : headersOf w.runtime.store (.dict record) = .dict fields

namespace Prepared

variable {base : Runtime} {record fields : Address} {w after : World η}

theorem of_same (prepared : Prepared base record fields w) (grew : base.Grew after.runtime)
    (inside : record < after.runtime.store.sizeOf .dict)
    (same : after.runtime.store.dictAt record = w.runtime.store.dictAt record) :
    Prepared base record fields after := by
  have held : (w.runtime.store.dictAt record).field "headers" = .dict fields := prepared.held
  rw [← same] at held
  exact { prepared with grew, inside, held }

theorem grown (prepared : Prepared base record fields w) (grew : w.Grew after) :
    Prepared base record fields after := by
  obtain ⟨inside,same⟩ := grew.store .dict record prepared.inside
  exact prepared.of_same (prepared.grew.trans grew) inside (Object.entries.inj same)

theorem putFields (prepared : Prepared base record fields w) (d : Dict) :
    Prepared base record fields
      { w with runtime.store := w.runtime.store.putDict fields d } := by
  have puts := w.runtime.store.putDict_puts fields d
  refine prepared.of_same ⟨prepared.grew.store.put puts prepared.newFields,prepared.grew.frame⟩ ?_ ?_
  · rw [puts.sizes]
    exact prepared.inside
  · exact Object.entries.inj (puts.others .dict record (.inr prepared.apart))

end Prepared

variable {host : Host η} (csrfHeaders : Step.Keeps World.Grew host.csrfHeaders)
  (adjusts : ∀ url init, Step.Keeps (Adjusted init) (host.adjust url init))
include csrfHeaders adjusts

/-- Preparing a record further keeps what was there from the start. -/
theorem adjust_grew {base : Runtime} {record fields : Address} {w : World η}
    (prepared : Prepared base record fields w) (url : String) :
    base.Grew (adjust host url (.dict record) w).2.runtime := by
  have adjusted (w : World η) (prepared : Prepared base record fields w) :
      base.Grew (host.adjust url (.dict record) w).2.runtime := by
    have adjusted := adjusts url (.dict record) w
    refine ⟨fun shelf a inside => ?_,adjusted.frame.trans prepared.grew.frame⟩
    obtain ⟨still,same⟩ := prepared.grew.store shelf a inside
    obtain ⟨stays,alike | ⟨rfl,own⟩⟩ := adjusted.objects shelf a still
    · exact ⟨stays,alike.trans same⟩
    · refine absurd inside (Nat.not_lt.mpr ?_)
      obtain here | here := own
      · exact Value.dict.inj here ▸ prepared.newRecord
      · exact Value.dict.inj (prepared.held.symm.trans here) ▸ prepared.newFields
  have added (w : World η) (prepared : Prepared base record fields w) :
      base.Grew ((do
        let extra ← host.csrfHeaders
        let added ← Act.ofExcept ((← Step.read).runtime.store.dictOrEmpty extra)
        putEntries (.dict fields) (Dict.update · added)
        host.adjust url (.dict record) : Run η Unit) w).2.runtime := by
    refine Step.after_bind (Q := fun w : World η => base.Grew w.runtime)
      (prepared.grown (csrfHeaders w)).grew fun extra mid ran => ?_
    have prepared := prepared.grown (csrfHeaders w)
    rw [ran] at prepared
    rw [Step.bind_done (Step.read_run mid)]
    have made := World.Grew.of_only (.ofExcept (mid.runtime.store.dictOrEmpty extra)) mid
    refine Step.after_bind (Q := fun w : World η => base.Grew w.runtime) (prepared.grown made).grew
      fun added last ran => ?_
    rw [ran] at made
    exact adjusted _ ((prepared.grown made).putFields _)
  rw [adjust,Step.bind_done (Step.read_run w)]
  dsimp only
  rw [prepared.held]
  split
  · exact added _ (prepared.putFields _)
  · exact added w prepared

theorem outgoing_grew (method url : String) (query fields init : Dict) (body : Value) :
    Step.Keeps World.Grew (outgoing host method url query fields init body) := by
  intro w
  let headers := w.runtime.store.dicts.size
  let s := (w.runtime.store.newDict fields).2
  let made := (init.put "headers" (.dict headers)).put "method" (.str method)
  let start : World η := { w with runtime.store := (s.newDict made).2 }
  have first : w.runtime.store.Adds s .dict _ := w.runtime.store.newDict_adds fields
  have second := s.newDict_adds made
  have size : s.dicts.size = headers + 1 := first.size
  have held : headersOf (s.newDict made).2 (.dict s.dicts.size) = .dict headers := by
    have same : (s.newDict made).2.dictAt s.dicts.size = made := Object.entries.inj second.object
    show Value.ofOption (((s.newDict made).2.dictAt s.dicts.size).get? (.text "headers")) = _
    rw [same,show made.get? (.text "headers") = some (.dict headers) from
      (Runtime.get?_insert_of_ne _ (by decide) _ _).trans (Runtime.get?_insert_self _ _ _ _)]
    rfl
  have prepared : Prepared w.runtime s.dicts.size headers start := {
    grew := ⟨(Store.Grew.of_adds first).trans (.of_adds second),rfl⟩
    apart := by rw [size]; exact Nat.succ_ne_self _
    newRecord := by show headers ≤ _; omega
    newFields := Nat.le_refl headers
    inside := Nat.lt_of_lt_of_eq (Nat.lt_succ_self _) second.size.symm
    held := held }
  have adjusted := adjust_grew csrfHeaders adjusts prepared url
  have run : outgoing host method url query fields init body w =
      (do
        adjust host url (.dict s.dicts.size)
        return ⟨url,method,query,body,.dict s.dicts.size⟩ : Run η Plan) start := rfl
  rw [run]
  refine Step.after_bind (Q := fun after : World η => w.Grew after) adjusted fun _ mid ran => ?_
  rw [ran] at adjusted
  exact adjusted

end Fetch

namespace Host.Harmless

variable {host : Host η} (harmless : host.Harmless)
include harmless

theorem start (path arguments : Value) (trail : Option Address) (isPure : Bool) :
    Step.Keeps World.Grew (Gateway.start host path arguments trail isPure) :=
  Gateway.start_composes Step.Keeps.composes World.Grew.of_makes harmless.accept
    (Fetch.plan_composes Step.Keeps.composes World.Grew.of_makes
      (Fetch.outgoing_grew harmless.csrfHeaders harmless.adjust)) path arguments trail isPure

theorem perform (plan : Fetch.Plan) : Step.Keeps World.Grew (Fetch.perform host plan) :=
  Fetch.perform_keeps World.Grew.of_only harmless.send harmless.pause plan

theorem deliver (report : Address) : Step.Keeps World.Grew (Report.deliver host report) :=
  Report.deliver_keeps World.Grew.of_only harmless.report report

end Host.Harmless
end PageRuntime
