import PageRuntime.Proofs.ClosedFailures
import PageRuntime.Proofs.Courses
import PageRuntime.Proofs.ReturnValues

/-! Records that fail are passed over. Where failures are to be logged, a batch comes to its end just if a
severity is found for each record that fails. It logs each of these once, and if none of them has retargeted
a handle it leaves what the batch of the other records would leave. -/
namespace PageRuntime
namespace ActionBatch

variable {η : Type} {host : Host η} {scope : Address} {captureOnly : Bool}
  {next : Nat → Store → Option Value} {index : Nat} {record returned passed : Value}
  {w mid after : World η} {ending : Outcome Value} {turns : List (Turn η)}

namespace Turn

variable (turn : Turn η) {left : World η}

theorem of_raised {failure : Address}
    (ran : attemptRecord host scope captureOnly turn.record turn.returned turn.world =
      (.raised failure,left)) :
    turn.failure? host scope captureOnly = some failure ∧ turn.left host scope captureOnly = left := by
  unfold failure? Turn.left
  rw [ran]
  exact ⟨rfl,rfl⟩

theorem of_done (ran : attemptRecord host scope captureOnly turn.record turn.returned turn.world =
      (.done passed,left)) :
    turn.failure? host scope captureOnly = none ∧ turn.left host scope captureOnly = left := by
  unfold failure? Turn.left
  rw [ran]
  exact ⟨rfl,rfl⟩

end Turn

theorem processRecord_of_done
    (ran : attemptRecord host scope captureOnly record returned w = (.done passed,mid)) :
    processRecord host scope captureOnly index record returned w = (.done passed,mid) := by
  rw [processRecord,Step.bind_done (Step.attempt_done ran)]
  rfl

/-- What a turn leaves as it was: the settings, the batches that are open and the host. -/
structure Level (w after : World η) : Prop where
  settings : after.runtime.settings = w.runtime.settings
  depth : after.depth = w.depth
  host : after.host = w.host

section Logging

variable (parser : host.ParserMakes) (inside : 0 < w.depth)
include parser inside

theorem attemptRecord_steady {result : Outcome Value}
    (ran : attemptRecord host scope captureOnly record returned w = (result,after)) :
    w.runtime.Steady after.runtime ∧ after.host = w.host := by
  have kept := World.Steady.attemptRecord parser scope captureOnly record returned w inside
  rwa [ran] at kept

/-- A turn that the batch goes on after has stopped nothing, and has logged what is to be logged of it. -/
theorem processRecord_logs
    (ran : processRecord host scope captureOnly index record returned w = (.done passed,mid)) :
    Level w mid ∧ ¬ (Turn.mk index record returned w).Stops host scope captureOnly ∧
      mid.runtime.logged = w.runtime.logged ++
        ((Turn.mk index record returned w).log? host scope captureOnly).toList := by
  obtain applied | ⟨failure,left,kind,failed,named,rfl,rfl⟩ := processRecord_done ran
  · obtain ⟨steady,host⟩ := attemptRecord_steady parser inside applied
    obtain ⟨none,-⟩ := Turn.of_done ⟨index,record,returned,w⟩ applied
    refine ⟨⟨steady.settings,steady.depth,host⟩,?_,?_⟩
    · rintro ⟨failure,_,some,-⟩
      rw [none] at some
      cases some
    · rw [Turn.log?,none]
      exact steady.logged.trans (List.append_nil _).symm
  · obtain ⟨steady,host⟩ := attemptRecord_steady parser inside failed
    obtain ⟨some,here⟩ := Turn.of_raised ⟨index,record,passed,w⟩ failed
    refine ⟨⟨steady.settings,steady.depth,host⟩,?_,?_⟩
    · rintro ⟨_,fault,-,unknown⟩
      rw [here,named] at unknown
      cases unknown
    · rw [Turn.log?,some,here,World.logging_logged,steady.logged]
      rfl

/-- A course comes to an end if none of its turns stops it, and has then logged what is to be logged of each. -/
theorem Course.logs (quiet : ∀ kind, w.runtime.settings.severityOf kind = .log)
    (course : Course host scope captureOnly next index returned w turns ending after) :
    (∀ x, ending = .done x → (∀ turn ∈ turns, ¬ turn.Stops host scope captureOnly) ∧
      after.runtime.logged = w.runtime.logged ++ turns.filterMap (·.log? host scope captureOnly)) ∧
    ∀ failure, ending = .raised failure → ∃ turn ∈ turns, turn.Stops host scope captureOnly := by
  induction course with
  | close none =>
    refine ⟨fun x _ => ⟨fun turn member => (List.not_mem_nil member).elim,?_⟩,?_⟩
    · rw [List.filterMap_nil,List.append_nil]
    · rintro failure ⟨⟩
  | @on index record returned passed w mid after turns ending due ran _ ih =>
    obtain ⟨level,goesOn,logged⟩ := processRecord_logs parser inside ran
    obtain ⟨ends,stops⟩ := ih (by rw [level.depth]; exact inside) (by rw [level.settings]; exact quiet)
    refine ⟨fun x done => ?_,fun failure raised => ?_⟩
    · obtain ⟨rest,more⟩ := ends x done
      refine ⟨List.forall_mem_cons.mpr ⟨goesOn,rest⟩,?_⟩
      rw [more,logged,List.append_assoc]
      congr 1
      rw [List.filterMap_cons]
      cases (Turn.mk index record returned w).log? host scope captureOnly <;> rfl
    · obtain ⟨turn,member,stops⟩ := stops failure raised
      exact ⟨turn,List.mem_cons_of_mem _ member,stops⟩
  | @halted index record returned w after failure due ran =>
    refine ⟨fun x => (nomatch ·),fun failure _ => ⟨_,List.mem_singleton_self _,?_⟩⟩
    obtain ⟨failure,left,fault,failed,unknown⟩ := processRecord_raised (fun failure left failed => by
      obtain ⟨steady,-⟩ := attemptRecord_steady parser inside failed
      rw [steady.settings]
      exact quiet) ran
    obtain ⟨some,here⟩ := Turn.of_raised ⟨index,record,returned,w⟩ failed
    exact ⟨failure,fault,some,by rw [here]; exact unknown⟩

end Logging

section Following

variable {same : Likewise η} {start other : World η} {link : Link} {otherReturned : Value}

/-- A world that a batch has come to, beside one that the batch of the records that do not fail has come to:
both have gone on from one start, and no more has happened in the first than that objects were made which
nothing leads to. -/
structure Beside (same : Likewise η) (start : World η) (scope : Address) (link : Link) (w other : World η)
    (returned otherReturned : Value) : Prop where
  old : start.runtime.store.identity.Le link
  scope : link .scope scope scope
  twin : w.Twin same link other
  closed : w.runtime.Closed
  own : same w.runtime.store.identity w.host w.host
  inside : 0 < w.depth
  present : returned.Present w.runtime.store
  alike : returned.Alike link otherReturned

namespace Beside

variable (beside : Beside same start scope link w other returned otherReturned)
include beside

theorem self : w.Twin same w.runtime.store.identity w := ⟨beside.closed.twin,beside.own⟩

theorem wider : start.runtime.store.identity.Le w.runtime.store.identity :=
  fun shelf a b linked => ⟨linked.1,
    (beside.twin.runtime.alike.store.inside shelf a b (beside.old shelf a b linked)).1⟩

theorem scopeInside : scope < w.runtime.store.scopes.size :=
  (beside.twin.runtime.alike.store.inside .scope scope scope beside.scope).1

theorem otherInside : 0 < other.depth := by
  rw [World.depth,beside.twin.runtime.alike.registry]
  exact beside.inside

variable (parser : host.ParserMakes) (even : host.EvenHanded same)
include parser even

/-- A record that is applied on one side is applied on the other. -/
theorem applied (held : record.Present start.runtime.store)
    (ran : attemptRecord host scope captureOnly record returned w = (.done passed,mid)) :
    ∃ more otherPassed otherMid,
      attemptRecord host scope captureOnly record otherReturned other = (.done otherPassed,otherMid) ∧
        Beside same start scope more mid otherMid passed otherPassed := by
  obtain ⟨otherPassed,otherMid,otherRan,onward,alike⟩ := attemptRecord_follows even beside.twin
    beside.inside beside.scope (held.mono beside.old) beside.alike captureOnly passed mid ran
  obtain ⟨self,present⟩ := (attemptRecord_follows even beside.self beside.inside
    ⟨rfl,beside.scopeInside⟩ (held.mono beside.wider) beside.present captureOnly).closed ran
  have le := link.le_extend w.runtime.store other.runtime.store mid.runtime.store
  refine ⟨_,otherPassed,otherMid,otherRan,beside.old.trans le,le _ _ _ beside.scope,onward.twin,
    self.runtime.alike,self.host,?_,present,alike⟩
  rw [World.depth,(attemptRecord_steady parser beside.inside ran).1.depth]
  exact beside.inside

/-- A record that fails changes nothing on one side, unless it retargets a handle, and is not there on the
other. -/
theorem skipped (text : String) {failure : Address} (held : record.Present w.runtime.store)
    (ran : attemptRecord host scope captureOnly record returned w = (.raised failure,mid))
    (calm : ¬ w.runtime.Retargets mid.runtime) :
    Beside same start scope link (mid.logging text failure) other returned otherReturned := by
  obtain ⟨steady,here⟩ := attemptRecord_steady parser beside.inside ran
  have closed := attemptRecord_closed even beside.self ⟨rfl,beside.scopeInside⟩ held beside.present ran
  obtain grew | retargets := attemptRecord_fell parser.failsCleanly beside.closed beside.scopeInside held ran
  · have twin := beside.twin.runtime
    have stays : (mid.logging text failure).runtime.Twin link other.runtime :=
      (Runtime.Twin.mk (twin.alike.of_grew_left grew closed.store.ordered)
        (steady.handles.trans twin.handles)).journal _ _
    refine ⟨beside.old,beside.scope,⟨stays,?_⟩,closed.journal _,?_,?_,beside.present.grew grew.store,
      beside.alike⟩
    · show same link mid.host other.host
      rw [here]
      exact beside.twin.host
    · show same mid.runtime.store.identity mid.host mid.host
      rw [here]
      exact even.lasts _ _ _ _ grew.store.identity beside.own
    · show 0 < mid.depth
      rw [World.depth,steady.depth]
      exact beside.inside
  · exact absurd retargets calm

end Beside

/-- The batch of the records that do not fail takes the turns of these, and comes to what the whole batch has
come to. -/
theorem Course.follows (parser : host.ParserMakes) (even : host.EvenHanded same)
    (otherNext : Nat → Store → Option Value) {chosen : List Value}
    (chosenHeld : ∀ record ∈ chosen, record.Present start.runtime.store)
    (course : Course host scope captureOnly next index returned w turns (.done passed) after)
    (dueHeld : ∀ turn ∈ turns, turn.world.runtime.Closed →
      start.runtime.store.identity.Le turn.world.runtime.store.identity →
        turn.record.Present turn.world.runtime.store)
    (feeds : ∀ u ∈ after :: turns.map (·.world), ∀ link other, start.runtime.store.identity.Le link →
      u.Twin same link other → ∀ j, otherNext j other.runtime.store = chosen[j]?)
    (calm : ∀ turn ∈ turns, ¬ turn.Retargets host scope captureOnly) {j : Nat}
    (kept : (turns.filter (·.applied host scope captureOnly)).map (·.record) = chosen.drop j)
    (beside : Beside same start scope link w other returned otherReturned) :
    ∃ more otherTurns otherPassed otherAfter,
      Course host scope captureOnly otherNext j otherReturned other otherTurns (.done otherPassed)
        otherAfter ∧ otherTurns.length = (chosen.drop j).length ∧
          Beside same start scope more after otherAfter passed otherPassed := by
  generalize ended : Outcome.done passed = ending at course
  induction course generalizing other link otherReturned j with
  | @close index returned w none =>
    cases ended
    have drained : chosen.drop j = [] := kept.symm
    have ends := feeds w List.mem_cons_self link other beside.old beside.twin j
    rw [List.getElem?_eq_none (List.drop_eq_nil_iff.mp drained)] at ends
    exact ⟨link,[],otherReturned,other,.close ends,by rw [drained]; rfl,beside⟩
  | @on index record returned onward w mid after turns ending due ran rest ih =>
    have feedsRest : ∀ u ∈ after :: turns.map (·.world), ∀ link other,
        start.runtime.store.identity.Le link → u.Twin same link other →
          ∀ j, otherNext j other.runtime.store = chosen[j]? := fun u member =>
      feeds u (List.mem_cons.mpr ((List.mem_cons.mp member).imp_right (List.mem_cons_of_mem _)))
    obtain ⟨held,heldRest⟩ := List.forall_mem_cons.mp dueHeld
    obtain ⟨calmHere,calmRest⟩ := List.forall_mem_cons.mp calm
    obtain applied | ⟨failure,left,kind,failed,-,rfl,rfl⟩ := processRecord_done ran
    · have passes : (Turn.mk index record returned w).applied host scope captureOnly = true := by
        rw [Turn.applied,(Turn.of_done ⟨index,record,returned,w⟩ applied).1]
        rfl
      rw [List.filter_cons_of_pos passes,List.map_cons] at kept
      obtain ⟨here,later⟩ := List.of_drop_eq_cons kept.symm
      obtain ⟨more,otherPassed,otherMid,otherRan,beyond⟩ := beside.applied parser even
        (chosenHeld record (List.mem_of_getElem? here)) applied
      obtain ⟨most,otherTurns,last,otherAfter,course,count,beyond⟩ :=
        ih heldRest feedsRest calmRest later.symm beyond ended
      have dueOther := feeds w (List.mem_cons_of_mem _ List.mem_cons_self) link other beside.old beside.twin j
      refine ⟨most,_,last,otherAfter,.on (dueOther.trans here) (processRecord_of_done otherRan) course,?_,beyond⟩
      rw [List.length_cons,count,later,← kept,List.length_cons]
    · obtain ⟨some,leaves⟩ := Turn.of_raised ⟨index,record,onward,w⟩ failed
      have fails : (Turn.mk index record onward w).applied host scope captureOnly = false := by
        rw [Turn.applied,some]
        rfl
      rw [List.filter_cons_of_neg (by rw [fails]; exact Bool.false_ne_true)] at kept
      have beyond := beside.skipped parser even (skippedText left.runtime.store index record)
        (held beside.closed beside.wider) failed fun retargets => calmHere ⟨fails,by rw [leaves]; exact retargets⟩
      exact ih heldRest feedsRest calmRest kept beyond ended
  | halted => cases ended

end Following

theorem Course.due (course : Course host scope captureOnly next index returned w turns ending after) :
    ∀ turn ∈ turns, next turn.index turn.world.runtime.store = some turn.record := by
  induction course with
  | close none => exact fun turn member => (List.not_mem_nil member).elim
  | on due _ _ ih => exact List.forall_mem_cons.mpr ⟨due,ih⟩
  | halted due _ => exact List.forall_mem_cons.mpr ⟨due,fun turn member => (List.not_mem_nil member).elim⟩

/-- A record that is due in a closed runtime is one of its values. -/
theorem due?_present {s : Store} {r : Runtime} {actions : Value} {records : List Value}
    (present : actions.Present s) (held : Values.Alike s.identity records records) (closed : r.Closed)
    (wider : s.identity.Le r.store.identity) (due : due? actions records index r.store = some record) :
    record.Present r.store := by
  have kept (due : records[index]? = some record) : record.Present r.store :=
    (List.forall₂_same.mp held record (List.mem_of_getElem? due)).mono wider
  cases present with
  | list linked =>
    exact List.forall₂_same.mp (closed.store.listAt (wider _ _ _ linked)) record (List.mem_of_getElem? due)
  | _ => exact kept due

/-- The items of the value are as they were: only those of a list can change. -/
def Undisturbed (chosen : Value) (s after : Store) : Prop :=
  ∀ a, chosen = .list a → after.listAt a = s.listAt a

/-- The records of a value that is not disturbed are due alike in another world. -/
theorem due?_alike {s : Store} {r other : Runtime} {link : Link} {chosen : Value} {records : List Value}
    (present : chosen.Present s) (listed : s.itemsOf chosen = .ok records)
    (held : Values.Alike s.identity records records) (old : s.identity.Le link)
    (twin : r.Twin link other) (still : Undisturbed chosen s r.store) (j : Nat) :
    due? chosen records j other.store = records[j]? := by
  cases present with
  | list linked =>
    obtain rfl := Except.ok.inj listed
    have alike := twin.alike.store.listAt (old _ _ _ linked)
    rw [still _ rfl] at alike
    have same := List.right_unique_forall₂'
      (fun _ _ _ one two => (one.eq_iff twin.alike.store.paired two).mp rfl) alike (held.mono old)
    exact congrArg (·[j]?) same
  | _ => rfl

theorem begun_closed (closed : w.runtime.Closed) : (begun w).runtime.Closed :=
  (closed.makeRoot.twin.registry (·.use .enter)).alike

theorem begun_beside {same : Likewise η} (lasts : same.Lasts) (closed : w.runtime.Closed)
    (own : same w.runtime.store.identity w.host w.host) :
    Beside same (begun w) w.runtime.store.scopes.size (begun w).runtime.store.identity (begun w) (begun w)
      .null .null := by
  have wider : w.runtime.store.identity.Le (begun w).runtime.store.identity :=
    (Scope.makeRoot_onlyGrows w.runtime).store.identity
  have closed := begun_closed closed
  have own := lasts _ _ _ _ wider own
  have made : w.runtime.store.scopes.size < (begun w).runtime.store.sizeOf .scope := by
    have size : (begun w).runtime.store.sizeOf .scope = w.runtime.store.scopes.size + 1 :=
      Table.size_push _ _
    omega
  exact ⟨.refl _,⟨rfl,made⟩,⟨closed.twin,own⟩,closed,own,Nat.succ_pos _,.null,.null⟩

/-- A batch takes one course only. -/
theorem Course.unique {other : List (Turn η)} {otherEnding : Outcome Value} {otherAfter : World η}
    (course : Course host scope captureOnly next index returned w turns ending after)
    (again : Course host scope captureOnly next index returned w other otherEnding otherAfter) :
    other = turns ∧ otherEnding = ending ∧ otherAfter = after := by
  induction course generalizing other with
  | close none =>
    cases again with
    | close => exact ⟨rfl,rfl,rfl⟩
    | on due => cases none.symm.trans due
    | halted due => cases none.symm.trans due
  | on due ran _ ih =>
    cases again with
    | close none => cases none.symm.trans due
    | on there another rest =>
      cases due.symm.trans there
      cases ran.symm.trans another
      obtain ⟨rfl,rfl,rfl⟩ := ih rest
      exact ⟨rfl,rfl,rfl⟩
    | halted there another =>
      cases due.symm.trans there
      cases ran.symm.trans another
  | halted due ran =>
    cases again with
    | close none => cases none.symm.trans due
    | on there another =>
      cases due.symm.trans there
      cases ran.symm.trans another
    | halted there another =>
      cases due.symm.trans there
      cases ran.symm.trans another
      exact ⟨rfl,rfl,rfl⟩

theorem itemsOf_begun_ok {actions : Value} {records : List Value}
    (present : actions.Present w.runtime.store) (listed : w.runtime.store.itemsOf actions = .ok records) :
    (begun w).runtime.store.itemsOf actions = .ok records := by
  have same := itemsOf_begun (w := w) present.inside
  rw [listed] at same
  cases found : (begun w).runtime.store.itemsOf actions with
  | ok others =>
    rw [found] at same
    exact congrArg Except.ok (Option.some.inj same)
  | error fault =>
    rw [found] at same
    cases same

theorem records_present {r : Runtime} {actions : Value} {records : List Value}
    (closed : r.Closed) (present : actions.Present r.store)
    (listed : r.store.itemsOf actions = .ok records) :
    Values.Alike r.store.identity records records := by
  obtain ⟨_,again,held⟩ := Store.itemsOf_yields closed.store present records listed
  obtain rfl := Except.ok.inj (listed.symm.trans again)
  exact held

/-- What hosts have noted is related if the documents are. -/
def noted : Likewise (List (Option Address)) := fun link => List.Forall₂ (Option.Rel (link .node))

theorem noting_evenHanded : noting.EvenHanded noted where
  lasts link more h k le related := related.imp fun _ _ one => le.option one
  refresh token link w other twin := by
    rintro _ _ ⟨⟩
    refine ⟨_,_,rfl,⟨.of_stores rfl rfl twin.runtime,?_⟩,.done trivial⟩
    rw [link.extend_of_sizes fun _ => rfl]
    exact .cons twin.runtime.alike.document twin.host
  parse := by
    rintro parse ⟨⟩

/-- A page whose state holds a number, a batch of a record that writes below the number and one that writes
beside it, and a batch of the latter alone. -/
def mixed : World (List (Option Address)) where
  runtime :=
    let entries : Dict := [⟨.text "a",.str "a",.int 5⟩]
    let held := { Page.initial with store := (Page.initial.store.newDict entries).2 }.setRoot "state" (.dict 2)
    let below := { held with store := (held.store.newDict (setting "$state.a.b")).2 }
    let beside := { below with store := (below.store.newDict (setting "$state.c")).2 }
    let both := { beside with store := (beside.store.newList [.dict 3,.dict 4]).2 }
    { both with store := (both.store.newList [.dict 4]).2 }
  host := []

theorem mixed_closed : mixed.runtime.Closed := by
  have entry : Dict.Alike Page.initial.store.identity [⟨.text "a",.str "a",.int 5⟩]
      [⟨.text "a",.str "a",.int 5⟩] := .cons ⟨Key.text_alike _ "a",.str "a",.int 5⟩ .nil
  have held := (Runtime.Closed.initial.newDict entry).setRoot "state" (.dict ⟨rfl,Nat.lt_succ_self 2⟩)
  have beside := (held.newDict (setting_present "$state.a.b" _)).newDict (setting_present "$state.c" _)
  have both := beside.newList (.cons (.dict ⟨rfl,show 3 < 5 by decide⟩)
    (.cons (.dict ⟨rfl,show 4 < 5 by decide⟩) .nil))
  exact both.newList (.cons (.dict ⟨rfl,show 4 < 5 by decide⟩) .nil)

/-- The world after the first turn of the batch of both. -/
def mixedPassed : World (List (Option Address)) :=
  (processRecord noting 0 false 0 (.dict 3) .null (begun mixed)).2

theorem mixed_passes : processRecord noting 0 false 0 (.dict 3) .null (begun mixed) =
    (.done .null,mixedPassed) := by
  obtain ⟨mid,ran⟩ := Step.ended (show (processRecord noting 0 false 0 (.dict 3) .null (begun mixed)).1 =
    .done .null by decide +kernel)
  rw [mixedPassed,ran]

/-- A batch with a record between two others whose type is a list. -/
def unhashable : World (List (Option Address)) where
  runtime := { Page.initial with
    store := { Page.initial.store with
      dicts := ⟨#[[],[],setting "$state.a",Dict.put [] "type" (.list 1),setting "$state.b"]⟩
      lists := ⟨#[[.dict 2,.dict 3,.dict 4],[]]⟩ } }
  host := []

end ActionBatch
end PageRuntime
