import PageRuntime.Handler
import PageRuntime.Proofs.Growth

/-! What comes anew. Reading a text, writing a value out, working out what an argument stands for
and making a scope only make objects: every object there was stays as it was. -/
namespace PageRuntime

namespace Yaml.Load

variable {α β : Type} {base : Store}

/-- Loading has only made objects beyond those of a store, and what it yields has a property. -/
def Grows (base : Store) (load : Load α) (yields : α → Prop) : Prop :=
  ∀ l x after, load.run l = .ok (x,after) → base.Grew l.store → base.Grew after.store ∧ yields x

namespace Grows

theorem pure {yields : α → Prop} {x : α} (has : yields x) : Grows base (Pure.pure x) yields := by
  intro l y after ran grew
  cases ran
  exact ⟨grew,has⟩

theorem bind {load : Load α} {next : α → Load β} {yields : α → Prop} {then_ : β → Prop}
    (first : Grows base load yields) (onwards : ∀ x, yields x → Grows base (next x) then_) :
    Grows base (load >>= next) then_ := by
  intro l y after ran grew
  have ran : (load.run l >>= fun made => (next made.1).run made.2) = .ok (y,after) := ran
  cases began : load.run l with
  | error fault => rw [began] at ran; cases ran
  | ok made =>
    rw [began] at ran
    obtain ⟨still,has⟩ := first l made.1 made.2 began grew
    exact onwards _ has _ y after ran still

theorem refuse (yields : α → Prop) : Grows base (refuse : Load α) yields := by
  intro l y after ran
  cases ran

theorem get : Grows base (MonadState.get : Load Loading) fun _ => True := by
  intro l y after ran grew
  cases ran
  exact ⟨grew,trivial⟩

theorem lift (result : Except Fault α) : Grows base (liftM result : Load α) fun _ => True := by
  intro l y after ran grew
  cases result with
  | error fault => cases ran
  | ok x => cases ran; exact ⟨grew,trivial⟩

theorem modify {change : Loading → Loading}
    (kept : ∀ l, base.Grew l.store → base.Grew (change l).store) :
    Grows base (modify change : Load PUnit) fun _ => True := by
  intro l y after ran grew
  cases ran
  exact ⟨kept l grew,trivial⟩

theorem mapM {load : α → Load β} (each : ∀ x, Grows base (load x) fun _ => True) :
    ∀ items : List α, Grows base (items.mapM load) fun _ => True
  | [] => by rw [List.mapM_nil]; exact pure trivial
  | x :: rest => by
    rw [List.mapM_cons]
    exact bind (each x) fun _ _ => bind (mapM each rest) fun _ _ => pure trivial

end Grows

theorem make_grows (number : Nat) {create : Store → Value × Store} {yields : Value → Prop}
    (creates : ∀ s, base.Grew s → base.Grew (create s).2 ∧ yields (create s).1) :
    Grows base (make number create) yields := by
  intro l y after ran grew
  cases ran
  exact creates l.store grew

theorem pair_grows {value : Nat → Load Value}
    (each : ∀ number, Grows base (value number) fun _ => True) (g : Graph) (number : Nat) : Grows base (pair value g number) fun _ => True := by
  unfold pair
  split
  · refine .bind (each _) fun key _ => .bind (each _) fun entry _ => ?_
    intro l y after ran grew
    cases ran
    exact ⟨grew.trans (.of_adds (l.store.newTuple_adds _)),trivial⟩
  · exact .refuse _

/-- A list or dictionary is filled after its parts are made, and it has come with them. -/
theorem value_grows (g : Graph) (fuel : Nat) : ∀ number,
    Grows base (value g fuel number) fun _ => True := by
  induction fuel with
  | zero => exact fun _ => .refuse _
  | succ fuel ih =>
    intro number
    unfold value
    refine .bind .get fun l _ => ?_
    split
    · exact .pure trivial
    · split
      · exact .bind (.lift _) fun v _ => make_grows _ fun s grew => ⟨grew,trivial⟩
      · next tag items _ =>
        have list : Grows base (make number (·.newList []))
            fun v => ∃ a, v = .list a ∧ base.lists.size ≤ a :=
          make_grows _ fun s grew =>
            ⟨grew.trans (.of_adds (s.newList_adds _)),_,rfl,grew.sizeOf_le .list⟩
        refine .bind list fun v new => ?_
        obtain ⟨a,rfl,new⟩ := new
        have filled {load : Load (List Value)} (parts : Grows base load fun _ => True) :
            Grows base (do
              let parts ← load
              modify fun l => { l with store := l.store.putList a parts }
              return .list a : Load Value) fun _ => True :=
          .bind parts fun parts _ =>
            .bind (.modify fun l grew => grew.put (l.store.putList_puts a parts) new) fun _ _ =>
              .pure trivial
        dsimp only
        split
        · exact filled (.mapM ih _)
        · split
          · exact filled (.mapM (pair_grows ih g) _)
          · exact filled (.refuse _)
      · split
        · exact .refuse _
        · have dict : Grows base (make number (·.newDict []))
              fun v => ∃ a, v = .dict a ∧ base.dicts.size ≤ a :=
            make_grows _ fun s grew =>
              ⟨grew.trans (.of_adds (s.newDict_adds _)),_,rfl,grew.sizeOf_le .dict⟩
          refine .bind dict fun v new => ?_
          obtain ⟨a,rfl,new⟩ := new
          split
          · exact .refuse _
          · refine .bind (.mapM (fun pair => ?_) _) fun entries _ =>
              .bind (.modify fun l grew => grew.put (l.store.putDict_puts a _) new) fun _ _ =>
                .pure trivial
            obtain ⟨keyNode,valueNode⟩ := pair
            dsimp only
            split
            · next text _ =>
              have label : Grows base (Pure.pure (.str text) : Load Value) fun _ => True :=
                .pure trivial
              refine .bind label fun label _ => .bind .get fun l _ => ?_
              split
              · exact .refuse _
              · exact .bind (ih _) fun _ _ => .pure trivial
            · refine .bind (ih _) fun label _ => .bind .get fun l _ => ?_
              split
              · exact .refuse _
              · exact .bind (ih _) fun _ _ => .pure trivial

end Yaml.Load

theorem Yaml.load_leads (text : String) (s : Store) :
    Store.Leads Store.Grew s (Yaml.load text s) := by
  unfold load
  split
  · exact .error s _
  · next g _ =>
    split
    · exact .ok _ (.refl s)
    · next root _ =>
      split
      · next v loaded ran => exact .ok _ (Load.value_grows g _ root _ _ _ ran (.refl s)).1
      · exact .error s _

theorem Wire.read_leads (format : Format) (text : String) (s : Store) :
    Store.Leads Store.Grew s (Wire.read format text s) := by
  cases format with
  | json => exact Json.load_leads Store.Grew.makes text s
  | yaml => exact Yaml.load_leads text s

theorem Wire.readText_onlyGrows (format : Format) (text : String) :
    (readText format text).OnlyGrows := by
  intro r
  rw [readText,Step.bind_done (Act.store_run r)]
  cases reads : Wire.read format text r.store with
  | error fault => exact Act.OnlyGrows.fail fault r
  | ok made => exact ⟨read_leads format text r.store made.1 made.2 reads,rfl⟩

theorem Report.make_onlyGrows (report : Report) : (make report).OnlyGrows :=
  .make fun s => s.newReport_adds report

theorem Scope.makeSpecialChild_onlyGrows (parent : Address) (specials : Dict)
    (options : ScopeOptions) : (makeSpecialChild parent specials options).OnlyGrows :=
  .bind .store fun _ => .bind (.make fun s => s.newDict_adds specials) fun _ =>
    .make fun s => s.newScope_adds _

theorem Journal.log_onlyGrows (parts : List Value) : (log parts).OnlyGrows :=
  .bind .store fun _ => .bind (.record _) fun _ => .debugLine _

namespace Reference

theorem get_onlyMakes (a : Address) : (get a).OnlyMakes :=
  .bind .read fun _ => .bind (.ofExcept _) Spot.realize_onlyMakes

theorem get_onlyGrows (a : Address) : (get a).OnlyGrows := (get_onlyMakes a).onlyGrows

theorem pathOf_onlyGrows (value : Value) : (pathOf value).OnlyGrows := by
  unfold pathOf
  split
  · exact .ofExcept _
  · exact .bind .store fun _ => .fail _

theorem ofValue_onlyGrows (scope : Address) (value : Value) : (ofValue scope value).OnlyGrows :=
  .bind (pathOf_onlyGrows value) fun _ => .make fun s => s.newHandle_adds _

theorem resolvePath_onlyGrows (scope : Address) (path : Value) :
    (resolvePath scope path).OnlyGrows := .bind (ofValue_onlyGrows scope path) get_onlyGrows

end Reference

namespace Node

theorem fieldUnless_onlyMakes (absent : Bool) (name : String) {value : Act Value}
    (makes : value.OnlyMakes) : (fieldUnless absent name value).OnlyMakes := by
  unfold fieldUnless
  split
  · exact .pure _
  · exact .bind makes fun _ => .pure _

theorem styled_onlyMakes (style : Value) : (styled style).OnlyMakes :=
  .bind .store fun _ => .bind (.ofExcept _) fun _ => .make fun s => s.newDict_adds _

theorem toDictWithin_onlyMakes : ∀ (fuel : Nat) (a : Address), (toDictWithin fuel a).OnlyMakes
  | 0, _ => .fail _
  | fuel + 1, a => by
    have dict (d : Dict) : (Act.make (·.newDict d)).OnlyMakes := .make fun s => s.newDict_adds d
    have children (list : List Address) : (listed (toDictWithin fuel) list).OnlyMakes :=
      .bind (.mapM (toDictWithin_onlyMakes fuel) _) fun _ => .make fun s => s.newList_adds _
    exact .bind .store fun _ => .bind (fieldUnless_onlyMakes _ _ (dict _)) fun _ =>
      .bind (fieldUnless_onlyMakes _ _ (children _)) fun _ =>
        .bind (fieldUnless_onlyMakes _ _ (styled_onlyMakes _)) fun _ => dict _

theorem toDict_onlyMakes (a : Address) : (toDict a).OnlyMakes :=
  .bind .store fun _ => toDictWithin_onlyMakes _ a

end Node

namespace Plain

theorem itemsBy_onlyMakes {step : Value → Act Value} (steps : ∀ v, (step v).OnlyMakes)
    (values : List Value) : (itemsBy step values).OnlyMakes :=
  .bind (.mapM steps values) fun _ => .make fun s => s.newList_adds _

theorem entriesBy_onlyMakes {step : Value → Act Value} (steps : ∀ v, (step v).OnlyMakes) (d : Dict) :
    (entriesBy step d).OnlyMakes :=
  .bind (.mapM (fun _ => .bind .store fun _ => .bind (steps _) fun _ => .pure _) d) fun _ =>
    .make fun s => s.newDict_adds _

theorem ofValueWithin_onlyMakes : ∀ (fuel : Nat) (active : List Value) (v : Value),
    (ofValueWithin fuel active v).OnlyMakes
  | 0, _, _ => .fail _
  | fuel + 1, active, v => by
    have inner := ofValueWithin_onlyMakes fuel (v :: active)
    unfold ofValueWithin
    refine .bind .store fun s => ?_
    dsimp only
    split
    · exact .bind (Reference.get_onlyMakes _) fun _ => ofValueWithin_onlyMakes fuel active _
    · exact .make fun s => s.newDict_adds _
    · exact Node.toDict_onlyMakes _
    · exact .pure _
    · exact .pure _
    · exact .pure _
    · exact .bind (.make fun s => s.newDict_adds _) fun _ => ofValueWithin_onlyMakes fuel active _
    all_goals try split
    all_goals first
      | exact .fail _
      | exact entriesBy_onlyMakes inner _
      | exact itemsBy_onlyMakes inner _
      | exact .pure _

theorem ofValue_onlyMakes (v : Value) : (ofValue v).OnlyMakes :=
  .bind .store fun _ => ofValueWithin_onlyMakes _ _ v

end Plain

namespace Wire

theorem serialize_onlyMakes (v : Value) (name : Option String) (pretty : Bool) :
    (serialize v name pretty).OnlyMakes := by
  refine .bind (Plain.ofValue_onlyMakes v) fun _ => .bind .store fun _ => ?_
  split
  · exact .ofExcept _
  · exact .ofExcept _
  · exact .fail _

theorem deserialize_onlyGrows (data : Value) (contentType name : Option String) :
    (deserialize data contentType name).OnlyGrows := by
  refine .bind .store fun _ => .bind (.ofExcept _) fun text => ?_
  dsimp only
  split
  · exact readText_onlyGrows _ _
  · exact .pure _

end Wire

namespace Block

theorem read_onlyGrows (text : Value) : (read text).OnlyGrows := by
  have document : (document text).OnlyGrows := by
    unfold document
    split
    · exact Wire.readText_onlyGrows _ _
    · exact .bind .store fun _ => .fail _
  refine .bind .store fun s => ?_
  dsimp only
  split
  · exact .make fun s => s.newList_adds _
  · refine .bind document fun written => .ite_bind (.make fun s => s.newList_adds _) (.pure _)
      fun steps => .bind .store fun s => ?_
    split
    · split
      · exact .fail _
      · exact .pure _
    · exact .fail _

theorem evaluate_onlyGrows (scope : Address) (source : Value) :
    (evaluate scope source).OnlyGrows := by
  unfold evaluate
  split
  · exact .pure _
  · refine .bind .store fun s => ?_
    dsimp only
    split
    · exact .pure _
    · exact Reference.resolvePath_onlyGrows _ _
    · exact Reference.resolvePath_onlyGrows _ _
    · exact Wire.readText_onlyGrows _ _

theorem reference_onlyGrows (scope : Address) (path : Value) : (reference scope path).OnlyGrows :=
  .bind (Reference.ofValue_onlyGrows scope path) fun _ => .pure _

theorem argumentWithin_onlyGrows (scope : Address) : ∀ (fuel : Nat) (v : Value),
    (argumentWithin scope fuel v).OnlyGrows
  | 0, _ => .fail _
  | fuel + 1, v => by
    unfold argumentWithin
    refine .bind .store fun s => ?_
    split
    · split
      · exact evaluate_onlyGrows _ _
      · exact reference_onlyGrows _ _
      · exact .bind (.mapM (fun slot : Slot => .bind
          (argumentWithin_onlyGrows scope fuel slot.value) fun _ => .pure _) _) fun _ =>
            .make fun s => s.newDict_adds _
    · exact .bind (.mapM (argumentWithin_onlyGrows scope fuel) _) fun _ =>
        .make fun s => s.newList_adds _
    · exact .pure _

theorem argument_onlyGrows (scope : Address) (v : Value) : (argument scope v).OnlyGrows :=
  .bind .store fun _ => argumentWithin_onlyGrows scope _ v

theorem writtenValue_onlyGrows (scope : Address) (step : Dict) :
    (writtenValue scope step).OnlyGrows := by
  unfold writtenValue
  split
  · exact argument_onlyGrows _ _
  · exact evaluate_onlyGrows _ _
  · exact reference_onlyGrows _ _
  · exact .pure _

end Block

namespace Fetch

theorem checkUrl_onlyMakes (v : Value) : (checkUrl v).OnlyMakes := by
  refine .bind .store fun s => ?_
  dsimp only
  split
  · split
    · exact .failWith _
    · split
      · exact .bind (.make fun s => s.newFailure_adds _) fun _ => .failWith _
      · split
        · exact .pure _
        · exact .failWith _
  · exact .failWith _

theorem queryText?_onlyMakes (v : Value) : (queryText? v).OnlyMakes := by
  unfold queryText?
  split
  · exact .pure _
  · exact .pure _
  · exact .pure _
  · exact .bind .store fun _ => .pure _
  · exact .bind .store fun _ => .pure _
  · exact .bind (Plain.ofValue_onlyMakes _) fun _ => .bind .store fun _ =>
      .bind (.ofExcept _) fun _ => .pure _

theorem queryOf_onlyMakes (params : Dict) : ∀ query, (queryOf query params).OnlyMakes := by
  induction params with
  | nil => exact fun _ => .pure _
  | cons slot rest ih =>
    intro query
    refine .bind (queryText?_onlyMakes _) fun text => ?_
    split
    · exact .bind .store fun _ => ih _
    · exact ih _

theorem answer_onlyGrows (url : String) (response : HttpResponse) :
    (answer url response).OnlyGrows := by
  unfold answer
  split
  · exact .fail _
  · split
    · exact .pure _
    · refine .bind .store fun s => ?_
      split
      · exact .fail _
      · split
        · exact Wire.deserialize_onlyGrows _ _ _
        · exact .make fun s => s.newBlob_adds _

end Fetch

namespace Gateway

theorem argumentList_onlyMakes (arguments : Value) : (argumentList arguments).OnlyMakes := by
  refine .bind .store fun s => ?_
  exact .ite_bind (.ofExcept _) (.pure _) fun _ => .make fun s => s.newList_adds _

theorem moduleOf_onlyMakes (found : HandlerPath) (path : Value) :
    (moduleOf found path).OnlyMakes := by
  refine .bind .read fun r => ?_
  split
  · exact .pure _
  · exact .fail _

theorem findLocal_onlyMakes (found : HandlerPath) : (findLocal found).OnlyMakes := by
  refine .bind (.bind .read fun _ => .pure _) fun node => ?_
  split
  · exact .pure _
  · exact .fail _

end Gateway

namespace Handler

theorem wrapped_onlyGrows (label : String) (trail failure : Address) :
    (wrapped label trail failure).OnlyGrows := by
  refine .bind .store fun s => ?_
  split
  · exact .pure _
  · exact .make fun s => s.newFailure_adds _

theorem eventOf_onlyGrows (scope : Address) (step : Dict) : (eventOf scope step).OnlyGrows := by
  refine .bind .store fun s => ?_
  refine .ite_bind (Block.argument_onlyGrows _ _) (.make fun s => s.newDict_adds _) fun data =>
    .bind .store fun s => ?_
  split
  · exact .pure _
  · exact .fail _

theorem argumentsOf_onlyGrows (scope : Address) (step : Dict) :
    (argumentsOf scope step).OnlyGrows := by
  refine .bind .store fun s => ?_
  refine .ite_bind (Block.argument_onlyGrows _ _) (.make fun s => s.newList_adds _)
    fun arguments => ?_
  dsimp only
  split
  · exact .pure _
  · exact .make fun s => s.newList_adds _

end Handler
end PageRuntime
