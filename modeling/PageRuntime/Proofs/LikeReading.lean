import PageRuntime.Proofs.Likeness
import PageRuntime.Proofs.Resolution

/-! Reading in runtimes that are alike gives what is alike, or the same fault. -/
namespace PageRuntime

/-- Two results agree if they are related or the same fault. -/
inductive Agree {α β : Type} (rel : α → β → Prop) : Except Fault α → Except Fault β → Prop
  | ok {x : α} {y : β} (related : rel x y) : Agree rel (.ok x) (.ok y)
  | error (fault : Fault) : Agree rel (.error fault) (.error fault)

theorem Agree.bind {α β γ δ : Type} {rel : α → β → Prop} {relNext : γ → δ → Prop}
    {first : Except Fault α} {other : Except Fault β} {next : α → Except Fault γ}
    {otherNext : β → Except Fault δ} (agree : Agree rel first other)
    (later : ∀ x y, rel x y → Agree relNext (next x) (otherNext y)) :
    Agree relNext (first >>= next) (other >>= otherNext) := by
  cases agree with
  | ok related => exact later _ _ related
  | error fault => exact .error fault

namespace List

variable {α β γ δ : Type} {rel : α → β → Prop} {relFound : γ → δ → Prop}

theorem getElem?_alike {xs : List α} {ys : List β} (alike : List.Forall₂ rel xs ys) (place : Nat) :
    Option.Rel rel xs[place]? ys[place]? := by
  induction alike generalizing place with
  | nil => exact .none
  | cons one _ ih =>
    cases place with
    | zero => exact .some one
    | succ place => exact ih place

theorem findSome?_alike {find : α → Option γ} {otherFind : β → Option δ}
    (found : ∀ x y, rel x y → Option.Rel relFound (find x) (otherFind y)) {xs : List α} {ys : List β}
    (alike : List.Forall₂ rel xs ys) :
    Option.Rel relFound (xs.findSome? find) (ys.findSome? otherFind) := by
  induction alike with
  | nil => exact .none
  | cons one _ ih =>
    rw [List.findSome?_cons,List.findSome?_cons]
    have here := found _ _ one
    revert here
    generalize find _ = x
    generalize otherFind _ = y
    intro here
    cases here with
    | none => exact ih
    | some related => exact .some related

end List

theorem Value.ofOption_alike {link : Link} {x y : Option Value}
    (alike : Option.Rel (Value.Alike link) x y) :
    (Value.ofOption x).Alike link (Value.ofOption y) := by
  cases alike with
  | none => exact .null
  | some alike => exact alike

theorem Value.Alike.null_iff {link : Link} {v w : Value} (alike : v.Alike link w) :
    v = .null ↔ w = .null := by
  cases alike <;> simp

theorem Segment.key_alike (link : Link) (key : Segment) : key.key.Alike link key.key := by
  cases key with
  | field name => exact .atom (.str name)
  | index place => exact .atom (.int place)

theorem Key.text_alike (link : Link) (name : String) : (Key.text name).Alike link (Key.text name) :=
  .atom (.str name)

namespace Dict

variable {link : Link} (paired : link.Paired) {d other : Dict} (alike : Dict.Alike link d other)
include paired alike

theorem get?_alike {key otherKey : Key} (sameKey : key.Alike link otherKey) :
    Option.Rel (Value.Alike link) (d.get? key) (other.get? otherKey) := by
  unfold get?
  induction alike with
  | nil => exact .none
  | @cons slot other rest others one _ ih =>
    have same := one.key.eq_iff paired sameKey
    by_cases here : slot.key = key
    · rw [List.find?_cons_of_pos (by simpa using here),
        List.find?_cons_of_pos (by simpa using same.mp here)]
      exact .some one.value
    · rw [List.find?_cons_of_neg (by simpa using here),
        List.find?_cons_of_neg (by simpa using mt same.mpr here)]
      exact ih

theorem get_alike {key otherKey : Key} (sameKey : key.Alike link otherKey) :
    (d.get key).Alike link (other.get otherKey) :=
  Value.ofOption_alike (get?_alike paired alike sameKey)

end Dict

inductive Spot.Alike (link : Link) : Spot → Spot → Prop
  | value {v w : Value} (alike : v.Alike link w) : Alike link (.value v) (.value w)
  | bindings {a b : Address} (linked : link .scope a b) : Alike link (.bindings a) (.bindings b)
  | items {values others : List Value} (alike : Values.Alike link values others) :
      Alike link (.items values) (.items others)

theorem Spot.Alike.mono {link more : Link} (le : link.Le more) {spot other : Spot}
    (alike : spot.Alike link other) : spot.Alike more other := by
  cases alike with
  | value alike => exact .value (alike.mono le)
  | bindings linked => exact .bindings (le _ _ _ linked)
  | items alike => exact .items (alike.mono le)

theorem Spot.Alike.null_iff {link : Link} {spot other : Spot} (alike : spot.Alike link other) :
    spot = .null ↔ other = .null := by
  cases alike with
  | value alike => simpa [Spot.null] using alike.null_iff
  | bindings linked => simp [Spot.null]
  | items alike => simp [Spot.null]

theorem itemAt_alike {link : Link} {values others : List Value}
    (alike : Values.Alike link values others) (key : Segment) :
    (itemAt values key).Alike link (itemAt others key) := by
  cases key with
  | field name => exact .null
  | index place =>
    unfold itemAt
    dsimp only
    rw [alike.length_eq]
    cases placeOf? others.length place with
    | none => exact .null
    | some place => exact Value.ofOption_alike (List.getElem?_alike alike place)

namespace Store.Alike

variable {link : Link} {s other : Store} (alike : s.Alike link other)
include alike

theorem listAt {a b : Address} (linked : link .list a b) :
    Values.Alike link (s.listAt a) (other.listAt b) := by
  have held : Object.Alike link (.items (s.listAt a)) (.items (other.listAt b)) :=
    alike.objects _ _ _ linked
  cases held with
  | items alike => exact alike

theorem tupleAt {a b : Address} (linked : link .tuple a b) :
    Values.Alike link (s.tupleAt a) (other.tupleAt b) := by
  have held : Object.Alike link (.items (s.tupleAt a)) (.items (other.tupleAt b)) :=
    alike.objects _ _ _ linked
  cases held with
  | items alike => exact alike

theorem dictAt {a b : Address} (linked : link .dict a b) :
    Dict.Alike link (s.dictAt a) (other.dictAt b) := by
  have held : Object.Alike link (.entries (s.dictAt a)) (.entries (other.dictAt b)) :=
    alike.objects _ _ _ linked
  cases held with
  | entries alike => exact alike

theorem frozenAt {a b : Address} (linked : link .frozen a b) :
    Dict.Alike link (s.frozenAt a) (other.frozenAt b) := by
  have held : Object.Alike link (.entries (s.frozenAt a)) (.entries (other.frozenAt b)) :=
    alike.objects _ _ _ linked
  cases held with
  | entries alike => exact alike

theorem handleAt {a b : Address} (linked : link .handle a b) :
    (s.handleAt a).Alike link (other.handleAt b) := by
  have held : Object.Alike link (.handle (s.handleAt a)) (.handle (other.handleAt b)) :=
    alike.objects _ _ _ linked
  cases held with
  | handle alike => exact alike

theorem scopeAt {a b : Address} (linked : link .scope a b) :
    (s.scopeAt a).Alike link (other.scopeAt b) := by
  have held : Object.Alike link (.scope (s.scopeAt a)) (.scope (other.scopeAt b)) :=
    alike.objects _ _ _ linked
  cases held with
  | scope alike => exact alike

theorem contextAt {a b : Address} (linked : link .context a b) :
    link .scope (s.contextAt a) (other.contextAt b) := by
  have held : Object.Alike link (.context (s.contextAt a)) (.context (other.contextAt b)) :=
    alike.objects _ _ _ linked
  cases held with
  | context linked => exact linked

/-! Chains of scopes. -/

theorem chainWithin (fuel otherFuel : Nat) {a b : Address} (enough : a < fuel)
    (otherEnough : b < otherFuel) (linked : link .scope a b) :
    List.Forall₂ (link .scope) (s.chainWithin fuel a) (other.chainWithin otherFuel b) := by
  induction fuel generalizing otherFuel a b with
  | zero => exact absurd enough (Nat.not_lt_zero _)
  | succ fuel ih =>
    cases otherFuel with
    | zero => exact absurd otherEnough (Nat.not_lt_zero _)
    | succ otherFuel =>
      have above := (alike.scopeAt linked).parent
      have older := alike.ordered a
      have otherOlder := alike.otherOrdered b
      unfold Store.chainWithin
      revert above older otherOlder
      generalize (s.scopeAt a).parent = parent
      generalize (other.scopeAt b).parent = otherParent
      intro above older otherOlder
      cases above with
      | none => exact .cons linked .nil
      | some above =>
        exact .cons linked (ih otherFuel
          (Nat.lt_of_lt_of_le (older _ rfl) (Nat.le_of_lt_succ enough))
          (Nat.lt_of_lt_of_le (otherOlder _ rfl) (Nat.le_of_lt_succ otherEnough)) above)

theorem chain {a b : Address} (linked : link .scope a b) :
    List.Forall₂ (link .scope) (s.chain a) (other.chain b) :=
  alike.chainWithin _ _ (alike.inside _ _ _ linked).1 (alike.inside _ _ _ linked).2 linked

theorem localStack {a b : Address} (linked : link .scope a b) :
    Values.Alike link (s.localStack a) (other.localStack b) := by
  refine List.rel_map (R := link .scope) (fun c d linked => (alike.scopeAt linked).data)
    (List.rel_filter (fun c d linked => ?_) (alike.chain linked))
  dsimp only
  rw [(alike.scopeAt linked).onlySpecials]

theorem contextStack {a b : Address} (linked : link .scope a b) :
    Values.Alike link (s.contextStack a) (other.contextStack b) :=
  List.rel_map (fun _ _ linked => .dict (alike.scopeAt linked).specials) (alike.chain linked)

theorem contextKey {a b : Address} (linked : link .scope a b) {key otherKey : Key}
    (sameKey : key.Alike link otherKey) :
    (s.contextKey a key).Alike link (other.contextKey b otherKey) := by
  refine Value.ofOption_alike ?_
  unfold Store.contextBinding?
  refine List.findSome?_alike (fun c d linked => ?_) (alike.chain linked)
  exact Dict.get?_alike alike.paired (alike.dictAt (alike.scopeAt linked).specials) sameKey

theorem componentRoot {a b : Address} (linked : link .scope a b) :
    (s.componentRoot a).Alike link (other.componentRoot b) := by
  refine Value.ofOption_alike ?_
  refine List.findSome?_alike (fun c d linked => ?_) (alike.chain linked)
  have component := (alike.scopeAt linked).component
  revert component
  generalize (s.scopeAt c).component = v
  generalize (other.scopeAt d).component = w
  intro component
  cases component with
  | null => exact .none
  | _ => exact .some (by constructor; try assumption)

theorem ancestor? {a b : Address} (linked : link .scope a b) (hops : Nat) :
    Option.Rel (link .scope) (s.ancestor? a hops) (other.ancestor? b hops) :=
  List.getElem?_alike (alike.chain linked) hops

theorem member {container otherContainer : Spot} (same : container.Alike link otherContainer)
    (key : Segment) : (s.member container key).Alike link (other.member otherContainer key) := by
  cases same with
  | bindings linked => exact alike.contextKey linked (Key.text_alike _ _)
  | items same => exact itemAt_alike same key
  | value same =>
    cases same with
    | context linked => exact alike.contextKey (alike.contextAt linked) (Key.text_alike _ _)
    | dict linked => exact Dict.get_alike alike.paired (alike.dictAt linked) (key.key_alike _)
    | frozen linked => exact Dict.get_alike alike.paired (alike.frozenAt linked) (key.key_alike _)
    | list linked => exact itemAt_alike (alike.listAt linked) key
    | tuple linked => exact itemAt_alike (alike.tupleAt linked) key
    | _ => exact .null

end Store.Alike

namespace Spot.Alike

variable {link : Link} {resolve otherResolve : Address → Except Fault Spot}
  (resolves : ∀ a b, link .handle a b → Agree (Spot.Alike link) (resolve a) (otherResolve b))
include resolves

theorem follow {spot other : Spot} (same : spot.Alike link other) :
    Agree (Spot.Alike link) (spot.follow resolve) (other.follow otherResolve) := by
  cases same with
  | bindings linked => exact .ok (.bindings linked)
  | items same => exact .ok (.items same)
  | value same =>
    cases same with
    | ref linked => exact resolves _ _ linked
    | _ => exact .ok (.value (by constructor; try assumption))

theorem step {s other : Store} (alike : s.Alike link other) {spot otherSpot : Spot}
    (same : spot.Alike link otherSpot) (key : Segment) :
    Agree (Value.Alike link) (spot.step resolve s key) (otherSpot.step otherResolve other key) :=
  (same.follow resolves).bind fun _ _ same => .ok (alike.member same key)

theorem walk {s other : Store} (alike : s.Alike link other) (keys : List Segment)
    {spot otherSpot : Spot} (same : spot.Alike link otherSpot) :
    Agree (Spot.Alike link) (spot.walk resolve s keys) (otherSpot.walk otherResolve other keys) := by
  induction keys generalizing spot otherSpot with
  | nil => exact .ok same
  | cons key rest ih =>
    refine (same.step resolves alike key).bind fun v w same => ?_
    cases same with
    | null => exact .ok (.value .null)
    | _ => exact ih (.value (by constructor; try assumption))

end Spot.Alike

namespace Runtime.Alike

variable {link : Link} {r other : Runtime} (alike : r.Alike link other)
include alike

theorem alive : other.alive = r.alive :=
  show other.surroundings.alive = r.surroundings.alive by rw [alike.surroundings]

theorem lockedRoots : other.lockedRoots = r.lockedRoots :=
  show other.surroundings.lockedRoots = r.surroundings.lockedRoots by rw [alike.surroundings]

theorem rootValue? (name : String) :
    Option.Rel (Value.Alike link) (r.rootValue? name) (other.rootValue? name) := by
  have roots := alike.roots
  unfold Runtime.rootValue?
  revert roots
  generalize r.roots = pairs
  generalize other.roots = others
  intro roots
  induction roots with
  | nil => exact .none
  | @cons x y pairs others one _ ih =>
    obtain ⟨sameName,sameValue⟩ := one
    rw [List.lookup_cons,List.lookup_cons,sameName]
    split
    · exact .some sameValue
    · exact ih

theorem dataRoot (name : String) :
    Agree (Option.Rel (Value.Alike link)) (r.dataRoot name) (other.dataRoot name) := by
  unfold Runtime.dataRoot
  rw [alike.alive]
  split
  · exact .ok (alike.rootValue? name)
  · exact .error _

theorem rootSpot {a b : Address} (linked : link .scope a b) (root : Root) :
    Agree (Spot.Alike link) (r.rootSpot a root) (other.rootSpot b root) := by
  unfold Runtime.rootSpot
  dsimp only
  split
  · exact .error _
  · cases root.kind with
    | global =>
      exact (alike.dataRoot "global").bind fun _ _ same => .ok (.value (Value.ofOption_alike same))
    | state =>
      exact (alike.dataRoot "state").bind fun _ _ same => .ok (.value (Value.ofOption_alike same))
    | named name =>
      refine (alike.dataRoot name).bind fun _ _ same => ?_
      cases same with
      | none => exact .error _
      | some same => exact .ok (.value same)
    | null => exact .ok (.value .null)
    | localData =>
      exact .ok (.value (Value.ofOption_alike
        (List.getElem?_alike (alike.store.localStack linked) root.caret)))
    | context =>
      refine .ok ?_
      have above := alike.store.ancestor? linked root.caret
      revert above
      generalize r.store.ancestor? a root.caret = target
      generalize other.store.ancestor? b root.caret = otherTarget
      intro above
      cases above with
      | none => exact .value .null
      | some linked => exact .bindings linked
    | currentContext =>
      refine .ok ?_
      have above := alike.store.ancestor? linked root.caret
      revert above
      generalize r.store.ancestor? a root.caret = target
      generalize other.store.ancestor? b root.caret = otherTarget
      intro above
      cases above with
      | none => exact .value .null
      | some linked => exact .value (.dict (alike.store.scopeAt linked).specials)
    | localStack => exact .ok (.items (alike.store.localStack linked))
    | contextStack => exact .ok (.items (alike.store.contextStack linked))
    | component => exact .ok (.value (alike.store.componentRoot linked))

theorem readHandle {resolve otherResolve : Address → Except Fault Spot}
    (resolves : ∀ a b, link .handle a b → Agree (Spot.Alike link) (resolve a) (otherResolve b))
    {handle otherHandle : Handle} (same : handle.Alike link otherHandle) :
    Agree (Spot.Alike link) (r.readHandle resolve handle)
      (other.readHandle otherResolve otherHandle) := by
  cases same with
  | path linked path locked =>
    exact (alike.rootSpot linked path.root).bind fun _ _ start =>
      (start.walk resolves alike.store path.segments).bind fun _ _ last => last.follow resolves
  | sub linked key =>
    exact (resolves _ _ linked).bind fun _ _ container =>
      (Spot.Alike.value (alike.store.member container key)).follow resolves
  | locked linked => exact resolves _ _ linked
  | cell same label => exact (Spot.Alike.value same).follow resolves

theorem resolveWithin (fuel : Nat) {a b : Address} (linked : link .handle a b) :
    Agree (Spot.Alike link) (r.resolveWithin fuel a) (other.resolveWithin fuel b) := by
  induction fuel generalizing a b with
  | zero => exact .error _
  | succ fuel ih => exact alike.readHandle (fun _ _ => ih) (alike.store.handleAt linked)

theorem resolve {a b : Address} (linked : link .handle a b) :
    Agree (Spot.Alike link) (r.resolve a) (other.resolve b) := by
  let fuel := max (r.store.handles.size + 1) (other.store.handles.size + 1)
  rw [← r.resolveWithin_eq_resolve (Nat.le_max_left _ _ : _ ≤ fuel),
    ← other.resolveWithin_eq_resolve (Nat.le_max_right _ _ : _ ≤ fuel)]
  exact alike.resolveWithin fuel linked

theorem readWithin (fuel : Nat) {a b : Address} (linked : link .handle a b) :
    Agree (Spot.Alike link) (r.readWithin fuel a) (other.readWithin fuel b) := by
  induction fuel generalizing a b with
  | zero => exact .error _
  | succ fuel ih =>
    unfold Runtime.readWithin
    have same := alike.store.handleAt linked
    have resolved := alike.resolve linked
    revert same
    generalize r.store.handleAt a = handle
    generalize other.store.handleAt b = otherHandle
    intro same
    cases same with
    | path linked path locked => exact resolved
    | sub linked key => exact resolved
    | locked linked => exact ih linked
    | cell same label => exact .ok (.value same)

theorem readReference {a b : Address} (linked : link .handle a b) :
    Agree (Spot.Alike link) (r.readReference a) (other.readReference b) := by
  let fuel := max (r.store.handles.size + 1) (other.store.handles.size + 1)
  rw [← r.readWithin_eq_readReference (Nat.le_max_left _ _ : _ ≤ fuel),
    ← other.readWithin_eq_readReference (Nat.le_max_right _ _ : _ ≤ fuel)]
  exact alike.readWithin fuel linked

end Runtime.Alike
end PageRuntime
