import PageRuntime.Proofs.ContextViews
import PageRuntime.Proofs.Landings
import PageRuntime.Proofs.ScopeTrees

/-! Writes to a context. Through the view of a scope, and along paths without carets that name one
binding, writes and deletions end in the bindings of that scope alone, wherever in the chain the name
was found. Scopes below see them up to the first that binds the name itself. -/
namespace PageRuntime

theorem Value.ofOption_ref {found : Option Value} {a : Address} (held : ofOption found = .ref a) :
    found = some (.ref a) := by
  cases found with
  | none => cases held
  | some v => exact congrArg some held

namespace Reference

variable {write : Address → Value → Act Unit} {r : Runtime} {scope : Address} {kind : RootKind}
  {name : String} {v : Value}

/-- What a root of bindings stands for: the view of a scope, or the dictionary of its own bindings. -/
theorem rootSpot_bindings (context : kind = .context ∨ kind = .currentContext)
    (inside : scope < r.store.scopes.size) :
    (kind = .context ∧ r.rootSpot scope ⟨kind,0⟩ = .ok (.bindings scope)) ∨
      (kind = .currentContext ∧
        r.rootSpot scope ⟨kind,0⟩ = .ok (.value (.dict (r.store.scopeAt scope).specials))) := by
  obtain ⟨above,chain⟩ := r.store.chain_head inside
  have own : r.store.ancestor? scope 0 = some scope := by
    rw [Store.ancestor?,chain]
    rfl
  obtain rfl | rfl := context
  · refine .inl ⟨rfl,?_⟩
    show Except.ok (((r.store.ancestor? scope 0).map Spot.bindings).getD Spot.null) = _
    rw [own]
    rfl
  · refine .inr ⟨rfl,?_⟩
    show Except.ok (((r.store.ancestor? scope 0).map fun target =>
      Spot.value (.dict (r.store.scopeAt target).specials)).getD Spot.null) = _
    rw [own]
    rfl

theorem isLocked_bindings (context : kind = .context ∨ kind = .currentContext) (segments : List Segment) :
    isLocked ⟨⟨kind,0⟩,segments⟩ false r = (.done false,r) := by
  obtain rfl | rfl := context <;> rfl

/-- Unless what is bound to the name is a reference, writing along the path sets the scope's own
binding. -/
theorem setPathValue_binding (context : kind = .context ∨ kind = .currentContext)
    (inside : scope < r.store.scopes.size)
    (plain : ∀ b, r.store.contextKey scope (.text name) ≠ .ref b) :
    setPathValue write scope ⟨⟨kind,0⟩,[.field name]⟩ false v r =
      Context.set scope (.text name) (.str name) v r := by
  rw [setPathValue,Step.bind_done (isLocked_bindings context _),if_neg Bool.false_ne_true]
  show setBelowRoot write scope ⟨⟨kind,0⟩,[.field name]⟩ (.field name) [] v r = _
  obtain ⟨rfl,rooted⟩ | ⟨rfl,rooted⟩ := rootSpot_bindings context inside
  · rw [setBelowRoot,Step.bind_done (root_run rooted),if_neg Spot.noConfusion]
    show putBinding write scope (.field name) v r = _
    exact putBinding_plain plain
  · rw [setBelowRoot,Step.bind_done (root_run rooted),if_neg (by simp [Spot.null])]
    show putEntry write (r.store.scopeAt scope).specials (.field name) v r = _
    exact putEntry_plain fun b held => plain b (Store.contextKey_own inside (Value.ofOption_ref held))

/-- A handle on a path is written as the path is. -/
theorem set_path {a : Address} {path : Path} {locked : Bool}
    (here : r.store.handleAt a = .path scope path locked) : Reference.set a v r =
      setPathValue (setWithin (4 * r.store.handles.size + 7)) scope path locked v r := by
  rw [Reference.set,Step.bind_done (Act.store_run r),depth,setWithin,Step.bind_done (Act.store_run r),
    here]

theorem delete_path {a : Address} {path : Path} {locked : Bool}
    (here : r.store.handleAt a = .path scope path locked) :
    Reference.delete a r = deletePath scope path locked r := by
  rw [Reference.delete,Step.bind_done (Act.store_run r),here]

theorem deletePath_binding (context : kind = .context ∨ kind = .currentContext)
    (inside : scope < r.store.scopes.size) :
    deletePath scope ⟨⟨kind,0⟩,[.field name]⟩ false r = Context.erase scope (.text name) r := by
  rw [deletePath,Step.bind_done (isLocked_bindings context _),if_neg Bool.false_ne_true]
  show deleteLast scope ⟨⟨kind,0⟩,[.field name]⟩ (.field name) r = _
  obtain ⟨rfl,rooted⟩ | ⟨rfl,rooted⟩ := rootSpot_bindings context inside <;>
    rw [deleteLast,Step.bind_done (root_run rooted)] <;> rfl

end Reference

namespace Context

/-- A text that names one binding, without carets: as it is visible from a scope, or among the scope's
own. -/
structure BindingText where
  text : String
  kind : RootKind
  name : String
  context : kind = .context ∨ kind = .currentContext
  read : Path.read text = .ok ⟨⟨kind,0⟩,[.field name]⟩

/-- The binding that is visible under a name, with the mark. -/
def BindingText.marked (name : String) (form : isBindingName name.toList = true) : BindingText :=
  ⟨markedText name,.context,name,.inl rfl,read_markedText form⟩

/-- The scope's own binding of a name. -/
def BindingText.own (name : String) : BindingText :=
  ⟨Path.text ⟨Root.ofName "currentcontext" 0,[.field name]⟩,.currentContext,name,.inr rfl,
    Path.read_ofName (by decide) 0 _⟩

def BindingText.path (place : BindingText) : Path := ⟨⟨place.kind,0⟩,[.field place.name]⟩

theorem BindingText.made (place : BindingText) (scope : Address) (r : Runtime) :
    Reference.ofValue scope (.str place.text) r =
      (.done r.store.handles.size,r.withHandle (.path scope place.path false)) := by
  rw [Reference.ofValue,Reference.pathOf,place.read]
  rfl

/-- A write or a deletion in the context of a scope, through its view or along a path. -/
inductive Write
  | set (key : Key) (label value : Value)
  | erase (key : Key)
  | setAt (place : BindingText) (value : Value)
  | eraseAt (place : BindingText)

namespace Write

variable (scope : Address)

def make : Write → Act Unit
  | set key label value => Context.set scope key label value
  | erase key => Context.erase scope key
  | setAt place value => Reference.setPath scope (.str place.text) value
  | eraseAt place => do Reference.delete (← Reference.ofValue scope (.str place.text))

/-- What it comes to through the view of the scope. -/
def change : Write → Change
  | set key label value => .set scope key label value
  | erase key => .erase scope key
  | setAt place value => .set scope (.text place.name) (.str place.name) value
  | eraseAt place => .erase scope (.text place.name)

/-- The name that is written along a path is not bound to a reference, which would be written in its
place. -/
def Plain (s : Store) : Write → Prop
  | setAt place _ => ∀ a, s.contextKey scope (.text place.name) ≠ .ref a
  | set _ _ _ | erase _ | eraseAt _ => True

variable {scope} {r : Runtime}

/-- Whichever way it is made, the bindings of the scope change as through its view; a path is read into
a handle first. -/
theorem make_run (w : Write) (inside : scope < r.store.scopes.size) (plain : w.Plain scope r.store) :
    w.make scope r = (.done (),{ r with store := (w.change scope).store r.store }) ∨ ∃ handle,
      w.make scope r =
        (.done (),{ r with store := (w.change scope).store (r.withHandle handle).store }) := by
  cases w with
  | set key label value => exact .inl (Change.make_run (.set scope key label value) r)
  | erase key => exact .inl (Change.make_run (.erase scope key) r)
  | setAt place value =>
    refine .inr ⟨.path scope place.path false,?_⟩
    rw [make,Reference.setPath,Step.bind_done (place.made scope r)]
    refine (Reference.set_path (r.handleAt_withHandle _)).trans
      (Reference.setPathValue_binding place.context inside fun b => ?_)
    -- What the name is bound to is asked once the handle is there, which binds nothing.
    rw [Runtime.contextKey_withHandle]
    exact plain b
  | eraseAt place =>
    refine .inr ⟨.path scope place.path false,?_⟩
    rw [make,Step.bind_done (place.made scope r)]
    exact (Reference.delete_path (r.handleAt_withHandle _)).trans
      (Reference.deletePath_binding place.context inside)

end Write

/-- The writes one after another, on one scope. -/
def writeAll (scope : Address) : List Write → Act Unit
  | [] => return ()
  | w :: writes => do
    w.make scope
    writeAll scope writes

/-- No write meets a reference in the place of the binding that it names. -/
def PlainAll (scope : Address) : List Write → Runtime → Prop
  | [], _ => True
  | w :: writes, r => w.Plain scope r.store ∧ PlainAll scope writes (w.make scope r).2

/-- What the writes make of the bindings of the scope. -/
def applyAll (scope : Address) (writes : List Write) (d : Dict) : Dict :=
  writes.foldl (fun d w => (w.change scope).apply d) d

end Context

namespace Store

variable {s t : Store} {scope : Address}

/-- The same bindings are visible from a scope in both stores. -/
structure SameContext (s t : Store) (scope : Address) : Prop where
  binding : ∀ key, t.contextBinding? scope key = s.contextBinding? scope key
  value : ∀ key, t.contextKey scope key = s.contextKey scope key
  has : ∀ key, t.hasContextKey scope key = s.hasContextKey scope key
  squashed : t.squashedContext scope = s.squashedContext scope

theorem SameScopes.context (scopes : s.SameScopes t)
    (same : ∀ a ∈ s.chain scope, t.specialsOf a = s.specialsOf a) : s.SameContext t scope := by
  have binding (key : Key) : t.contextBinding? scope key = s.contextBinding? scope key := by
    rw [contextBinding?,contextBinding?,scopes.chain]
    exact List.findSome?_congr fun a member => by rw [same a member]
  refine ⟨binding,fun key => congrArg Value.ofOption (binding key),fun key => ?_,?_⟩
  · rw [hasContextKey_eq,hasContextKey_eq,binding]
  · rw [squashedContext,squashedContext,scopes.chain]
    refine List.foldl_ext _ _ _ fun merged a member => ?_
    rw [same a (List.mem_reverse.mp member)]

/-- The nearest scope that binds a key. -/
def binder? (s : Store) (scope : Address) (key : Key) : Option Address :=
  (s.chain scope).find? fun a => (s.specialsOf a).has key

/-- What is visible is what the nearest scope that binds the key has. -/
theorem contextBinding?_binder (s : Store) (scope : Address) (key : Key) :
    s.contextBinding? scope key =
      (s.binder? scope key).bind fun a => (s.specialsOf a).get? key := by
  rw [contextBinding?,binder?]
  induction s.chain scope with
  | nil => rfl
  | cons a line ih =>
    rw [List.findSome?_cons,List.find?_cons,Dict.has_eq]
    cases found : (s.specialsOf a).get? key with
    | none => exact ih
    | some v => exact found.symm

section Way

variable {a : Address} {way above : List Address} {key : Key}

/-- On the way up a scope that binds the key is come to first unless one before it binds the key. -/
theorem binder?_eq_some_iff (chain : s.chain a = way ++ scope :: above) (apart : scope ∉ way)
    (bound : (s.specialsOf scope).has key = true) :
    s.binder? a key = some scope ↔ ∀ b ∈ way, (s.specialsOf b).has key = false := by
  rw [binder?,chain,List.find?_append,List.find?_cons,bound]
  cases found : way.find? fun b => (s.specialsOf b).has key with
  | none =>
    have free := List.find?_eq_none.mp found
    exact ⟨fun _ b near => Bool.eq_false_iff.mpr (free b near),fun _ => rfl⟩
  | some b =>
    have near := List.mem_of_find?_eq_some found
    refine ⟨fun here => absurd (Option.some.inj here ▸ near) apart,fun free => ?_⟩
    exact absurd (List.find?_some found) (Bool.eq_false_iff.mp (free b near))

/-- Where a scope on the way binds the key, nothing beyond the way is seen. -/
theorem SameScopes.hidden (scopes : s.SameScopes t) (chain : s.chain a = way ++ above)
    (same : ∀ b ∈ way, t.specialsOf b = s.specialsOf b)
    (bound : ∃ b ∈ way, (s.specialsOf b).has key = true) :
    t.contextBinding? a key = s.contextBinding? a key := by
  have again : way.findSome? (fun b => (t.specialsOf b).get? key) =
      way.findSome? fun b => (s.specialsOf b).get? key :=
    List.findSome?_congr fun b near => by rw [same b near]
  have found : (way.findSome? fun b => (s.specialsOf b).get? key).isSome = true := by
    rw [List.isSome_findSome?,List.any_eq_true]
    simpa only [Dict.has_eq] using bound
  obtain ⟨v,found⟩ := Option.isSome_iff_exists.mp found
  rw [contextBinding?,contextBinding?,scopes.chain,chain,List.findSome?_append,List.findSome?_append,
    again,found]
  rfl

end Way
end Store

namespace Runtime

/-- No object has changed but the bindings of one scope, which now are `d`; handles may have been made. -/
structure Rebound (r after : Runtime) (scope : Address) (d : Dict) : Prop where
  own : after.store.specialsOf scope = d
  sizes : ∀ shelf, shelf ≠ .handle → after.store.sizeOf shelf = r.store.sizeOf shelf
  handles : r.store.handles.size ≤ after.store.handles.size
  others : ∀ shelf a, shelf ≠ .handle →
    ¬ (shelf = .dict ∧ a = (r.store.scopeAt scope).specials) →
      after.store.object shelf a = r.store.object shelf a

namespace Rebound

variable {r mid after : Runtime} {scope : Address} {d e : Dict}

theorem refl (r : Runtime) (scope : Address) : r.Rebound r scope (r.store.specialsOf scope) :=
  ⟨rfl,fun _ _ => rfl,Nat.le_refl _,fun _ _ _ _ => rfl⟩

theorem scopes (rebound : r.Rebound after scope d) : r.store.SameScopes after.store where
  size := rebound.sizes .scope (by decide)
  scopeAt a := Object.scope.inj (rebound.others .scope a (by decide) (by simp))

theorem trans (first : r.Rebound mid scope d) (second : mid.Rebound after scope e) :
    r.Rebound after scope e where
  own := second.own
  sizes shelf other := (second.sizes shelf other).trans (first.sizes shelf other)
  handles := Nat.le_trans first.handles second.handles
  others shelf a other elsewhere := by
    refine (second.others shelf a other ?_).trans (first.others shelf a other elsewhere)
    rw [first.scopes.scopeAt]
    exact elsewhere

theorem grown {passed : List (Address × Given)} (rebound : r.Rebound after scope d)
    (grown : Grown passed r) : Grown passed after := by
  refine grown.other rebound.scopes fun shelf => ?_
  by_cases handle : shelf = .handle
  · subst handle
    exact rebound.handles
  · exact Nat.le_of_eq (rebound.sizes shelf handle).symm

theorem dictAt (rebound : r.Rebound after scope d) {a : Address}
    (elsewhere : a ≠ (r.store.scopeAt scope).specials) : after.store.dictAt a = r.store.dictAt a :=
  Object.entries.inj (rebound.others .dict a (by decide) fun here => elsewhere here.2)

theorem entries (rebound : r.Rebound after scope d) {v : Value}
    (elsewhere : v ≠ .dict (r.store.scopeAt scope).specials) :
    after.store.entries v = r.store.entries v := by
  cases v with
  | dict a => exact rebound.dictAt fun here => elsewhere (congrArg Value.dict here)
  | frozen a => exact Object.entries.inj (rebound.others .frozen a (by decide) (by simp))
  | _ => rfl

theorem change {c : Context.Change} {t : Store} (inside : (t.scopeAt c.target).specials < t.dicts.size) :
    ({ r with store := t } : Runtime).Rebound { r with store := c.store t } c.target
      (c.apply (t.specialsOf c.target)) := by
  have puts := t.putDict_puts (t.scopeAt c.target).specials (c.apply (t.specialsOf c.target))
  exact ⟨Object.entries.inj (puts.object inside),fun shelf _ => puts.sizes shelf,Nat.le_refl _,
    fun shelf a _ elsewhere => puts.others shelf a (Classical.not_and_iff_not_or_not.mp elsewhere)⟩

theorem withHandle (r : Runtime) (scope : Address) (handle : Handle) :
    r.Rebound (r.withHandle handle) scope (r.store.specialsOf scope) := by
  have adds := r.store.newHandle_adds handle
  exact ⟨rfl,adds.sizes,Nat.le_trans (Nat.le_succ _) (Nat.le_of_eq adds.size.symm),
    fun shelf a other _ => adds.others shelf a (.inl other)⟩

end Rebound
end Runtime

namespace Context

variable {passed : List (Address × Given)} {r after : Runtime} {scope : Address}

theorem Write.make_rebinds (w : Write) (inside : scope < r.store.scopes.size)
    (held : (r.store.scopeAt scope).specials < r.store.dicts.size) (plain : w.Plain scope r.store) :
    ∃ after, w.make scope r = (.done (),after) ∧
      r.Rebound after scope ((w.change scope).apply (r.store.specialsOf scope)) := by
  have target : (w.change scope).target = scope := by cases w <;> rfl
  have change {t : Store} (inside : (t.scopeAt scope).specials < t.dicts.size) :
      ({ r with store := t } : Runtime).Rebound { r with store := (w.change scope).store t } scope
        ((w.change scope).apply (t.specialsOf scope)) := by
    have rebound := Runtime.Rebound.change (r := r) (c := w.change scope) (t := t)
    rw [target] at rebound
    exact rebound inside
  obtain ran | ⟨handle,ran⟩ := w.make_run inside plain
  · exact ⟨_,ran,change held⟩
  · exact ⟨_,ran,(Runtime.Rebound.withHandle r scope handle).trans (change held)⟩

theorem writeAll_rebinds (writes : List Write) (inside : scope < r.store.scopes.size)
    (held : (r.store.scopeAt scope).specials < r.store.dicts.size) (plain : PlainAll scope writes r) :
    ∃ after, writeAll scope writes r = (.done (),after) ∧
      r.Rebound after scope (applyAll scope writes (r.store.specialsOf scope)) := by
  induction writes generalizing r with
  | nil => exact ⟨r,rfl,.refl r scope⟩
  | cons w writes ih =>
    obtain ⟨first,rest⟩ := plain
    obtain ⟨mid,ran,rebound⟩ := w.make_rebinds inside held first
    rw [ran] at rest
    have scopes := rebound.scopes
    obtain ⟨after,wrote,later⟩ := ih (by rwa [scopes.size])
      (by rw [scopes.scopeAt]; exact Nat.lt_of_lt_of_eq held (rebound.sizes .dict (by decide)).symm) rest
    refine ⟨after,?_,?_⟩
    · rw [writeAll,Step.bind_done ran]
      exact wrote
    · rw [rebound.own] at later
      exact rebound.trans later

end Context

/-- How far writes to the context of one scope reach, which has the bindings `d` since. -/
structure Runtime.Isolated (passed : List (Address × Given)) (r after : Runtime) (scope : Address)
    (d : Dict) : Prop where
  own : after.store.specialsOf scope = d
  /-- No other scope has other bindings of its own. -/
  others : ∀ a, a < r.store.scopes.size → a ≠ scope →
    after.store.specialsOf a = r.store.specialsOf a
  /-- No mapping has other entries but the dictionary of the bindings itself. -/
  mappings : ∀ v, v ≠ .dict (r.store.scopeAt scope).specials →
    after.store.entries v = r.store.entries v
  /-- The mappings that this scope and earlier ones were made from have the entries that they had. -/
  given : ∀ a v, (a,.mapping v) ∈ passed → a ≤ scope → after.store.entries v = r.store.entries v
  /-- A scope that is neither this one nor below it sees what it saw. -/
  outside : ∀ a, a < r.store.scopes.size → scope ∉ r.store.chain a →
    r.store.SameContext after.store a
  /-- A scope below comes to a binding of this one if and only if none on the way, itself included, binds
  the key. -/
  below : ∀ a way above key, a < r.store.scopes.size → r.store.chain a = way ++ scope :: above →
    d.has key = true → (after.store.binder? a key = some scope ↔
      ∀ between ∈ way, (r.store.specialsOf between).has key = false)
  /-- A scope that comes to it sees what is bound there. -/
  seen : ∀ a key, after.store.binder? a key = some scope →
    after.store.contextBinding? a key = d.get? key
  /-- Where one on the way binds the key, the scope below sees what it saw. -/
  hidden : ∀ a way above key, a < r.store.scopes.size → r.store.chain a = way ++ scope :: above →
    (∃ between ∈ way, (r.store.specialsOf between).has key = true) →
      after.store.contextBinding? a key = r.store.contextBinding? a key

theorem Runtime.Rebound.isolated {passed : List (Address × Given)} {r after : Runtime} {scope : Address}
    {d : Dict} (rebound : r.Rebound after scope d) (separate : Separate passed r.store)
    (inside : scope < r.store.scopes.size) : r.Isolated passed after scope d := by
  have scopes := rebound.scopes
  have others (a : Address) (member : a < r.store.scopes.size) (differ : a ≠ scope) :
      after.store.specialsOf a = r.store.specialsOf a := by
    rw [Store.specialsOf,scopes.scopeAt]
    exact rebound.dictAt fun same => differ (separate.distinct a scope member inside same)
  have before {a : Address} {way above : List Address} (member : a < r.store.scopes.size)
      (chain : r.store.chain a = way ++ scope :: above) : scope ∉ way ∧
        ∀ b ∈ way, after.store.specialsOf b = r.store.specialsOf b := by
    obtain ⟨apart,held⟩ := separate.way member chain
    exact ⟨apart,fun b near => others b (held b near) fun same => apart (same ▸ near)⟩
  refine ⟨rebound.own,others,fun v => rebound.entries,?_,?_,?_,?_,?_⟩
  · intro a v member earlier
    exact rebound.entries ((separate.passed a v member).2 scope earlier inside)
  · intro a member apart
    refine scopes.context fun b near => ?_
    exact others b ((separate.ordered.chain member).2 b near) fun same => apart (same ▸ near)
  · intro a way above key member chain bound
    obtain ⟨apart,same⟩ := before member chain
    rw [Store.binder?_eq_some_iff ((scopes.chain a).trans chain) apart (rebound.own ▸ bound)]
    exact forall₂_congr fun b near => by rw [same b near]
  · intro a key here
    rw [Store.contextBinding?_binder,here,Option.bind_some,rebound.own]
  · intro a way above key member chain bound
    exact scopes.hidden chain (before member chain).2 bound

namespace Context

/-- In a tree of scopes, writes to the context of one scope change its own bindings, and only scopes
below it that bind nothing nearer see them. No mapping changes that a scope was made from, unless it is
the dictionary of these very bindings, passed on after the scope was made. -/
theorem writeAll_isolated {passed : List (Address × Given)} {r : Runtime} {scope : Address}
    (grown : Grown passed r) (inside : scope < r.store.scopes.size) (writes : List Write)
    (plain : PlainAll scope writes r) : ∃ after, writeAll scope writes r = (.done (),after) ∧
      Grown passed after ∧
      r.Isolated passed after scope (applyAll scope writes (r.store.specialsOf scope)) := by
  have separate := grown.separate
  obtain ⟨after,ran,rebound⟩ := writeAll_rebinds writes inside (separate.inside scope inside) plain
  exact ⟨after,ran,rebound.grown grown,rebound.isolated separate inside⟩

/-- A page with a mapping that callers share. -/
def sharing : Runtime :=
  { Page.initial with store := (Page.initial.store.newDict [binding "x" (.int 1)]).2 }

/-- A scope, one below it made from the mapping, and two below that: one made from the mapping too, one
that binds nothing. -/
def family : Runtime :=
  let top := ((Growth.detached .null .plain).make sharing).2
  let parent := ((Growth.child 0 .null (.mapping (.dict 2)) .plain).make top).2
  let first := ((Growth.special 1 (.mapping (.dict 2)) .plain).make parent).2
  ((Growth.child 1 .null (.entries []) .plain).make first).2

theorem family_grown : Grown [(3,.entries []),(2,.mapping (.dict 2)),(1,.mapping (.dict 2)),
    (0,.entries [])] family := by
  have held {r : Runtime} (inside : 2 < r.store.dicts.size) (v : Value)
      (same : Given.mapping (.dict 2) = .mapping v) : v.Inside r.store := by
    obtain rfl := Given.mapping.inj same
    rintro shelf a ⟨⟩
    exact inside
  have top := Grown.scope (.bare rfl : Grown [] sharing) (.detached .null .plain)
    (fun _ same => by cases same) (fun _ same => by cases same)
  have parent := top.scope (.child 0 .null (.mapping (.dict 2)) .plain)
    (fun _ same => by cases same; decide) (held (by decide))
  have first := parent.scope (.special 1 (.mapping (.dict 2)) .plain)
    (fun _ same => by cases same; decide) (held (by decide))
  exact first.scope (.child 1 .null (.entries []) .plain) (fun _ same => by cases same; decide)
    (fun _ same => by cases same)

/-- Writes through the view and along paths of both forms. -/
def rebinding : List Write :=
  [.set (.text "y") (.str "y") .null,.setAt (.marked "x" (by decide)) (.int 7),.eraseAt (.own "y")]

theorem writeAll_isolated_family : Grown [(3,.entries []),(2,.mapping (.dict 2)),
    (1,.mapping (.dict 2)),(0,.entries [])] family ∧ ∃ after,
      writeAll 1 rebinding family = (.done (),after) ∧
        after.store.specialsOf 1 = [binding "x" (.int 7)] ∧
        after.store.entries (.dict 2) = [binding "x" (.int 1)] ∧
        after.store.contextKey 2 (.text "x") = .int 1 ∧ after.store.contextKey 3 (.text "x") = .int 7 := by
  have plain : PlainAll 1 rebinding family := by
    refine ⟨trivial,fun a same => ?_,trivial,trivial⟩
    exact Value.noConfusion (show Value.int 1 = .ref a from same)
  obtain ⟨after,ran,-,isolated⟩ := writeAll_isolated family_grown (by decide) rebinding plain
  have bound : applyAll 1 rebinding (family.store.specialsOf 1) = [binding "x" (.int 7)] := by decide
  have hidden := isolated.hidden 2 [2] [0] (.text "x") (by decide) (by decide) ⟨2,by decide⟩
  have below := (isolated.below 3 [3] [0] (.text "x") (by decide) (by decide) (by decide)).mpr
    (by decide)
  have seen := isolated.seen 3 (.text "x") below
  refine ⟨family_grown,after,ran,isolated.own.trans bound,
    (isolated.given 1 (.dict 2) (by decide) (Nat.le_refl 1)).trans (by decide),?_,?_⟩
  · rw [Store.contextKey,hidden]
    decide
  · rw [Store.contextKey,seen]
    decide

/-- The dictionary of the bindings of a scope, passed on as a mapping to make a scope below it. -/
def lent : Runtime :=
  let top := ((Growth.detached .null .plain).make Page.initial).2
  ((Growth.child 0 .null (.mapping (.dict 2)) .plain).make top).2

theorem lent_grown : Grown [(1,.mapping (.dict 2)),(0,.entries [])] lent := by
  have top := Grown.scope (.bare rfl : Grown [] Page.initial) (.detached .null .plain)
    (fun _ same => by cases same) (fun _ same => by cases same)
  refine top.scope (.child 0 .null (.mapping (.dict 2)) .plain)
    (fun _ same => by cases same; decide) fun v same => ?_
  obtain rfl := Given.mapping.inj same
  rintro shelf a ⟨⟩
  decide

/-- A mapping that was passed may be the dictionary that is written to. And a scope right below the one
that is written to does not see the new binding of a name that it binds itself. -/
theorem writeAll_reaches_mapping : Grown [(1,.mapping (.dict 2)),(0,.entries [])] lent ∧
    (∃ after, writeAll 0 [.set (.text "x") (.str "x") (.int 1)] lent = (.done (),after) ∧
      lent.store.entries (.dict 2) = [] ∧ after.store.entries (.dict 2) = [binding "x" (.int 1)]) ∧
    ∃ after, writeAll 1 [.set (.text "x") (.str "x") (.int 7)] family = (.done (),after) ∧
      after.store.chain 2 = [2,1,0] ∧ after.store.contextKey 1 (.text "x") = .int 7 ∧
      after.store.contextKey 2 (.text "x") = .int 1 :=
  ⟨lent_grown,⟨_,rfl,by decide,by decide⟩,⟨_,rfl,by decide,by decide,by decide⟩⟩

end Context
end PageRuntime
