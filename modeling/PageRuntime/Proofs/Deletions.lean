import PageRuntime.Proofs.Filling
import PageRuntime.Proofs.ReferenceChains
import PageRuntime.Proofs.Rereading
import PageRuntime.Proofs.RootNames

/-! Deletions. A deletion takes one entry out of the container that the path leads to, and that is all
it changes. It goes through references on the way to the container, but a reference in the entry itself
goes with the entry, and what it refers to stays. -/
namespace PageRuntime

namespace Dict

variable {key : Key} {v : Value}

theorem get?_none {d : Dict} : d.get? key = none ↔ key ∉ d.map (·.key) := by
  unfold get?
  simp

/-- A dictionary that has no key twice is cut in two at each of its entries. -/
theorem split_at {d : Dict} (once : (d.map (·.key)).Nodup) (found : d.get? key = some v) :
    ∃ (before : Dict) (label : Value) (rest : Dict), d = before ++ ⟨key,label,v⟩ :: rest ∧
      before.get? key = none ∧ rest.get? key = none ∧ d.erase key = before ++ rest := by
  unfold get? at found
  obtain ⟨⟨same,label,_⟩,here,rfl⟩ := Option.map_eq_some_iff.mp found
  obtain ⟨named,before,rest,rfl,others⟩ := List.find?_eq_some_iff_append.mp here
  obtain rfl : key = same := (of_decide_eq_true named).symm
  rw [List.map_append,List.map_cons] at once
  obtain ⟨-,once,apart⟩ := List.nodup_append.mp once
  have first : get? before key = none := get?_none.mpr fun member =>
    apart _ member _ List.mem_cons_self rfl
  have second : get? rest key = none := get?_none.mpr (List.nodup_cons.mp once).1
  refine ⟨before,label,rest,rfl,first,second,?_⟩
  have kept {part : Dict} (none : part.get? key = none) : part.filter (·.key ≠ key) = part :=
    List.filter_eq_self.mpr fun slot member => decide_eq_true fun same =>
      get?_none.mp none (same ▸ List.mem_map_of_mem member)
  rw [erase,List.filter_append,List.filter_cons_of_neg (by simp),kept first,kept second]

theorem erase_none {d : Dict} (none : d.get? key = none) : d.erase key = d :=
  List.filter_eq_self.mpr fun _ member => decide_eq_true fun same =>
    get?_none.mp none (same ▸ List.mem_map_of_mem member)

end Dict

namespace Store

variable {s t : Store} {a : Address} {key : Key} {v : Value}

theorem putDict_same (s : Store) (a : Address) : s.putDict a (s.dictAt a) = s := by
  have same : s.dicts.set a (s.dictAt a) = s.dicts := by
    unfold Table.set
    congr 1
    refine Array.ext_getElem? fun i => ?_
    rw [Array.getElem?_setIfInBounds]
    split
    · next here =>
      subst here
      split
      · next inside =>
        rw [dictAt,Table.get?,Array.getElem?_eq_getElem inside,Option.getD_some]
      · next outside => exact (Array.getElem?_eq_none (Nat.not_lt.mp outside)).symm
    · rfl
  rw [putDict,same]

/-- The dictionary has lost this entry; the others are there in order, and all else is as it was. -/
def LosesEntry (s t : Store) (a : Address) (key : Key) (v : Value) : Prop :=
  ∃ (before : Dict) (label : Value) (rest : Dict), s.dictAt a = before ++ ⟨key,label,v⟩ :: rest ∧
    before.get? key = none ∧ rest.get? key = none ∧ s.Puts t .dict a (.entries (before ++ rest))

/-- The list has lost the item at this place; the others are there in order, and all else is as it was. -/
def LosesItem (s t : Store) (a : Address) (place : Nat) (v : Value) : Prop :=
  ∃ before rest, s.listAt a = before ++ v :: rest ∧ before.length = place ∧
    s.Puts t .list a (.items (before ++ rest))

/-- The container has lost the entry of the accessor, which held the value. -/
inductive Forgets (s t : Store) : Spot → Segment → Value → Prop
  | entry {a : Address} {key : Segment} {v : Value} (loses : s.LosesEntry t a key.key v) :
      Forgets s t (.value (.dict a)) key v
  | binding {spot : Spot} {scope : Address} {key : Segment} {v : Value}
      (shows : Runtime.Shows s spot scope)
      (loses : s.LosesEntry t (s.scopeAt scope).specials (.text key.bindingName) v) :
      Forgets s t spot key v
  | item {a : Address} {index : Int} {place : Nat} {v : Value}
      (placed : placeOf? (s.listAt a).length index = some place) (loses : s.LosesItem t a place v) :
      Forgets s t (.value (.list a)) (.index index) v

/-- There is no entry of the accessor that the container could lose. -/
inductive Withholds (s : Store) : Spot → Segment → Prop
  | entry {a : Address} {key : Segment} (none : (s.dictAt a).get? key.key = none) :
      Withholds s (.value (.dict a)) key
  | binding {spot : Spot} {scope : Address} {key : Segment} (shows : Runtime.Shows s spot scope)
      (none : (s.specialsOf scope).get? (.text key.bindingName) = none) : Withholds s spot key
  | item {a : Address} {index : Int} (none : placeOf? (s.listAt a).length index = none) :
      Withholds s (.value (.list a)) (.index index)
  | field {a : Address} (name : String) : Withholds s (.value (.list a)) (.field name)
  | items (values : List Value) (key : Segment) : Withholds s (.items values) key
  | other {v : Value} (key : Segment) (fixed : ∀ a, v ≠ .dict a ∧ v ≠ .list a ∧ v ≠ .context a) :
      Withholds s (.value v) key

/-- Erasing a key takes one entry out of the dictionary, or leaves it as it is. -/
theorem erase_loses (once : ((s.dictAt a).map (·.key)).Nodup) (key : Key) :
    (∃ v, s.LosesEntry (s.putDict a ((s.dictAt a).erase key)) a key v) ∨
      (s.dictAt a).get? key = none ∧ s.putDict a ((s.dictAt a).erase key) = s := by
  cases found : (s.dictAt a).get? key with
  | none => exact .inr ⟨rfl,by rw [Dict.erase_none found,putDict_same]⟩
  | some v =>
    obtain ⟨before,label,rest,held,first,second,erased⟩ := Dict.split_at once found
    rw [erased]
    exact .inl ⟨v,before,label,rest,held,first,second,s.putDict_puts a _⟩

theorem Puts.member {shelf : Shelf} {o : Object} (puts : s.Puts t shelf a o) {held : Value}
    (unbound : ∀ a, held ≠ .context a) (elsewhere : held.spot? ≠ some (shelf,a)) (key : Segment) :
    t.member (.value held) key = s.member (.value held) key := by
  refine member_congr unbound (fun other b here => puts.others other b ?_) key
  by_contra same
  push Not at same
  obtain ⟨rfl,rfl⟩ := same
  exact elsewhere here

namespace LosesEntry

variable (loses : s.LosesEntry t a key v)
include loses

theorem puts : ∃ d, s.Puts t .dict a (.entries d) :=
  let ⟨_,_,_,_,_,_,puts⟩ := loses
  ⟨_,puts⟩

theorem get?_lost : (s.dictAt a).get? key = some v ∧ (t.dictAt a).get? key = none ∧
    ∀ other, other ≠ key → (t.dictAt a).get? other = (s.dictAt a).get? other := by
  obtain ⟨before,label,rest,held,first,second,puts⟩ := loses
  have inside : a < s.sizeOf .dict := by
    by_contra outside
    rw [dictAt_outside (Nat.not_lt.mp outside)] at held
    cases List.append_ne_nil_of_right_ne_nil before (List.cons_ne_nil _ rest) held.symm
  have now : t.dictAt a = before ++ rest := Object.entries.inj (puts.object inside)
  have cut (other : Key) : Dict.get? (⟨key,label,v⟩ :: rest) other =
      if key = other then some v else rest.get? other := by
    unfold Dict.get?
    rw [List.find?_cons]
    by_cases same : key = other
    · rw [if_pos same,decide_eq_true same]
      rfl
    · rw [if_neg same,decide_eq_false same]
  rw [now,held]
  refine ⟨?_,?_,fun other differ => ?_⟩
  · rw [Dict.get?_append,first,cut,if_pos rfl]
    rfl
  · rw [Dict.get?_append,first,second]
    rfl
  · rw [Dict.get?_append,Dict.get?_append,cut,if_neg differ.symm]

/-- What a dictionary has under a key is as it was, but for the entry that is lost. -/
theorem get? (b : Address) (other : Key) : (t.dictAt b).get? other = (s.dictAt b).get? other ∨
    (s.dictAt b).get? other = some v ∧ (t.dictAt b).get? other = none := by
  obtain ⟨found,lost,others⟩ := loses.get?_lost
  obtain ⟨d,puts⟩ := loses.puts
  by_cases here : b = a
  · subst here
    by_cases same : other = key
    · subst same
      exact .inr ⟨found,lost⟩
    · exact .inl (others other same)
  · exact .inl (congrArg (Dict.get? · other)
      (Object.entries.inj (puts.others .dict b (.inr here))))

/-- A binding is shown as it was, unless it is the one that is lost. -/
theorem contextKey {scope : Address} {other : Key} (differ : s.contextKey scope other ≠ v) :
    t.contextKey scope other = s.contextKey scope other := by
  obtain ⟨d,puts⟩ := loses.puts
  have scopes := puts.scopes (by decide)
  rw [Store.contextKey,contextBinding?] at differ ⊢
  rw [Store.contextKey,contextBinding?,scopes.chain]
  revert differ
  induction s.chain scope with
  | nil => exact fun _ => rfl
  | cons first rest ih =>
    intro differ
    rw [List.findSome?_cons] at differ
    rw [List.findSome?_cons,List.findSome?_cons,specialsOf,scopes.scopeAt]
    obtain same | ⟨found,-⟩ := loses.get? (s.scopeAt first).specials other
    · rw [same]
      rw [specialsOf] at differ ⊢
      cases found : (s.dictAt (s.scopeAt first).specials).get? other with
      | some w => rfl
      | none =>
        rw [found] at differ
        exact ih differ
    · rw [specialsOf,found] at differ
      exact absurd rfl differ

/-- What is looked up is as it was, unless it is the value that is lost. -/
theorem member {spot : Spot} {other : Segment} (differ : s.member spot other ≠ v) :
    t.member spot other = s.member spot other := by
  obtain ⟨d,puts⟩ := loses.puts
  cases spot with
  | bindings scope => exact loses.contextKey differ
  | items values => rfl
  | value held =>
    by_cases bound : ∃ b, held = .context b
    · obtain ⟨b,rfl⟩ := bound
      have scope : t.contextAt b = s.contextAt b :=
        Object.context.inj (puts.others .context b (.inl (by decide)))
      rw [Store.member,scope]
      exact loses.contextKey differ
    by_cases here : held.spot? = some (.dict,a)
    · obtain rfl : held = .dict a := by cases held <;> cases here; rfl
      rw [Store.member,Dict.get] at differ ⊢
      rw [Store.member,Dict.get]
      obtain same | ⟨found,-⟩ := loses.get? a other.key
      · rw [same]
      · rw [found] at differ
        exact absurd rfl differ
    · exact puts.member (fun b same => bound ⟨b,same⟩) here other

end LosesEntry

/-- What is looked up elsewhere than in the list is as it was. -/
theorem LosesItem.member {place : Nat} (loses : s.LosesItem t a place v) {spot : Spot}
    (elsewhere : spot ≠ .value (.list a)) (other : Segment) :
    t.member spot other = s.member spot other := by
  obtain ⟨before,rest,-,-,puts⟩ := loses
  have bound (scope : Address) (key : Key) : t.contextKey scope key = s.contextKey scope key :=
    (puts.scopes (by decide)).contextKey (fun above _ =>
      Object.entries.inj (puts.others .dict _ (.inl (by decide)))) key
  cases spot with
  | bindings scope => exact bound scope _
  | items values => rfl
  | value held =>
    by_cases context : ∃ b, held = .context b
    · obtain ⟨b,rfl⟩ := context
      have scope : t.contextAt b = s.contextAt b :=
        Object.context.inj (puts.others .context b (.inl (by decide)))
      rw [Store.member,scope]
      exact bound _ _
    · refine puts.member (fun b same => context ⟨b,same⟩) (fun here => elsewhere ?_) other
      cases held <;> cases here
      rfl

/-- The dictionaries have no key twice, and a scope keeps its bindings apart from those above it. -/
structure Orderly (s : Store) : Prop where
  once : ∀ a, ((s.dictAt a).map (·.key)).Nodup
  apart : ∀ scope, ∀ above ∈ (s.chain scope).tail,
    (s.scopeAt above).specials ≠ (s.scopeAt scope).specials

/-- A chain begins with its scope, unless there are no scopes. -/
theorem chain_cases (s : Store) (scope : Address) :
    s.chain scope = [] ∨ ∃ line, s.chain scope = scope :: line := by
  unfold chain
  cases s.scopes.size with
  | zero => exact .inl rfl
  | succ fuel =>
    unfold chainWithin
    cases (s.scopeAt scope).parent <;> exact .inr ⟨_,rfl⟩

/-- The nearest binding of a name above a scope. -/
def outerBinding? (s : Store) (scope : Address) (key : Key) : Option Value :=
  (s.chain scope).tail.findSome? fun above => (s.specialsOf above).get? key

namespace Forgets

variable {container : Spot} {key : Segment} (forgets : s.Forgets t container key v)
include forgets

theorem puts : ∃ shelf a o, (shelf = .dict ∨ shelf = .list) ∧ s.Puts t shelf a o := by
  cases forgets with
  | entry loses =>
    obtain ⟨d,puts⟩ := loses.puts
    exact ⟨_,_,_,.inl rfl,puts⟩
  | binding shows loses =>
    obtain ⟨d,puts⟩ := loses.puts
    exact ⟨_,_,_,.inl rfl,puts⟩
  | item placed loses =>
    obtain ⟨before,rest,-,-,puts⟩ := loses
    exact ⟨_,_,_,.inr rfl,puts⟩

theorem scopes : s.SameScopes t := by
  obtain ⟨shelf,a,o,rfl | rfl,puts⟩ := forgets.puts <;> exact puts.scopes (by decide)

theorem handleAt (b : Address) : t.handleAt b = s.handleAt b := by
  obtain ⟨shelf,a,o,rfl | rfl,puts⟩ := forgets.puts <;>
    exact Object.handle.inj (puts.others .handle b (.inl (by decide)))

/-- What is looked up is as it was, unless it is the value that is lost, or an item of the list that it
is lost from. -/
theorem member {spot : Spot} {other : Segment} (differ : s.member spot other ≠ v)
    (elsewhere : ∀ a, container = .value (.list a) → spot ≠ container) :
    t.member spot other = s.member spot other := by
  cases forgets with
  | entry loses => exact loses.member differ
  | binding shows loses => exact loses.member differ
  | item placed loses => exact loses.member (elsewhere _ rfl) other

/-- Once a scope has lost a binding, the nearest one above shows. -/
theorem uncovered (orderly : s.Orderly) {scope : Address} (shows : Runtime.Shows s container scope) :
    t.contextKey scope (.text key.bindingName) =
      Value.ofOption (s.outerBinding? scope (.text key.bindingName)) := by
  have same := forgets.scopes
  cases forgets with
  | entry loses => obtain here | ⟨_,here,_⟩ := shows <;> cases here
  | item placed loses => obtain here | ⟨_,here,_⟩ := shows <;> cases here
  | @binding _ owner _ _ owned loses =>
    obtain rfl : owner = scope := by
      obtain rfl | ⟨b,rfl,rfl⟩ := shows <;> obtain here | ⟨c,here,there⟩ := owned <;> cases here
      · rfl
      · exact there.symm
    have above : ∀ b ∈ (s.chain owner).tail, t.specialsOf b = s.specialsOf b := by
      intro b member
      obtain ⟨d,puts⟩ := loses.puts
      rw [specialsOf,same.scopeAt]
      exact Object.entries.inj (puts.others .dict _ (.inr (orderly.apart owner b member)))
    have lost : (t.specialsOf owner).get? (.text key.bindingName) = none := by
      rw [specialsOf,same.scopeAt]
      exact loses.get?_lost.2.1
    rw [Store.contextKey,contextBinding?,same.chain,outerBinding?]
    obtain none | ⟨line,chain⟩ := s.chain_cases owner
    · rw [none]
      rfl
    · rw [chain] at above ⊢
      rw [List.findSome?_cons,lost]
      exact congrArg Value.ofOption (List.findSome?_congr fun b member => by rw [above b member])

end Forgets
end Store

namespace Runtime

variable {r : Runtime}

/-- On no way that reading the handle takes is anything looked up at the spot. -/
def Avoids (r : Runtime) (a : Address) (spot : Spot) : Prop :=
  ∀ b, Relation.ReflTransGen (HasPart r.leads) a b →
    ∀ look ∈ r.looks r.resolve (r.store.handleAt b), look.1 ≠ spot

/-- All that a deletion has changed is one entry of the container. A reference in it is gone, but what
it refers to is read as before, unless items of the list that it was in are looked up on the way. -/
structure Removes (r after : Runtime) (container : Spot) (key : Segment) (v : Value) : Prop where
  rest : after = { r with store := after.store }
  forgets : r.store.Forgets after.store container key v
  uncovered : ∀ scope, Shows r.store container scope →
    after.store.contextKey scope (.text key.bindingName) =
      Value.ofOption (r.store.outerBinding? scope (.text key.bindingName))
  handles : ∀ a, after.store.handleAt a = r.store.handleAt a
  referent : ∀ a, v = .ref a → (∀ list, container = .value (.list list) → r.Avoids a container) →
    after.resolve a = r.resolve a

/-- The way to the container of what a path names: the path but its last accessor. -/
def holderHandle (scope : Address) (path : Path) : Handle :=
  .path scope { path with segments := path.segments.dropLast } false

/-- What a deletion through a path comes to. -/
inductive Deletion (r : Runtime) (scope : Address) (path : Path) (locked : Bool) :
    Outcome Unit → Runtime → Prop
  | ignored (shut : locked = true ∨ r.Ignores path.root) : Deletion r scope path locked (.done ()) r
  | bare (bare : path.segments = []) : Deletion r scope path locked (.done ()) r
  | refused (fault : Fault) (unread : (∃ why, r.rootSpot scope path.root = .error why) ∨
      ∃ a ∈ r.asks r.resolve (holderHandle scope path), r.Unrooted a fault) :
      Deletion r scope path locked (.raised r.store.failures.size)
        { r with store := (r.store.newFailure ⟨fault,none,none⟩).2 }
  | withheld {container : Spot} {key : Segment} (last : path.segments.getLast? = some key)
      (found : r.readHandle r.resolve (holderHandle scope path) = .ok container)
      (withholds : r.store.Withholds container key) : Deletion r scope path locked (.done ()) r
  | removed {container : Spot} {key : Segment} {v : Value} {after : Runtime}
      (last : path.segments.getLast? = some key)
      (found : r.readHandle r.resolve (holderHandle scope path) = .ok container)
      (removes : r.Removes after container key v) : Deletion r scope path locked (.done ()) after

theorem Untangled.removes (untangled : r.Untangled) (orderly : r.store.Orderly) {s : Store}
    {container : Spot} {key : Segment} {v : Value} (forgets : r.store.Forgets s container key v) :
    r.Removes { r with store := s } container key v where
  rest := rfl
  forgets := forgets
  uncovered _ shows := forgets.uncovered orderly shows
  handles := forgets.handleAt
  referent a holds avoids := by
    subst holds
    refine untangled.resolve_frame forgets.handleAt (forgets.scopes.rootSpot rfl) ?_
    intro b onward look looked
    exact forgets.member (untangled.looked_elsewhere onward looked) fun list here =>
      avoids list here b onward look looked

end Runtime

namespace Reference

variable {r : Runtime}

/-- What is taken out of a container is one entry, if it has it. -/
theorem dropMember_forgets (once : ∀ a, ((r.store.dictAt a).map (·.key)).Nodup) (container : Spot)
    (key : Segment) :
    (∃ t v, dropMember container key r = (.done (),{ r with store := t }) ∧
      r.store.Forgets t container key v) ∨
    dropMember container key r = (.done (),r) ∧ r.store.Withholds container key := by
  have binding {spot : Spot} {scope : Address} (shows : Runtime.Shows r.store spot scope) :
      (∃ t v, Context.erase scope (.text key.bindingName) r = (.done (),{ r with store := t }) ∧
        r.store.Forgets t spot key v) ∨
      Context.erase scope (.text key.bindingName) r = (.done (),r) ∧ r.store.Withholds spot key := by
    have ran : Context.erase scope (.text key.bindingName) r = (.done (),{ r with
      store := r.store.putDict (r.store.scopeAt scope).specials
        ((r.store.specialsOf scope).erase (.text key.bindingName)) }) := rfl
    obtain ⟨v,loses⟩ | ⟨none,same⟩ := Store.erase_loses (once (r.store.scopeAt scope).specials)
      (.text key.bindingName)
    · exact .inl ⟨_,v,ran,.binding shows loses⟩
    · rw [ran,Store.specialsOf,same]
      exact .inr ⟨rfl,.binding shows none⟩
  unfold dropMember
  rw [Step.bind_done (Act.store_run r)]
  cases container with
  | bindings scope => exact binding (.inl rfl)
  | items values => exact .inr ⟨rfl,.items values key⟩
  | value v =>
    cases v with
    | context a => exact binding (.inr ⟨a,rfl,rfl⟩)
    | dict a =>
      have ran : (Act.update (·.putDict a ((r.store.dictAt a).erase key.key)) : Act Unit) r =
        (.done (),{ r with store := r.store.putDict a ((r.store.dictAt a).erase key.key) }) := rfl
      dsimp only
      rw [ran]
      obtain ⟨v,loses⟩ | ⟨none,same⟩ := Store.erase_loses (once a) key.key
      · exact .inl ⟨_,v,rfl,.entry loses⟩
      · rw [same]
        exact .inr ⟨rfl,.entry none⟩
    | list a =>
      cases key with
      | field name => exact .inr ⟨rfl,.field name⟩
      | index index =>
        dsimp only
        cases placed : placeOf? (r.store.listAt a).length index with
        | none => exact .inr ⟨rfl,.item placed⟩
        | some place =>
          have inside := placeOf?_lt placed
          refine .inl ⟨_,(r.store.listAt a)[place],rfl,.item placed ⟨(r.store.listAt a).take place,
            (r.store.listAt a).drop (place + 1),?_,?_,?_⟩⟩
          · rw [← List.drop_eq_getElem_cons inside,List.take_append_drop]
          · rw [List.length_take,Nat.min_eq_left (Nat.le_of_lt inside)]
          · rw [← List.eraseIdx_eq_take_drop_succ]
            exact r.store.putList_puts a _
    | _ => exact .inr ⟨rfl,.other key fun _ => ⟨Value.noConfusion,Value.noConfusion,Value.noConfusion⟩⟩

/-- It can be told whether a path is locked, unless its root is a data root of a page that is gone. -/
theorem isLocked_cases (r : Runtime) (path : Path) (locked : Bool) :
    (isLocked path locked r = (.done true,r) ∧ (locked = true ∨ r.Ignores path.root)) ∨
    isLocked path locked r = (.done false,r) ∨
    (isLocked path locked r = Act.fail .released r ∧
      ∀ scope, ∃ why, r.rootSpot scope path.root = .error why) := by
  unfold isLocked
  by_cases shut : (locked || path.root.kind.isComputed) = true
  · rw [if_pos shut]
    exact .inl ⟨rfl,(Bool.or_eq_true_iff.mp shut).imp_right .inl⟩
  rw [if_neg shut]
  cases kind : path.root.kind.dataRoot? with
  | none => exact .inr (.inl rfl)
  | some name =>
    dsimp only
    rw [Step.bind_run,Step.read_run]
    dsimp only
    by_cases alive : r.alive = true
    · rw [if_pos alive]
      cases held : r.isLocked name with
      | true => exact .inl ⟨rfl,.inr (.inr ⟨name,kind,held⟩)⟩
      | false => exact .inr (.inl rfl)
    · rw [if_neg alive]
      refine .inr (.inr ⟨rfl,fun scope => ?_⟩)
      unfold Runtime.rootSpot
      by_cases far : 1 < path.root.caret
      · exact ⟨_,if_pos far⟩
      · dsimp only
        rw [if_neg far]
        revert kind
        cases path.root.kind <;> rintro ⟨⟩ <;> dsimp only [Runtime.dataRoot] <;> rw [if_neg alive] <;>
          exact ⟨_,rfl⟩

theorem deleteLast_run (r : Runtime) (scope : Address) (path : Path) (last : Segment) :
    deleteLast scope path last r =
      (Act.ofExcept (r.readHandle r.resolve (Runtime.holderHandle scope path)) >>=
        (dropMember · last)) r := by
  rw [Runtime.holderHandle,Runtime.readHandle]
  cases rooted : r.rootSpot scope path.root with
  | error fault =>
    unfold deleteLast root
    simp only [Step.bind_run,Step.read_run,rooted]
    rfl
  | ok start =>
    rw [deleteLast,Step.bind_done (root_run rooted),Step.bind_done (Step.read_run r)]
    dsimp only
    show _ = (Act.ofExcept (start.walk r.resolve r.store path.segments.dropLast >>=
      Spot.follow r.resolve) >>= _) r
    cases start.walk r.resolve r.store path.segments.dropLast with
    | error fault => rfl
    | ok container => rfl

/-- A deletion through a path. -/
theorem deletePath_removes {r : Runtime} (untangled : r.Untangled) (orderly : r.store.Orderly)
    (scope : Address) (path : Path) (locked : Bool) :
    ∃ outcome after, deletePath scope path locked r = (outcome,after) ∧
      r.Deletion scope path locked outcome after := by
  unfold deletePath
  obtain ⟨asked,shut⟩ | asked | ⟨asked,unrooted⟩ := isLocked_cases r path locked
  · rw [Step.bind_done asked]
    exact ⟨_,_,rfl,.ignored shut⟩
  · rw [Step.bind_done asked,if_neg Bool.false_ne_true]
    cases ending : path.segments.getLast? with
    | none => exact ⟨_,_,rfl,.bare (List.getLast?_eq_none_iff.mp ending)⟩
    | some last =>
      dsimp only
      rw [deleteLast_run]
      cases found : r.readHandle r.resolve (Runtime.holderHandle scope path) with
      | error fault =>
        refine ⟨_,_,rfl,.refused fault ?_⟩
        obtain ⟨_,_,_,here,failed⟩ | ⟨a,asked,failed⟩ := Runtime.readHandle_error found
        · cases here
          exact .inl ⟨fault,failed⟩
        · exact .inr ⟨a,asked,untangled.resolve_error failed⟩
      | ok container =>
        rw [Act.ofExcept_ok_bind]
        obtain ⟨s,v,dropped,forgets⟩ | ⟨dropped,withholds⟩ :=
          dropMember_forgets orderly.once container last
        · exact ⟨_,_,dropped,.removed ending found (untangled.removes orderly forgets)⟩
        · exact ⟨_,_,dropped,.withheld ending found withholds⟩
  · refine ⟨_,_,Step.bind_raised asked,.refused .released (.inl (unrooted scope))⟩

def listPath : Path := ⟨⟨.state,0⟩,[.field "l"]⟩
def referencePath : Path := ⟨⟨.state,0⟩,[.field "r"]⟩
def firstPath : Path := ⟨⟨.state,0⟩,[.field "l",.index 0]⟩
def secondPath : Path := ⟨⟨.state,0⟩,[.field "l",.index 1]⟩

/-- A page whose state has a list, with a reference to its second item as the first, and a reference to
the list. -/
def referring : Runtime :=
  { Target.rooted with
    store := { Target.rooted.store with
      lists := ⟨#[[.ref 0,.int 5]]⟩
      handles := ⟨#[.path 0 secondPath false,.path 0 listPath false]⟩
      dicts := ⟨#[[],[⟨.text "l",.str "l",.list 0⟩,⟨.text "r",.str "r",.ref 1⟩],[]]⟩ } }

theorem referring_untangled : referring.Untangled := by
  have stops (a : Address) : referring.leads a = [] := by
    obtain _ | _ | a := a
    · rfl
    · rfl
    · rw [Runtime.leads,referring.handleAt_outside (Nat.le_add_left 2 a)]
      rfl
  intro a loop
  obtain ⟨b,leads,-⟩ := Relation.TransGen.head'_iff.mp loop
  rw [HasPart,stops] at leads
  cases leads

theorem referring_orderly : referring.store.Orderly where
  once a := by
    obtain _ | _ | _ | a := a
    · decide
    · decide
    · decide
    · rw [Store.dictAt_outside (Nat.le_add_left 3 a)]
      exact List.nodup_nil
  apart scope above member := by
    have alone : (referring.store.chain scope).tail = [] := by
      show (referring.store.chainWithin 1 scope).tail = []
      unfold Store.chainWithin
      cases (referring.store.scopeAt scope).parent <;> rfl
    rw [alone] at member
    cases member

/-- The reference to the list goes, and the list stays. -/
theorem deletePath_removes_reference : ∃ after,
    deletePath 0 referencePath false referring = (.done (),after) ∧
      referring.Deletion 0 referencePath false (.done ()) after ∧
      after.resolve 1 = .ok (.value (.list 0)) := by
  obtain ⟨outcome,after,ran,deletion⟩ :=
    deletePath_removes referring_untangled referring_orderly 0 referencePath false
  have done : (deletePath 0 referencePath false referring).1 = .done () := by decide
  have read : (deletePath 0 referencePath false referring).2.resolve 1 = .ok (.value (.list 0)) := by rfl
  rw [ran] at done read
  obtain rfl := done
  exact ⟨after,ran,deletion,read⟩

/-- In a list the items behind move up, so that what the reference named is named by another path. -/
theorem deletePath_moves_up : referring.Untangled ∧ referring.store.Orderly ∧ ∃ after,
    deletePath 0 firstPath false referring = (.done (),after) ∧
      referring.store.Forgets after.store (.value (.list 0)) (.index 0) (.ref 0) ∧
      referring.resolve 0 = .ok (.value (.int 5)) ∧ after.resolve 0 = .ok .null := by
  refine ⟨referring_untangled,referring_orderly,_,rfl,?_,rfl,rfl⟩
  exact .item rfl ⟨[],[.int 5],rfl,rfl,referring.store.putList_puts 0 [.int 5]⟩

end Reference
end PageRuntime
