import PageRuntime.Proofs.Filling
import PageRuntime.Proofs.RootNames

/-! Landings. Where no reference is met, a write walks along the containers that are there and lands in
the last of them. If that container spurns the accessor it stays as it is, and else one entry of it is
written; what lies further below is made for the write. -/
namespace PageRuntime
open Reference (isFixed extended)

/-- The container that a write lands in, the accessor that is written there, and the accessors left,
which lead through what is yet to be made. -/
structure Landing where
  container : Spot
  key : Segment
  left : List Segment

namespace Store

/-- What accessors lead to one after another, references not entered. -/
def lies (s : Store) (spot : Spot) (keys : List Segment) : Spot :=
  keys.foldl (fun container key => .value (s.member container key)) spot

/-- No reference is met along the accessors. -/
def Direct (s : Store) (spot : Spot) (keys : List Segment) : Prop :=
  ∀ before, before <+: keys → ∀ a, s.lies spot before ≠ .value (.ref a)

/-- The last container that is there along the accessors. -/
def landing (s : Store) : Spot → Segment → List Segment → Landing
  | container, key, [] => ⟨container,key,[]⟩
  | container, key, next :: rest =>
    if s.member container key = .null then ⟨container,key,next :: rest⟩
    else s.landing (.value (s.member container key)) next rest

/-- Writes by this accessor leave the container as it is. -/
def Spurns (s : Store) (container : Spot) (key : Segment) : Prop :=
  isFixed container = true ∨
    ∃ a place, container = .value (.list a) ∧ key = .index place ∧ place < -(s.listAt a).length

/-- The items of a list with a place written that does not lie before its start. -/
def written (items : List Value) (place : Int) (v : Value) : List Value :=
  match placeOf? items.length place with
  | some n => items.set n v
  | none => extended items place.toNat v

/-- The object that is put in place of another when a value is entered in a container. -/
inductive Enters (s : Store) (v : Value) : Spot → Segment → Shelf → Address → Object → Prop
  | dict {a : Address} {key : Segment} : Enters s v (.value (.dict a)) key .dict a
      (.entries ((s.dictAt a).insert key.key key.value v))
  | list {a : Address} {place : Int} (after : ¬ place < -(s.listAt a).length) :
      Enters s v (.value (.list a)) (.index place) .list a (.items (written (s.listAt a) place v))
  | binding {container : Spot} {scope : Address} {key : Segment}
      (shows : Runtime.Shows s container scope) :
      Enters s v container key .dict (s.scopeAt scope).specials
        (.entries ((s.specialsOf scope).insert (.text key.bindingName) (.str key.bindingName) v))

variable {s t : Store}

theorem direct_cons {spot : Spot} {key : Segment} {rest : List Segment} :
    s.Direct spot (key :: rest) ↔
      (∀ a, spot ≠ .value (.ref a)) ∧ s.Direct (.value (s.member spot key)) rest := by
  constructor
  · intro direct
    exact ⟨direct [] List.nil_prefix,
      fun before head => direct (key :: before) (List.cons_prefix_cons.mpr ⟨rfl,head⟩)⟩
  · rintro ⟨plain,direct⟩ before head
    cases before with
    | nil => exact plain
    | cons other before =>
      obtain ⟨rfl,tail⟩ := List.cons_prefix_cons.mp head
      exact direct before tail

namespace Direct

variable {spot : Spot} {keys : List Segment} (direct : s.Direct spot keys)
include direct

theorem plain (a : Address) : spot ≠ .value (.ref a) := direct [] List.nil_prefix a

theorem follow (resolve : Address → Except Fault Spot) : spot.follow resolve = .ok spot := by
  unfold Spot.follow
  split
  · exact absurd rfl (direct.plain _)
  · rfl

theorem walk (resolve : Address → Except Fault Spot) :
    spot.walk resolve s keys = .ok (s.lies spot keys) := by
  induction keys generalizing spot with
  | nil => rfl
  | cons key rest ih =>
    rw [Spot.walk_cons,Spot.step,direct.follow resolve]
    exact ih (direct_cons.mp direct).2

end Direct

theorem lies_present {r : Runtime} (closed : r.Closed) {spot : Spot}
    (present : spot.Alike r.store.identity spot) (keys : List Segment) :
    (r.store.lies spot keys).Alike r.store.identity (r.store.lies spot keys) := by
  induction keys generalizing spot with
  | nil => exact present
  | cons key rest ih => exact ih (.value (closed.store.member present key))

/-- What a write lands in lies along the accessors. -/
theorem landing_lies (container : Spot) (key : Segment) (rest : List Segment) : ∃ before,
    (s.landing container key rest).container = s.lies container before ∧
      key :: rest =
        before ++ (s.landing container key rest).key :: (s.landing container key rest).left := by
  induction rest generalizing container key with
  | nil => exact ⟨[],rfl,rfl⟩
  | cons next rest ih =>
    unfold landing
    split
    · exact ⟨[],rfl,rfl⟩
    · obtain ⟨before,lies,split⟩ := ih (.value (s.member container key)) next
      exact ⟨key :: before,lies,congrArg (key :: ·) split⟩

section

variable {container : Spot} {key : Segment} {rest : List Segment}

theorem Direct.landing (direct : s.Direct container (key :: rest)) (b : Address) :
    s.member (s.landing container key rest).container (s.landing container key rest).key ≠ .ref b := by
  obtain ⟨before,lies,split⟩ := landing_lies (s := s) container key rest
  intro here
  refine direct (before ++ [(s.landing container key rest).key]) ?_ b ?_
  · rw [split]
    exact ⟨_,by rw [List.append_assoc]; rfl⟩
  · rw [Store.lies,List.foldl_append]
    show Spot.value (s.member (s.lies container before) _) = _
    rw [← lies,here]

theorem landing_listed (listed : ∀ items, container ≠ .items items) (items : List Value) :
    (s.landing container key rest).container ≠ .items items := by
  obtain ⟨before,lies,-⟩ := landing_lies (s := s) container key rest
  rw [lies]
  cases before using List.reverseRecOn with
  | nil => exact listed items
  | append_singleton before last =>
    rw [Store.lies,List.foldl_append]
    exact nofun

end

end Store

theorem placeOf?_eq_none_iff {length : Nat} {place : Int} :
    placeOf? length place = none ↔ place < -length ∨ (length : Int) ≤ place := by
  unfold placeOf?
  split <;> simp <;> omega

theorem placeOf?_counted {length : Nat} {place : Int} (counted : 0 ≤ place) :
    placeOf? length place = if place.toNat < length then some place.toNat else none := by
  unfold placeOf?
  split <;> split <;> simp <;> omega

namespace Store.Enters

variable {s t : Store} {v : Value} {container : Spot} {key : Segment} {shelf : Shelf} {a : Address}
  {o : Object} (enters : s.Enters v container key shelf a o)
include enters

theorem not_spurns : ¬ s.Spurns container key := by
  rintro (fixed | ⟨b,place,rfl,rfl,before⟩)
  · cases enters with
    | binding shows => obtain rfl | ⟨b,rfl,-⟩ := shows <;> cases fixed
    | _ => cases fixed
  · cases enters with
    | list after => exact after before
    | binding shows => obtain same | ⟨b,same,-⟩ := shows <;> cases same

theorem changes : ∃ changed : Value, changed.isMutable = true ∧ changed.spot? = some (shelf,a) := by
  cases enters with
  | dict => exact ⟨.dict a,rfl,rfl⟩
  | list => exact ⟨.list a,rfl,rfl⟩
  | binding => exact ⟨.dict _,rfl,rfl⟩

/-- The object holds the value, so it is none of a runtime that lacks the value. -/
theorem foreign {base : Runtime} (fresh : ¬ v.Present base.store) :
    ¬ o.Alike base.store.identity o := by
  cases enters with
  | dict => exact Reference.insert_foreign fresh _ _ _
  | binding => exact Reference.insert_foreign fresh _ _ _
  | @list a place =>
    refine Reference.items_foreign ?_ fresh
    unfold written
    cases placed : placeOf? (s.listAt a).length place with
    | none => exact List.mem_append_right _ List.mem_cons_self
    | some n => exact List.mem_iff_getElem.mpr ⟨n,by simpa using placeOf?_lt placed,by simp⟩

end Store.Enters

theorem Store.spurns_grew {r base : Runtime} (grew : r.Grew base) {container : Spot}
    (present : container.Alike r.store.identity container) {key : Segment} :
    base.store.Spurns container key ↔ r.store.Spurns container key := by
  refine or_congr .rfl (exists_congr fun a => exists_congr fun place => and_congr_right fun same => ?_)
  subst same
  cases present with
  | value present =>
    have same : base.store.listAt a = r.store.listAt a :=
      Object.items.inj (grew.store .list a (Value.Present.inside present .list a rfl)).2
    rw [same]

section

variable {r base : Runtime} (closed : r.Closed) (grew : r.Grew base) {container : Spot}
  (present : container.Alike r.store.identity container)
include closed grew present

theorem Store.member_grew (baseClosed : base.Closed) (key : Segment) :
    base.store.member container key = r.store.member container key :=
  (((closed.grew grew baseClosed).store.member present key).eq r.store.identity_diagonal).symm

theorem Store.Enters.inside {v : Value} {key : Segment} {shelf : Shelf} {a : Address} {o : Object}
    (enters : base.store.Enters v container key shelf a o) : a < r.store.sizeOf shelf := by
  have specials {scope : Address} (linked : r.store.identity .scope scope scope) :
      (base.store.scopeAt scope).specials < r.store.sizeOf .dict := by
    have same : base.store.scopeAt scope = r.store.scopeAt scope :=
      Object.scope.inj (grew.store .scope scope linked.2).2
    rw [same]
    exact (closed.store.scopeAt linked).specials.2
  cases enters with
  | dict => cases present with | value present => exact Value.Present.inside present .dict a rfl
  | list => cases present with | value present => exact Value.Present.inside present .list a rfl
  | binding shows =>
    obtain rfl | ⟨b,rfl,rfl⟩ := shows
    · cases present with | bindings linked => exact specials linked
    · cases present with
      | value present =>
        cases present with
        | context linked =>
          have same : base.store.contextAt b = r.store.contextAt b :=
            Object.context.inj (grew.store .context b linked.2).2
          rw [same]
          exact specials (closed.store.contextAt linked)

end

/-- One entry of the container has been given the value, and nothing else has changed. -/
def Runtime.Entered (r : Runtime) (v : Value) (container : Spot) (key : Segment) (after : Runtime) :
    Prop :=
  ∃ shelf a o t, r.store.Enters v container key shelf a o ∧ r.store.Puts t shelf a o ∧
    after = { r with store := t }

theorem Runtime.Entered.not_spurns {r after : Runtime} {v : Value} {container : Spot} {key : Segment}
    (entered : r.Entered v container key after) : ¬ r.store.Spurns container key := by
  obtain ⟨shelf,a,o,t,enters,-,-⟩ := entered
  exact enters.not_spurns

namespace Reference

variable {write : Address → Value → Act Unit} {container : Spot} {key : Segment} {v : Value}
  {r after : Runtime}

theorem putBinding_plain {scope : Address}
    (plain : ∀ b, r.store.contextKey scope (.text key.bindingName) ≠ .ref b) :
    putBinding write scope key v r =
      Context.set scope (.text key.bindingName) (.str key.bindingName) v r := by
  rw [putBinding,Step.bind_done (Act.store_run r)]
  generalize r.store.contextKey scope (.text key.bindingName) = held at plain
  cases held <;> first | rfl | exact absurd rfl (plain _)

theorem putBinding_done {scope : Address} (shows : Runtime.Shows r.store container scope)
    (plain : ∀ b, r.store.contextKey scope (.text key.bindingName) ≠ .ref b)
    (ran : putBinding write scope key v r = (.done (),after)) : r.Entered v container key after := by
  cases (putBinding_plain plain).symm.trans ran
  exact ⟨_,_,_,_,.binding shows,r.store.putDict_puts _ _,rfl⟩

theorem putEntry_plain {a : Address} (plain : ∀ b, (r.store.dictAt a).get key.key ≠ .ref b) :
    putEntry write a key v r =
      Act.update (·.putDict a ((r.store.dictAt a).insert key.key key.value v)) r := by
  rw [putEntry,Step.bind_done (Act.store_run r)]
  generalize (r.store.dictAt a).get key.key = held at plain
  cases held <;> first | rfl | exact absurd rfl (plain _)

theorem putEntry_done {a : Address} (plain : ∀ b, (r.store.dictAt a).get key.key ≠ .ref b)
    (ran : putEntry write a key v r = (.done (),after)) :
    r.Entered v (.value (.dict a)) key after := by
  cases (putEntry_plain plain).symm.trans ran
  exact ⟨_,_,_,_,.dict,r.store.putDict_puts _ _,rfl⟩

theorem putItem_done {items : List Value} {store : List Value → Act Unit}
    (plain : ∀ b, itemAt items key ≠ .ref b)
    (ran : putItem write items store key v r = (.done (),after)) : ∃ place, key = .index place ∧
      ((place < -items.length ∧ after = r) ∨
        (¬ place < -items.length ∧ store (Store.written items place v) r = (.done (),after))) := by
  cases key with
  | field name => cases ran
  | index place =>
    refine ⟨place,rfl,?_⟩
    unfold Store.written
    unfold putItem at ran
    dsimp only at ran
    cases placed : placeOf? items.length place with
    | none =>
      rw [placed] at ran
      have outside := placeOf?_eq_none_iff.mp placed
      dsimp only at ran ⊢
      split at ran
      · cases ran
        exact .inl ⟨by omega,rfl⟩
      · exact .inr ⟨by omega,ran⟩
    | some n =>
      rw [placed] at ran
      refine .inr ⟨fun before => ?_,?_⟩
      · rw [placeOf?_eq_none_iff.mpr (.inl before)] at placed
        cases placed
      · have plain (b : Address) : items[n]? ≠ some (.ref b) := by
          intro here
          refine plain b ?_
          show Value.ofOption ((placeOf? items.length place).bind (items[·]?)) = _
          rw [placed,Option.bind_some,here]
          rfl
        rw [← ran]
        dsimp only
        generalize items[n]? = held at plain
        cases held with
        | none => rfl
        | some w => cases w <;> first | rfl | exact absurd rfl (plain _)

/-- An entry that holds no reference is written, unless the container spurns the accessor. -/
theorem putInto_done (listed : ∀ items, container ≠ .items items)
    (plain : ∀ b, r.store.member container key ≠ .ref b)
    (ran : putInto write container key v r = (.done (),after)) :
    (r.store.Spurns container key ∧ after = r) ∨ r.Entered v container key after := by
  rw [putInto,Step.bind_done (Act.store_run r)] at ran
  cases container with
  | bindings scope => exact .inr (putBinding_done (.inl rfl) plain ran)
  | items items => exact absurd rfl (listed items)
  | value u =>
    cases u with
    | context b => exact .inr (putBinding_done (.inr ⟨b,rfl,rfl⟩) plain ran)
    | dict b => exact .inr (putEntry_done plain ran)
    | list b =>
      obtain ⟨place,rfl,⟨before,still⟩ | ⟨notBefore,ran⟩⟩ := putItem_done plain ran
      · exact .inl ⟨.inr ⟨b,place,rfl,rfl,before⟩,still⟩
      · cases ran
        exact .inr ⟨_,_,_,_,.list notBefore,r.store.putList_puts _ _,rfl⟩
    | tuple b =>
      cases ran
      exact .inl ⟨.inl rfl,rfl⟩
    | frozen b =>
      cases ran
      exact .inl ⟨.inl rfl,rfl⟩
    | fset b =>
      cases ran
      exact .inl ⟨.inl rfl,rfl⟩
    | _ => cases ran

variable (write v) in
/-- A write from where it lands. -/
def land (landing : Landing) : Act Unit :=
  match landing.left with
  | [] => putInto write landing.container landing.key v
  | next :: more =>
    if isFixed landing.container then return ()
    else do
      let made ← emptyFor next
      putInto write landing.container landing.key made
      descend write (.value made) next more v

/-- Where no reference is met, a write goes straight to where it lands. -/
theorem descend_eq_land {rest : List Segment} (direct : r.store.Direct container (key :: rest)) :
    descend write container key rest v r = land write v (r.store.landing container key rest) r := by
  induction rest generalizing container key with
  | nil => rw [descend,put_plain write direct.plain]; rfl
  | cons next rest ih =>
    have followed := direct.follow r.resolve
    unfold Store.landing
    by_cases missing : r.store.member container key = .null
    · rw [if_pos missing]
      unfold land
      dsimp only
      cases fixed : isFixed container with
      | true => exact descend_fixed write followed missing fixed next rest v
      | false =>
        rw [descend_missing write followed missing fixed]
        simp only [put_plain write direct.plain]
        rfl
    · rw [if_neg missing,descend_found write followed missing]
      exact ih (Store.direct_cons.mp direct).2

/-- A container has been made and entered for the accessors that were left, and they have been
written in it. -/
def MadeBelow (write : Address → Value → Act Unit) (v : Value) (r : Runtime) (landing : Landing)
    (after : Runtime) : Prop :=
  ∃ next more made base mid, landing.left = next :: more ∧ r.Grew base ∧ base.Closed ∧
    r.Lacks made ∧ base.Entered made landing.container landing.key mid ∧ mid.Blank next made ∧
    descend write (.value made) next more v mid = (.done (),after)

/-- A write that ends normally has been spurned where it landed, or has entered the value or a
container that was made for it. -/
theorem land_done {landing : Landing} (closed : r.Closed)
    (present : landing.container.Alike r.store.identity landing.container)
    (listed : ∀ items, landing.container ≠ .items items)
    (plain : ∀ b, r.store.member landing.container landing.key ≠ .ref b)
    (ran : land write v landing r = (.done (),after)) :
    (r.store.Spurns landing.container landing.key ∧ r.Grew after) ∨
      (¬ r.store.Spurns landing.container landing.key ∧
        ((landing.left = [] ∧ r.Entered v landing.container landing.key after) ∨
          MadeBelow write v r landing after)) := by
  unfold land at ran
  cases left : landing.left with
  | nil =>
    rw [left] at ran
    obtain ⟨spurns,rfl⟩ | entered := putInto_done listed plain ran
    · exact .inl ⟨spurns,.refl after⟩
    · exact .inr ⟨entered.not_spurns,.inl ⟨rfl,entered⟩⟩
  | cons next more =>
    rw [left] at ran
    dsimp only at ran
    split at ran
    · next fixed =>
      cases ran
      exact .inl ⟨.inl fixed,.refl r⟩
    · obtain ⟨made,s,makes,grew,blank,lacks,-,closes⟩ := emptyFor_run next r
      rw [Step.bind_done makes] at ran
      generalize ({ r with store := s } : Runtime) = base at makes grew blank closes ran
      obtain ⟨_,mid,entered,onwards⟩ := Step.done_of_bind ran
      have same := Store.member_grew closed grew present (closes closed) landing.key
      obtain ⟨spurns,rfl⟩ | entered := putInto_done listed (by rwa [same]) entered
      · obtain ⟨last,run,but,-⟩ := descend_blank write blank more v
        obtain rfl : last = after := (Prod.mk.inj (run.symm.trans onwards)).2
        exact .inl ⟨(Store.spurns_grew grew present).mp spurns,grew.trans_but but lacks⟩
      · have still : mid.Blank next made := by
          obtain ⟨shelf,a,o,t,enters,puts,rfl⟩ := entered
          obtain ⟨changed,-,here⟩ := enters.changes
          refine blank.but (.of_puts puts here) fun same => ?_
          have inside := Store.Enters.inside closed grew present enters
          exact absurd inside (Nat.not_lt.mpr (lacks shelf a (same.symm.trans here)))
        refine .inr ⟨fun spurns => ?_,.inr ⟨next,more,made,base,mid,left,grew,closes closed,lacks,
          entered,still,onwards⟩⟩
        exact entered.not_spurns ((Store.spurns_grew grew present).mpr spurns)

end Reference
end PageRuntime
