import PageRuntime.Proofs.Closed

/-! Steps that follow each other. From runtimes that are alike, two steps that do the same lead to
runtimes that are alike again: what either has made since is paired in the order it came, and nothing
else has changed than what was paired. -/
namespace PageRuntime
namespace Link

/-- The link with the objects that came between two states of a store, paired in the order they
came. -/
def extend (link : Link) (s other after : Store) : Link := fun shelf (a b : Nat) =>
  link shelf a b ∨ ∃ n, a = s.sizeOf shelf + n ∧ b = other.sizeOf shelf + n ∧ a < after.sizeOf shelf

theorem le_extend (link : Link) (s other after : Store) : link.Le (link.extend s other after) :=
  fun _ _ _ linked => .inl linked

theorem extend_of_sizes (link : Link) {s other after : Store}
    (same : ∀ shelf, after.sizeOf shelf = s.sizeOf shelf) : link.extend s other after = link := by
  funext shelf a b
  refine propext ⟨?_,.inl⟩
  rintro (linked | ⟨n,rfl,-,inside⟩)
  · exact linked
  · rw [same] at inside
    omega

theorem extend_of_adds (link : Link) {s other after : Store} {shelf : Shelf} {o : Object}
    (adds : s.Adds after shelf o) :
    link.extend s other after = link.add shelf (s.sizeOf shelf) (other.sizeOf shelf) := by
  funext k a b
  refine propext ⟨?_,?_⟩
  · rintro (linked | ⟨n,rfl,rfl,inside⟩)
    · exact .inl linked
    · by_cases here : k = shelf
      · subst here
        rw [adds.size] at inside
        obtain rfl : n = 0 := by omega
        exact .inr ⟨rfl,rfl,rfl⟩
      · rw [adds.sizes k here] at inside
        omega
  · rintro (linked | ⟨rfl,rfl,rfl⟩)
    · exact .inl linked
    · exact .inr ⟨0,rfl,rfl,by rw [adds.size]; omega⟩

end Link

namespace Store

/-- Two stores have gained as many objects as each other on every shelf. -/
def Abreast (s other after otherAfter : Store) : Prop :=
  ∀ shelf, ∃ n, after.sizeOf shelf = s.sizeOf shelf + n ∧
    otherAfter.sizeOf shelf = other.sizeOf shelf + n

theorem Abreast.trans {s other mid otherMid after otherAfter : Store}
    (first : s.Abreast other mid otherMid) (second : mid.Abreast otherMid after otherAfter) :
    s.Abreast other after otherAfter := by
  intro shelf
  obtain ⟨m,left,right⟩ := first shelf
  obtain ⟨n,leftMore,rightMore⟩ := second shelf
  exact ⟨m + n,by omega,by omega⟩

theorem Abreast.extend {s other mid otherMid after otherAfter : Store}
    (first : s.Abreast other mid otherMid) (second : mid.Abreast otherMid after otherAfter)
    (link : Link) :
    (link.extend s other mid).extend mid otherMid after = link.extend s other after := by
  funext shelf a b
  obtain ⟨m,left,right⟩ := first shelf
  obtain ⟨n,more,-⟩ := second shelf
  refine propext ⟨?_,?_⟩
  · rintro ((linked | ⟨k,rfl,rfl,inside⟩) | ⟨k,rfl,rfl,inside⟩)
    · exact .inl linked
    · exact .inr ⟨k,rfl,rfl,by omega⟩
    · exact .inr ⟨m + k,by omega,by omega,inside⟩
  · rintro (linked | ⟨k,rfl,rfl,inside⟩)
    · exact .inl (.inl linked)
    · by_cases early : k < m
      · exact .inl (.inr ⟨k,rfl,rfl,by omega⟩)
      · exact .inr ⟨k - m,by omega,by omega,inside⟩

theorem identity_extend {s after : Store} (sizes : ∀ shelf, s.sizeOf shelf ≤ after.sizeOf shelf) :
    s.identity.extend s s after = after.identity := by
  funext shelf a b
  refine propext ⟨?_,?_⟩
  · rintro (⟨rfl,inside⟩ | ⟨n,rfl,rfl,inside⟩)
    · exact ⟨rfl,Nat.lt_of_lt_of_le inside (sizes shelf)⟩
    · exact ⟨rfl,inside⟩
  · rintro ⟨rfl,inside⟩
    by_cases early : a < s.sizeOf shelf
    · exact .inl ⟨rfl,early⟩
    · have late := (Nat.add_sub_of_le (Nat.le_of_not_lt early)).symm
      exact .inr ⟨a - s.sizeOf shelf,late,late,inside⟩

/-- No object has changed but those that the link pairs. -/
def OnlyWithin (link : Link) (s after : Store) : Prop := ∀ shelf (a : Nat), a < s.sizeOf shelf →
  (∀ b, ¬ link shelf a b) → after.object shelf a = s.object shelf a

theorem OnlyWithin.of_grew {s after : Store} (grew : s.Grew after) (link : Link) :
    OnlyWithin link s after := fun shelf a inside _ => (grew shelf a inside).2

theorem OnlyWithin.of_puts {link : Link} {s after : Store} {shelf : Shelf} {a b : Address}
    {o : Object} (puts : s.Puts after shelf a o) (linked : link shelf a b) :
    OnlyWithin link s after := by
  intro k c inside unpaired
  refine puts.others k c (Classical.not_and_iff_not_or_not.mp fun same => ?_)
  obtain ⟨rfl,rfl⟩ := same
  exact unpaired b linked

theorem OnlyWithin.trans {link : Link} {s other mid otherMid after : Store}
    (paced : s.Abreast other mid otherMid) (first : OnlyWithin link s mid)
    (second : OnlyWithin (link.extend s other mid) mid after) : OnlyWithin link s after := by
  intro shelf a inside unpaired
  obtain ⟨n,wider,-⟩ := paced shelf
  refine (second shelf a (by omega) ?_).trans (first shelf a inside unpaired)
  rintro b (linked | ⟨k,rfl,-,-⟩)
  · exact unpaired b linked
  · omega

end Store

namespace Runtime

/-- Runtimes that are alike and have as many handles. -/
structure Twin (link : Link) (r other : Runtime) : Prop where
  alike : r.Alike link other
  handles : r.store.handles.size = other.store.handles.size

theorem Closed.twin {r : Runtime} (closed : r.Closed) : r.Twin r.store.identity r := ⟨closed,rfl⟩

theorem Twin.journal {link : Link} {r other : Runtime} (twin : r.Twin link other)
    (entries otherEntries : Array Entry) :
    ({ r with journal := entries } : Runtime).Twin link { other with journal := otherEntries } :=
  ⟨⟨twin.alike.store,twin.alike.roots,twin.alike.document,twin.alike.surroundings⟩,twin.handles⟩

/-- Both runtimes have gone on to runtimes that are alike, changing nothing that was not paired. -/
structure Onward (link : Link) (r other after otherAfter : Runtime) : Prop where
  paced : r.store.Abreast other.store after.store otherAfter.store
  only : Store.OnlyWithin link r.store after.store
  twin : after.Twin (link.extend r.store other.store after.store) otherAfter

namespace Onward

variable {link : Link} {r other mid otherMid after otherAfter : Runtime}

/-- Runtimes with the same stores are onward of each other. -/
theorem of_stores (store : after.store = r.store) (otherStore : otherAfter.store = other.store)
    (twin : after.Twin link otherAfter) : Onward link r other after otherAfter where
  paced shelf := ⟨0,by rw [store]; rfl,by rw [otherStore]; rfl⟩
  only shelf a inside _ := by rw [store]
  twin := by
    rw [link.extend_of_sizes fun shelf => by rw [store]]
    exact twin

theorem refl (twin : r.Twin link other) : Onward link r other r other := .of_stores rfl rfl twin

theorem trans (first : Onward link r other mid otherMid)
    (second : Onward (link.extend r.store other.store mid.store) mid otherMid after otherAfter) :
    Onward link r other after otherAfter where
  paced := first.paced.trans second.paced
  only := first.only.trans first.paced second.only
  twin := by
    rw [← first.paced.extend second.paced]
    exact second.twin

theorem of_puts (twin : r.Twin link other) {s otherStore : Store} {shelf : Shelf} {a b : Address}
    {o p : Object} (linked : link shelf a b) (puts : r.store.Puts s shelf a o)
    (otherPuts : other.store.Puts otherStore shelf b p) (notScope : Shelf.scope ≠ shelf)
    (new : o.Alike link p) :
    Onward link r other { r with store := s } { other with store := otherStore } where
  paced k := ⟨0,puts.sizes k,otherPuts.sizes k⟩
  only := .of_puts puts linked
  twin := by
    rw [link.extend_of_sizes puts.sizes]
    have store := twin.alike.store.of_puts linked puts otherPuts notScope new
    refine ⟨⟨store,twin.alike.roots,twin.alike.document,twin.alike.surroundings⟩,?_⟩
    exact (puts.sizes .handle).trans (twin.handles.trans (otherPuts.sizes .handle).symm)

theorem of_adds (twin : r.Twin link other) {s otherStore : Store} {shelf : Shelf} {o p : Object}
    (adds : r.store.Adds s shelf o) (otherAdds : other.store.Adds otherStore shelf p)
    (ordered : s.Ordered) (otherOrdered : otherStore.Ordered)
    (new : o.Alike (link.add shelf (r.store.sizeOf shelf) (other.store.sizeOf shelf)) p) :
    Onward link r other { r with store := s } { other with store := otherStore } where
  paced k := by
    by_cases here : k = shelf
    · subst here
      exact ⟨1,adds.size,otherAdds.size⟩
    · exact ⟨0,adds.sizes k here,otherAdds.sizes k here⟩
  only := .of_grew (.of_adds adds) link
  twin := by
    rw [link.extend_of_adds adds]
    have store := twin.alike.store.of_adds adds otherAdds ordered otherOrdered new
    have le := link.le_add shelf (r.store.sizeOf shelf) (other.store.sizeOf shelf)
    refine ⟨⟨store,twin.alike.roots.imp fun _ _ one => ⟨one.1,one.2.mono le⟩,
      le.option twin.alike.document,twin.alike.surroundings⟩,?_⟩
    have handles : r.store.sizeOf .handle = other.store.sizeOf .handle := twin.handles
    show s.sizeOf .handle = otherStore.sizeOf .handle
    by_cases here : Shelf.handle = shelf
    · subst here
      rw [adds.size,otherAdds.size,handles]
    · rw [adds.sizes _ here,otherAdds.sizes _ here,handles]

/-- What a step makes of a closed runtime is closed. -/
theorem closed (onward : Onward r.store.identity r r after after) : after.Closed := by
  have twin := onward.twin
  rw [Store.identity_extend fun shelf => ?_] at twin
  · exact twin.alike
  · obtain ⟨n,size,-⟩ := onward.paced shelf
    omega

end Onward
end Runtime

namespace Step

variable {σ α β : Type} {first : Step σ α} {next : α → Step σ β} {state after : σ}

theorem done_of_bind {y : β} (ran : (first >>= next) state = (.done y,after)) :
    ∃ x mid, first state = (.done x,mid) ∧ next x mid = (.done y,after) := by
  rw [bind_run] at ran
  split at ran
  · next x mid here => exact ⟨x,mid,here,ran⟩
  · cases ran
  · cases ran

theorem raised_of_bind {failure : Address}
    (ran : (first >>= next) state = (.raised failure,after)) :
    first state = (.raised failure,after) ∨
      ∃ x mid, first state = (.done x,mid) ∧ next x mid = (.raised failure,after) := by
  rw [bind_run] at ran
  split at ran
  · next x mid here => exact .inr ⟨x,mid,here,ran⟩
  · next f mid here =>
    cases ran
    exact .inl here
  · cases ran

end Step

/-- Both have ended with values, and these are related, or both with failures, and so are these. -/
inductive Outcome.Alike {α β : Type} (rel : α → β → Prop) (failures : Address → Address → Prop) :
    Outcome α → Outcome β → Prop
  | done {x : α} {y : β} (related : rel x y) : Alike rel failures (.done x) (.done y)
  | raised {failure otherFailure : Address} (linked : failures failure otherFailure) :
      Alike rel failures (.raised failure) (.raised otherFailure)
  | exhausted : Alike rel failures .exhausted .exhausted

theorem Outcome.Alike.imp {α β : Type} {rel more : α → β → Prop}
    {failures moreFailures : Address → Address → Prop} {ending : Outcome α} {otherEnding : Outcome β}
    (alike : ending.Alike rel failures otherEnding) (values : ∀ x y, rel x y → more x y)
    (faults : ∀ f g, failures f g → moreFailures f g) :
    ending.Alike more moreFailures otherEnding := by
  cases alike with
  | done related => exact .done (values _ _ related)
  | raised linked => exact .raised (faults _ _ linked)
  | exhausted => exact .exhausted

namespace Act
open PageRuntime.Runtime (Twin Onward)

variable {α β γ δ : Type} {link : Link} {r other : Runtime}

/-- If one step ends with a value then so does the other, with a related one, in runtimes that are
alike. -/
def Follows (link : Link) (r other : Runtime) (rel : Link → α → β → Prop) (act : Act α)
    (otherAct : Act β) : Prop :=
  ∀ x after, act r = (.done x,after) → ∃ y otherAfter, otherAct other = (.done y,otherAfter) ∧
    Onward link r other after otherAfter ∧
    rel (link.extend r.store other.store after.store) x y

namespace Follows

variable {rel : Link → α → β → Prop} {relNext : Link → γ → δ → Prop}

theorem pure (twin : r.Twin link other) {x : α} {y : β} (related : rel link x y) :
    Follows link r other rel (Pure.pure x) (Pure.pure y) := by
  rintro _ _ ⟨⟩
  refine ⟨y,other,rfl,.refl twin,?_⟩
  rw [link.extend_of_sizes fun _ => rfl]
  exact related

theorem bind {act : Act α} {otherAct : Act β} {next : α → Act γ} {otherNext : β → Act δ}
    (first : Follows link r other rel act otherAct)
    (later : ∀ mid otherMid x y, Onward link r other mid otherMid →
      rel (link.extend r.store other.store mid.store) x y →
      Follows (link.extend r.store other.store mid.store) mid otherMid relNext (next x)
        (otherNext y)) :
    Follows link r other relNext (act >>= next) (otherAct >>= otherNext) := by
  intro z after ran
  obtain ⟨x,mid,ranFirst,ranNext⟩ := Step.done_of_bind ran
  obtain ⟨y,otherMid,otherFirst,onward,related⟩ := first x mid ranFirst
  obtain ⟨w,otherAfter,otherRan,further,relatedNext⟩ :=
    later mid otherMid x y onward related z after ranNext
  refine ⟨w,otherAfter,(Step.bind_done otherFirst).trans otherRan,onward.trans further,?_⟩
  rw [← onward.paced.extend further.paced]
  exact relatedNext

theorem fail (fault : Fault) (otherAct : Act β) :
    Follows link r other rel (Act.fail fault) otherAct := by
  rintro x after ⟨⟩

theorem ofExcept (twin : r.Twin link other) {result : Except Fault α} {otherResult : Except Fault β}
    (agree : Agree (rel link) result otherResult) :
    Follows link r other rel (Act.ofExcept result) (Act.ofExcept otherResult) := by
  cases agree with
  | ok related => exact pure twin related
  | error fault => exact fail fault _

theorem store {next : Store → Act γ} {otherNext : Store → Act δ}
    (later : Follows link r other relNext (next r.store) (otherNext other.store)) :
    Follows link r other relNext (Act.store >>= next) (Act.store >>= otherNext) := later

theorem read {next : Runtime → Act γ} {otherNext : Runtime → Act δ}
    (later : Follows link r other relNext (next r) (otherNext other)) :
    Follows link r other relNext (Step.read >>= next) (Step.read >>= otherNext) := later

/-- Making objects of one form that hold paired objects. -/
theorem make (twin : r.Twin link other) {change : Store → α × Store} {otherChange : Store → β × Store}
    {shelf : Shelf} {o p : Object} (adds : r.store.Adds (change r.store).2 shelf o)
    (otherAdds : other.store.Adds (otherChange other.store).2 shelf p)
    (notScope : Shelf.scope ≠ shelf)
    (new : o.Alike (link.add shelf (r.store.sizeOf shelf) (other.store.sizeOf shelf)) p)
    (related : rel (link.add shelf (r.store.sizeOf shelf) (other.store.sizeOf shelf))
      (change r.store).1 (otherChange other.store).1) :
    Follows link r other rel (Act.make change) (Act.make otherChange) := by
  rintro _ _ ⟨⟩
  refine ⟨_,_,rfl,.of_adds twin adds otherAdds (twin.alike.store.ordered.of_adds adds notScope)
    (twin.alike.store.otherOrdered.of_adds otherAdds notScope) new,?_⟩
  show rel (link.extend r.store other.store (change r.store).2) _ _
  rw [link.extend_of_adds adds]
  exact related

theorem newList (twin : r.Twin link other) {items others : List Value}
    (alike : Values.Alike link items others) :
    Follows link r other Value.Alike (Act.make (·.newList items)) (Act.make (·.newList others)) :=
  make twin (r.store.newList_adds items) (other.store.newList_adds others) nofun
    (.items (alike.mono (link.le_add _ _ _))) (.list (link.add_self _ _ _))

theorem newDict (twin : r.Twin link other) {d otherDict : Dict} (alike : d.Alike link otherDict) :
    Follows link r other Value.Alike (Act.make (·.newDict d)) (Act.make (·.newDict otherDict)) :=
  make twin (r.store.newDict_adds d) (other.store.newDict_adds otherDict) nofun
    (.entries (Dict.Alike.mono (link.le_add _ _ _) alike)) (.dict (link.add_self _ _ _))

theorem newBlob (twin : r.Twin link other) {b otherBlob : Blob} (alike : b.Alike link otherBlob) :
    Follows link r other Value.Alike (Act.make (·.newBlob b)) (Act.make (·.newBlob otherBlob)) :=
  make twin (r.store.newBlob_adds b) (other.store.newBlob_adds otherBlob) nofun
    (.blob ⟨alike.mediaType.mono (link.le_add _ _ _),alike.data⟩) (.blob (link.add_self _ _ _))

theorem newContext (twin : r.Twin link other) {a b : Address} (linked : link .scope a b) :
    Follows link r other Value.Alike (Act.make (·.newContext a)) (Act.make (·.newContext b)) :=
  make twin (r.store.newContext_adds a) (other.store.newContext_adds b) nofun
    (.context (.inl linked)) (.context (link.add_self _ _ _))

/-- A step that does the same on both sides leaves a closed runtime closed. -/
theorem closed (act : Act α) {rel : Link → α → α → Prop}
    (follows : Follows r.store.identity r r rel act act)
    {x : α} {after : Runtime} (ran : act r = (.done x,after)) :
    after.Closed ∧ rel after.store.identity x x := by
  obtain ⟨y,otherAfter,otherRan,onward,related⟩ := follows x after ran
  obtain ⟨same,rfl⟩ := Prod.mk.inj (ran.symm.trans otherRan)
  obtain rfl := Outcome.done.inj same
  refine ⟨onward.closed,?_⟩
  rw [Store.identity_extend fun shelf => ?_] at related
  · exact related
  · obtain ⟨n,size,-⟩ := onward.paced shelf
    omega

end Follows

/-- Whichever way one step ends, so does the other: with related values or with failures of one fault, in
runtimes that are alike. -/
def Matches (link : Link) (r other : Runtime) (rel : Link → α → β → Prop) (act : Act α)
    (otherAct : Act β) : Prop :=
  ∀ ending after, act r = (ending,after) → ∃ otherEnding otherAfter,
    otherAct other = (otherEnding,otherAfter) ∧ Onward link r other after otherAfter ∧
      ending.Alike (rel (link.extend r.store other.store after.store))
        (link.extend r.store other.store after.store .failure) otherEnding

namespace Matches

variable {rel : Link → α → β → Prop} {relNext : Link → γ → δ → Prop}

theorem follows {act : Act α} {otherAct : Act β} (same : Matches link r other rel act otherAct) :
    Follows link r other rel act otherAct := by
  intro x after ran
  obtain ⟨_,otherAfter,otherRan,onward,ends⟩ := same _ after ran
  cases ends with
  | done related => exact ⟨_,otherAfter,otherRan,onward,related⟩

/-- For a step that ends with a value it is enough that the other follows. -/
theorem of_follows {act : Act α} {otherAct : Act β} (follows : Follows link r other rel act otherAct)
    (ends : ∃ x after, act r = (.done x,after)) : Matches link r other rel act otherAct := by
  intro ending after ran
  obtain ⟨x,last,done⟩ := ends
  cases done.symm.trans ran
  obtain ⟨y,otherAfter,otherRan,onward,related⟩ := follows x _ done
  exact ⟨_,otherAfter,otherRan,onward,.done related⟩

theorem pure (twin : r.Twin link other) {x : α} {y : β} (related : rel link x y) :
    Matches link r other rel (Pure.pure x) (Pure.pure y) := .of_follows (.pure twin related) ⟨x,r,rfl⟩

theorem bind {act : Act α} {otherAct : Act β} {next : α → Act γ} {otherNext : β → Act δ}
    (first : Matches link r other rel act otherAct)
    (later : ∀ mid otherMid x y, Onward link r other mid otherMid →
      rel (link.extend r.store other.store mid.store) x y →
      Matches (link.extend r.store other.store mid.store) mid otherMid relNext (next x)
        (otherNext y)) :
    Matches link r other relNext (act >>= next) (otherAct >>= otherNext) := by
  intro ending after ran
  rw [Step.bind_run] at ran
  cases began : act r with
  | mk result mid =>
    obtain ⟨otherResult,otherMid,otherFirst,onward,ends⟩ := first result mid began
    rw [began] at ran
    cases ends with
    | done related =>
      obtain ⟨otherEnding,otherAfter,otherRan,further,ends⟩ :=
        later mid otherMid _ _ onward related ending after ran
      refine ⟨otherEnding,otherAfter,(Step.bind_done otherFirst).trans otherRan,onward.trans further,?_⟩
      rw [← onward.paced.extend further.paced]
      exact ends
    | raised linked =>
      cases ran
      exact ⟨_,otherMid,Step.bind_raised otherFirst,onward,.raised linked⟩
    | exhausted =>
      cases ran
      exact ⟨_,otherMid,Step.bind_exhausted otherFirst,onward,.exhausted⟩

theorem fail (twin : r.Twin link other) (fault : Fault) :
    Matches link r other rel (Act.fail fault) (Act.fail fault) := by
  intro ending after ran
  rw [fail_run] at ran
  cases ran
  have adds := r.store.newFailure_adds ⟨fault,none,none⟩
  have otherAdds := other.store.newFailure_adds ⟨fault,none,none⟩
  refine ⟨_,_,fail_run fault other,.of_adds twin adds otherAdds
    (twin.alike.store.ordered.of_adds adds nofun) (twin.alike.store.otherOrdered.of_adds otherAdds nofun)
    (.failure ⟨rfl,.none,.none⟩),.raised ?_⟩
  show link.extend r.store other.store (r.store.newFailure ⟨fault,none,none⟩).2 .failure _ _
  rw [link.extend_of_adds adds]
  exact link.add_self _ _ _

theorem ofExcept (twin : r.Twin link other) {result : Except Fault α} {otherResult : Except Fault β}
    (agree : Agree (rel link) result otherResult) :
    Matches link r other rel (Act.ofExcept result) (Act.ofExcept otherResult) := by
  cases agree with
  | ok related => exact pure twin related
  | error fault => exact fail twin fault

theorem store {next : Store → Act γ} {otherNext : Store → Act δ}
    (later : Matches link r other relNext (next r.store) (otherNext other.store)) :
    Matches link r other relNext (Act.store >>= next) (Act.store >>= otherNext) := later

theorem read {next : Runtime → Act γ} {otherNext : Runtime → Act δ}
    (later : Matches link r other relNext (next r) (otherNext other)) :
    Matches link r other relNext (Step.read >>= next) (Step.read >>= otherNext) := later

theorem newList (twin : r.Twin link other) {items others : List Value}
    (alike : Values.Alike link items others) :
    Matches link r other Value.Alike (Act.make (·.newList items)) (Act.make (·.newList others)) :=
  .of_follows (.newList twin alike) ⟨_,_,rfl⟩

theorem newDict (twin : r.Twin link other) {d otherDict : Dict} (alike : d.Alike link otherDict) :
    Matches link r other Value.Alike (Act.make (·.newDict d)) (Act.make (·.newDict otherDict)) :=
  .of_follows (.newDict twin alike) ⟨_,_,rfl⟩

/-- A step that does the same on both sides leaves a closed runtime closed, whichever way it ends. -/
theorem closed (act : Act α) {rel : Link → α → α → Prop}
    (same : Matches r.store.identity r r rel act act) {ending : Outcome α} {after : Runtime}
    (ran : act r = (ending,after)) : after.Closed := by
  obtain ⟨otherEnding,otherAfter,otherRan,onward,-⟩ := same ending after ran
  obtain ⟨-,rfl⟩ := Prod.mk.inj (ran.symm.trans otherRan)
  exact onward.closed

end Matches

/-- As `Matches`, for steps that write one value and another: unless those are alike, it is only known
that both end alike and that nothing has changed but what was paired. -/
def Ensues (link : Link) (r other : Runtime) (same : Prop) (act otherAct : Act Unit) : Prop :=
  ∀ ending after, act r = (ending,after) → ∃ otherEnding otherAfter,
    otherAct other = (otherEnding,otherAfter) ∧ Store.OnlyWithin link r.store after.store ∧
      (same → Onward link r other after otherAfter) ∧
        ending.Alike (fun _ _ => True)
          (fun f g => same → link.extend r.store other.store after.store .failure f g) otherEnding

namespace Ensues

variable {same : Prop} {act otherAct : Act Unit}

theorem of_matches (same : Prop) {rel : Link → Unit → Unit → Prop}
    (matched : Matches link r other rel act otherAct) : Ensues link r other same act otherAct := by
  intro ending after ran
  obtain ⟨otherEnding,otherAfter,otherRan,onward,ends⟩ := matched ending after ran
  exact ⟨otherEnding,otherAfter,otherRan,onward.only,fun _ => onward,
    ends.imp (fun _ _ _ => trivial) fun _ _ linked _ => linked⟩

theorem matched (ensues : Ensues link r other same act otherAct) (alike : same) :
    Matches link r other (fun _ _ _ => True) act otherAct := by
  intro ending after ran
  obtain ⟨otherEnding,otherAfter,otherRan,-,onward,ends⟩ := ensues ending after ran
  exact ⟨otherEnding,otherAfter,otherRan,onward alike,
    ends.imp (fun _ _ _ => trivial) fun _ _ linked => linked alike⟩

theorem follows (ensues : Ensues link r other same act otherAct) (alike : same) :
    Follows link r other (fun _ _ _ => True) act otherAct := (ensues.matched alike).follows

theorem pure (twin : r.Twin link other) :
    Ensues link r other same (Pure.pure ()) (Pure.pure ()) :=
  .of_matches same (.pure twin trivial : Matches link r other (fun _ _ _ => True) _ _)

theorem fail (twin : r.Twin link other) (fault : Fault) :
    Ensues link r other same (Act.fail fault) (Act.fail fault) :=
  .of_matches same (.fail twin fault : Matches link r other (fun _ _ _ => True) _ _)

theorem bind {rel : Link → α → β → Prop} {act : Act α} {otherAct : Act β} {next : α → Act Unit}
    {otherNext : β → Act Unit} (first : Matches link r other rel act otherAct)
    (later : ∀ mid otherMid x y, Onward link r other mid otherMid →
      rel (link.extend r.store other.store mid.store) x y →
      Ensues (link.extend r.store other.store mid.store) mid otherMid same (next x) (otherNext y)) :
    Ensues link r other same (act >>= next) (otherAct >>= otherNext) := by
  intro ending after ran
  rw [Step.bind_run] at ran
  cases began : act r with
  | mk result mid =>
    obtain ⟨otherResult,otherMid,otherFirst,onward,ends⟩ := first result mid began
    rw [began] at ran
    cases ends with
    | done related =>
      obtain ⟨otherEnding,otherAfter,otherRan,only,further,ends⟩ :=
        later mid otherMid _ _ onward related ending after ran
      refine ⟨otherEnding,otherAfter,(Step.bind_done otherFirst).trans otherRan,
        onward.only.trans onward.paced only,fun alike => onward.trans (further alike),
        ends.imp (fun _ _ => id) fun f g linked alike => ?_⟩
      rw [← onward.paced.extend (further alike).paced]
      exact linked alike
    | raised linked =>
      cases ran
      exact ⟨_,otherMid,Step.bind_raised otherFirst,onward.only,fun _ => onward,.raised fun _ => linked⟩
    | exhausted =>
      cases ran
      exact ⟨_,otherMid,Step.bind_exhausted otherFirst,onward.only,fun _ => onward,.exhausted⟩

theorem store {next otherNext : Store → Act Unit}
    (later : Ensues link r other same (next r.store) (otherNext other.store)) :
    Ensues link r other same (Act.store >>= next) (Act.store >>= otherNext) := later

theorem read {next otherNext : Runtime → Act Unit}
    (later : Ensues link r other same (next r) (otherNext other)) :
    Ensues link r other same (Step.read >>= next) (Step.read >>= otherNext) := later

theorem update (twin : r.Twin link other) {change otherChange : Store → Store} {shelf : Shelf}
    {a b : Address} {o p : Object} (linked : link shelf a b)
    (puts : r.store.Puts (change r.store) shelf a o)
    (otherPuts : other.store.Puts (otherChange other.store) shelf b p)
    (notScope : Shelf.scope ≠ shelf) (new : same → o.Alike link p) :
    Ensues link r other same (Act.update change) (Act.update otherChange) := by
  rintro _ _ ⟨⟩
  exact ⟨_,_,rfl,.of_puts puts linked,fun alike =>
    .of_puts twin linked puts otherPuts notScope (new alike),.done trivial⟩

end Ensues
end Act
end PageRuntime
