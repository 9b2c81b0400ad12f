import PageRuntime.Proofs.Blank
import PageRuntime.Proofs.Following

/-! Writing in runtimes that are alike. What is written through a handle in one is written through
the paired handle in the other, whether or not the values are alike; if they are, so are the runtimes
that are left. -/
namespace PageRuntime

theorem List.set_alike {α β : Type} {rel : α → β → Prop} {xs : List α} {ys : List β}
    (alike : List.Forall₂ rel xs ys) (place : Nat) {x : α} {y : β} (same : rel x y) :
    List.Forall₂ rel (xs.set place x) (ys.set place y) := by
  induction alike generalizing place with
  | nil => exact .nil
  | cons one rest ih =>
    cases place with
    | zero => exact .cons same rest
    | succ place => exact .cons one (ih place)

theorem Runtime.Alike.isLocked {link : Link} {r other : Runtime} (alike : r.Alike link other)
    (name : String) : other.isLocked name = r.isLocked name := by
  unfold Runtime.isLocked
  rw [alike.lockedRoots]

theorem Store.Alike.typeName {link : Link} {s other : Store} (alike : s.Alike link other) {v w : Value}
    (same : v.Alike link w) : other.typeName w = s.typeName v := by
  cases same with
  | @ref a b linked =>
    have held := alike.handleAt linked
    simp only [Store.typeName]
    revert held
    generalize s.handleAt a = handle
    generalize other.handleAt b = otherHandle
    intro held
    cases held <;> rfl
  | @failure a b linked =>
    have held : Object.Alike link (.failure (s.failureAt a)) (.failure (other.failureAt b)) :=
      alike.objects _ _ _ linked
    cases held with
    | failure held => exact congrArg Fault.className held.fault.symm
  | _ => rfl

namespace Reference
open PageRuntime.Runtime (Twin Onward)
open PageRuntime.Act (Matches Ensues)

variable {link : Link} {r other : Runtime}

theorem isFixed_alike {spot otherSpot : Spot} (alike : spot.Alike link otherSpot) :
    isFixed otherSpot = isFixed spot := by
  cases alike with
  | bindings linked => rfl
  | items alike => rfl
  | value alike => cases alike <;> rfl

section Reading

variable (twin : r.Twin link other)
include twin

theorem emptyFor_matches (key : Segment) :
    Matches link r other Value.Alike (emptyFor key) (emptyFor key) := by
  cases key with
  | index place => exact .newList twin .nil
  | field name => exact .newDict twin .nil

theorem root_matches {scope otherScope : Address} (linked : link .scope scope otherScope)
    (path : Path) : Matches link r other Spot.Alike (root scope path) (root otherScope path) :=
  .read (.ofExcept twin (twin.alike.rootSpot linked path.root))

theorem settle_matches {spot otherSpot : Spot} (alike : spot.Alike link otherSpot) :
    Matches link r other Spot.Alike (settle spot) (settle otherSpot) :=
  .read (.ofExcept twin (alike.follow fun _ _ => twin.alike.resolve))

theorem step_matches {spot otherSpot : Spot} (alike : spot.Alike link otherSpot) (key : Segment) :
    Matches link r other Value.Alike (step spot key) (step otherSpot key) :=
  .read (.ofExcept twin (alike.step (fun _ _ => twin.alike.resolve) twin.alike.store key))

theorem read_matches {a b : Address} (linked : link .handle a b) :
    Matches link r other Spot.Alike (read a) (read b) :=
  .read (.ofExcept twin (twin.alike.readReference linked))

theorem isLocked_matches (path : Path) (locked : Bool) :
    Matches link r other (fun _ => Eq) (isLocked path locked) (isLocked path locked) := by
  unfold isLocked
  split
  · exact .pure twin rfl
  · cases path.root.kind.dataRoot? with
    | none => exact .pure twin rfl
    | some name =>
      refine .read ?_
      rw [twin.alike.alive,twin.alike.isLocked]
      split
      · exact .pure twin rfl
      · exact .fail twin _

theorem debugLine_matches (text : String) :
    Matches link r other (fun _ _ _ => True) (debugLine text) (debugLine text) := by
  intro ending after ran
  obtain ⟨entries,here⟩ := debugLine_run text r
  obtain ⟨otherEntries,there⟩ := debugLine_run text other
  cases here.symm.trans ran
  exact ⟨_,_,there,.of_stores rfl rfl (twin.journal _ _),.done trivial⟩

end Reading

section Writing

variable {write otherWrite : Address → Value → Act Unit}

/-- Writing through paired handles. -/
def Writes (write otherWrite : Address → Value → Act Unit) : Prop :=
  ∀ (same : Prop) (link : Link) (r other : Runtime) (a b : Address) (v w : Value),
    r.Twin link other → link .handle a b → (same → v.Alike link w) →
      Ensues link r other same (write a v) (otherWrite b w)

variable (writes : Writes write otherWrite) (twin : r.Twin link other) {same : Prop} {v w : Value}
  (alike : same → v.Alike link w)
include writes twin alike

theorem putBinding_ensues {scope otherScope : Address} (linked : link .scope scope otherScope)
    (key : Segment) :
    Ensues link r other same (putBinding write scope key v) (putBinding otherWrite otherScope key w) := by
  have sets : Ensues link r other same (Context.set scope (.text key.bindingName) (.str key.bindingName) v)
      (Context.set otherScope (.text key.bindingName) (.str key.bindingName) w) := by
    have specials := (twin.alike.store.scopeAt linked).specials
    refine .update twin specials (r.store.putDict_puts _ _) (other.store.putDict_puts _ _) nofun
      fun here => .entries ?_
    exact insert_alike twin.alike.store.paired (twin.alike.store.dictAt specials) (Key.text_alike _ _)
      (.str _) (alike here)
  have held := twin.alike.store.contextKey linked (Key.text_alike link key.bindingName)
  unfold putBinding
  refine .store ?_
  revert held
  generalize r.store.contextKey scope (.text key.bindingName) = found
  generalize other.store.contextKey otherScope (.text key.bindingName) = otherFound
  intro held
  cases held with
  | ref linked => exact writes same link r other _ _ v w twin linked alike
  | _ => exact sets

theorem putEntry_ensues {a b : Address} (linked : link .dict a b) (key : Segment) :
    Ensues link r other same (putEntry write a key v) (putEntry otherWrite b key w) := by
  have entries := twin.alike.store.dictAt linked
  have enters : Ensues link r other same
      (Act.update (·.putDict a ((r.store.dictAt a).insert key.key key.value v)))
      (Act.update (·.putDict b ((other.store.dictAt b).insert key.key key.value w))) := by
    refine .update twin linked (r.store.putDict_puts _ _) (other.store.putDict_puts _ _) nofun
      fun here => .entries ?_
    refine insert_alike twin.alike.store.paired entries (key.key_alike _) ?_ (alike here)
    cases key with
    | field name => exact .str name
    | index place => exact .int place
  have held := Dict.get_alike twin.alike.store.paired entries (key.key_alike link)
  unfold putEntry
  refine .store ?_
  revert held
  generalize (r.store.dictAt a).get key.key = found
  generalize (other.store.dictAt b).get key.key = otherFound
  intro held
  cases held with
  | ref linked => exact writes same link r other _ _ v w twin linked alike
  | _ => exact enters

theorem putItem_ensues {items others : List Value} (values : Values.Alike link items others)
    {store otherStore : List Value → Act Unit}
    (stores : ∀ xs ys, (same → Values.Alike link xs ys) →
      Ensues link r other same (store xs) (otherStore ys)) (key : Segment) :
    Ensues link r other same (putItem write items store key v)
      (putItem otherWrite others otherStore key w) := by
  cases key with
  | field name => exact .fail twin _
  | index place =>
    unfold putItem
    dsimp only
    rw [← values.length_eq]
    cases placeOf? items.length place with
    | none =>
      dsimp only
      split
      · exact .pure twin
      · exact stores _ _ fun here => extended_alike values _ (alike here)
    | some place =>
      have stored := stores (items.set place v) (others.set place w) fun here =>
        List.set_alike values place (alike here)
      have held := List.getElem?_alike values place
      dsimp only
      revert held
      generalize items[place]? = found
      generalize others[place]? = otherFound
      intro held
      cases held with
      | none => exact stored
      | some held =>
        cases held with
        | ref linked => exact writes same link r other _ _ v w twin linked alike
        | _ => exact stored

theorem putInto_ensues {container otherContainer : Spot}
    (into : container.Alike link otherContainer) (key : Segment) :
    Ensues link r other same (putInto write container key v) (putInto otherWrite otherContainer key w) := by
  have listed {a b : Address} (linked : link .list a b) : Ensues link r other same
      (putItem write (r.store.listAt a) (fun items => Act.update (·.putList a items)) key v)
      (putItem otherWrite (other.store.listAt b) (fun items => Act.update (·.putList b items)) key w) :=
    putItem_ensues writes twin alike (twin.alike.store.listAt linked) (fun xs ys same =>
      .update twin linked (r.store.putList_puts _ _) (other.store.putList_puts _ _) nofun
        fun here => .items (same here)) key
  unfold putInto
  refine .store ?_
  cases into with
  | bindings linked => exact putBinding_ensues writes twin alike linked key
  | items values => exact putItem_ensues writes twin alike values (fun _ _ _ => .pure twin) key
  | @value x y into =>
    have fails : Ensues link r other same
        (Act.fail (.write (.notContainer (keyShown key) (r.store.typeName x))))
        (Act.fail (.write (.notContainer (keyShown key) (other.store.typeName y)))) := by
      rw [twin.alike.store.typeName into]
      exact .fail twin _
    cases into with
    | context linked =>
      exact putBinding_ensues writes twin alike (twin.alike.store.contextAt linked) key
    | dict linked => exact putEntry_ensues writes twin alike linked key
    | list linked => exact listed linked
    | tuple linked => exact .pure twin
    | frozen linked => exact .pure twin
    | fset linked => exact .pure twin
    | _ => exact fails

omit alike in
theorem opened_matches {a b : Address} (linked : link .handle a b) {reading otherReading : Act Spot}
    (reads : ∀ more mid otherMid, link.Le more → Twin more mid otherMid →
      Matches more mid otherMid Spot.Alike reading otherReading) (key : Segment) :
    Matches link r other Spot.Alike (opened write a reading key)
      (opened otherWrite b otherReading key) := by
  refine (reads link r other (.refl _) twin).bind fun mid otherMid found otherFound onward met => ?_
  by_cases missing : found = .null
  · rw [if_pos missing,if_pos (met.null_iff.mp missing)]
    refine (emptyFor_matches onward.twin key).bind fun mid' otherMid' made otherMade further same => ?_
    have le := (link.le_extend r.store other.store mid.store).trans
      (Link.le_extend _ mid.store otherMid.store mid'.store)
    refine ((writes True _ _ _ a b made otherMade further.twin (le _ _ _ linked)
      fun _ => same).matched trivial).bind fun last otherLast _ _ onwards _ => ?_
    exact reads _ _ _ (le.trans (Link.le_extend _ _ _ _)) onwards.twin
  · rw [if_neg missing,if_neg (mt met.null_iff.mpr missing)]
    exact .pure onward.twin met

theorem put_ensues {container otherContainer : Spot} (into : container.Alike link otherContainer)
    (key : Segment) :
    Ensues link r other same (put write container key v) (put otherWrite otherContainer key w) := by
  by_cases behind : ∃ a b, container = .value (.ref a) ∧ otherContainer = .value (.ref b) ∧
      link .handle a b
  · obtain ⟨a,b,rfl,rfl,linked⟩ := behind
    refine .bind (opened_matches writes twin linked (fun more mid otherMid le twin =>
      settle_matches twin (.value (.ref (le _ _ _ linked)))) key) fun mid otherMid x y onward met => ?_
    by_cases missing : x = .null
    · rw [if_pos missing,if_pos (met.null_iff.mp missing)]
      exact .pure onward.twin
    · rw [if_neg missing,if_neg (mt met.null_iff.mpr missing)]
      exact putInto_ensues writes onward.twin (fun here => (alike here).mono (link.le_extend _ _ _))
        met key
  · have plain : put write container key v = putInto write container key v ∧
        put otherWrite otherContainer key w = putInto otherWrite otherContainer key w := by
      cases into with
      | bindings linked => exact ⟨rfl,rfl⟩
      | items values => exact ⟨rfl,rfl⟩
      | value into =>
        cases into with
        | ref linked => exact absurd ⟨_,_,rfl,rfl,linked⟩ behind
        | _ => exact ⟨rfl,rfl⟩
    rw [plain.1,plain.2]
    exact putInto_ensues writes twin alike into key

theorem descend_ensues (rest : List Segment) {container otherContainer : Spot}
    (into : container.Alike link otherContainer) (key : Segment) :
    Ensues link r other same (descend write container key rest v)
      (descend otherWrite otherContainer key rest w) := by
  induction rest generalizing link r other container otherContainer key with
  | nil => exact put_ensues writes twin alike into key
  | cons after rest ih =>
    refine .bind (step_matches twin into key) fun mid otherMid next otherNext onward met => ?_
    have alike here := (alike here).mono (link.le_extend r.store other.store mid.store)
    have into := into.mono (link.le_extend r.store other.store mid.store)
    by_cases missing : next = .null
    · rw [if_pos missing,if_pos (met.null_iff.mp missing)]
      refine .bind (settle_matches onward.twin into) fun mid' otherMid' held otherHeld further settled => ?_
      rw [isFixed_alike settled]
      have le := Link.le_extend (link.extend r.store other.store mid.store) mid.store otherMid.store
        mid'.store
      split
      · exact .pure further.twin
      · refine .bind (emptyFor_matches further.twin after) fun s otherS made otherMade later same => ?_
        have wider := le.trans (Link.le_extend _ mid'.store otherMid'.store s.store)
        refine .bind ((put_ensues writes later.twin (fun _ : True => same) (into.mono wider)
          key).matched trivial) fun t otherT _ _ last _ => ?_
        refine ih last.twin (fun here => ?_) (.value (same.mono (Link.le_extend _ _ _ _))) after
        exact (alike here).mono (wider.trans (Link.le_extend _ _ _ _))
    · rw [if_neg missing,if_neg (mt met.null_iff.mpr missing)]
      exact ih onward.twin alike (.value met) after

omit writes in
theorem setRootValue_ensues (name : String) :
    Ensues link r other same (setRootValue name v) (setRootValue name w) := by
  rintro _ _ ⟨⟩
  refine ⟨_,_,rfl,fun _ _ _ _ => rfl,fun here => .of_stores rfl rfl ?_,.done trivial⟩
  exact ⟨twin.alike.setRoot name (alike here),twin.handles⟩

theorem setRootPath_ensues (path : Path) :
    Ensues link r other same (setRootPath write path v) (setRootPath otherWrite path w) := by
  unfold setRootPath
  cases path.root.kind.dataRoot? with
  | none => exact .fail twin _
  | some name =>
    refine .read ?_
    have held := twin.alike.rootValue? name
    have sets := setRootValue_ensues twin alike name
    revert held
    generalize r.rootValue? name = found
    generalize other.rootValue? name = otherFound
    intro held
    cases held with
    | none => exact sets
    | some held =>
      cases held with
      | ref linked => exact writes same link r other _ _ v w twin linked alike
      | _ => exact sets

theorem setBelowRoot_ensues {scope otherScope : Address} (linked : link .scope scope otherScope)
    (path : Path) (key : Segment) (rest : List Segment) :
    Ensues link r other same (setBelowRoot write scope path key rest v)
      (setBelowRoot otherWrite otherScope path key rest w) := by
  refine .bind (root_matches twin linked path) fun mid otherMid start otherStart onward met => ?_
  have alike here := (alike here).mono (link.le_extend r.store other.store mid.store)
  by_cases missing : start = .null
  · rw [if_pos missing,if_pos (met.null_iff.mp missing)]
    cases path.root.kind.dataRoot? with
    | none => exact .fail onward.twin _
    | some name =>
      refine .bind (emptyFor_matches onward.twin key) fun s otherS made otherMade later same => ?_
      refine .bind ((setRootValue_ensues later.twin (fun _ : True => same) name).matched trivial)
        fun t otherT _ _ last _ => ?_
      have le := Link.le_extend (link.extend r.store other.store mid.store) mid.store otherMid.store
        s.store
      exact descend_ensues writes last.twin
        (fun here => (alike here).mono (le.trans (Link.le_extend _ _ _ _))) rest
        (.value (same.mono (Link.le_extend _ _ _ _))) key
  · rw [if_neg missing,if_neg (mt met.null_iff.mpr missing)]
    exact descend_ensues writes onward.twin alike rest met key

theorem setPathValue_ensues {scope otherScope : Address} (linked : link .scope scope otherScope)
    (path : Path) (locked : Bool) :
    Ensues link r other same (setPathValue write scope path locked v)
      (setPathValue otherWrite otherScope path locked w) := by
  refine .bind (isLocked_matches twin path locked) fun mid otherMid shut _ onward met => ?_
  obtain rfl := met
  have alike here := (alike here).mono (link.le_extend r.store other.store mid.store)
  split
  · exact .of_matches same (debugLine_matches onward.twin _)
  · cases path.segments with
    | nil => exact setRootPath_ensues writes onward.twin alike path
    | cons key rest =>
      exact setBelowRoot_ensues writes onward.twin alike (link.le_extend _ _ _ _ _ _ linked) path key
        rest

theorem setBelow_ensues {parent otherParent : Address} (linked : link .handle parent otherParent)
    (key : Segment) :
    Ensues link r other same (setBelow write parent key v) (setBelow otherWrite otherParent key w) := by
  refine .bind (opened_matches writes twin linked (fun more mid otherMid le twin =>
    read_matches twin (le _ _ _ linked)) key) fun mid otherMid found otherFound onward met => ?_
  by_cases missing : found = .null
  · rw [if_pos missing,if_pos (met.null_iff.mp missing)]
    exact .pure onward.twin
  · rw [if_neg missing,if_neg (mt met.null_iff.mpr missing)]
    exact put_ensues writes onward.twin (fun here => (alike here).mono (link.le_extend _ _ _)) met key

end Writing

theorem setWithin_writes (fuel : Nat) : Writes (setWithin fuel) (setWithin fuel) := by
  induction fuel with
  | zero => exact fun _ _ _ _ _ _ _ _ twin _ _ => .fail twin _
  | succ fuel ih =>
    intro same link r other a b v w twin linked alike
    unfold setWithin
    refine .store ?_
    have held := twin.alike.store.handleAt linked
    revert held
    generalize r.store.handleAt a = handle
    generalize other.store.handleAt b = otherHandle
    intro held
    cases held with
    | path linked path locked => exact setPathValue_ensues ih twin alike linked path locked
    | sub linked key => exact setBelow_ensues ih twin alike linked key
    | locked linked => exact .pure twin
    | cell held label =>
      exact .update twin linked (r.store.putHandle_puts a _) (other.store.putHandle_puts b _)
        (by simp) fun here => .handle (.cell (alike here) label)

section Itself

variable {fuel : Nat} {after : Runtime} {a : Address} {v : Value} (twin : r.Twin link r)
  (linked : link .handle a a) (ran : setWithin fuel a v r = (.done (),after))
include twin linked ran

theorem setWithin_onward (present : v.Alike link v) : Onward link r r after after := by
  obtain ⟨_,otherAfter,otherRan,-,onward,-⟩ :=
    setWithin_writes fuel True link r r a a v v twin linked (fun _ => present) _ after ran
  obtain rfl : after = otherAfter := (Prod.mk.inj (ran.symm.trans otherRan)).2
  exact onward trivial

end Itself
end Reference
end PageRuntime
