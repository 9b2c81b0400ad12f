import PageRuntime.Node.Dict
import PageRuntime.Proofs.LikeActions
import PageRuntime.Proofs.LikeKeys

/-! Nodes made of plain forms in runtimes that are alike. A form that becomes a node nests finitely
deep, so the fuel that the other runtime has for it is enough. -/
namespace PageRuntime
namespace Act.Follows
open PageRuntime.Runtime (Twin Onward)

variable {α β γ δ : Type} {link : Link} {r other : Runtime} {rel : Link → α → β → Prop}
  {relNext : Link → γ → δ → Prop}

/-- As `bind`, after a step that only makes objects. -/
theorem bind_grew {act : Act α} {otherAct : Act β} {next : α → Act γ} {otherNext : β → Act δ}
    (first : Follows link r other rel act otherAct) (only : act.OnlyGrows)
    (otherOnly : otherAct.OnlyGrows)
    (later : ∀ mid otherMid x y, Onward link r other mid otherMid → r.Grew mid →
      other.Grew otherMid → rel (link.extend r.store other.store mid.store) x y →
      Follows (link.extend r.store other.store mid.store) mid otherMid relNext (next x)
        (otherNext y)) :
    Follows link r other relNext (act >>= next) (otherAct >>= otherNext) := by
  intro z after ran
  obtain ⟨x,mid,ranFirst,ranNext⟩ := Step.done_of_bind ran
  obtain ⟨y,otherMid,otherFirst,onward,related⟩ := first x mid ranFirst
  obtain ⟨w,otherAfter,otherRan,further,relatedNext⟩ := later mid otherMid x y onward
    (only.of_run ranFirst) (otherOnly.of_run otherFirst) related z after ranNext
  refine ⟨w,otherAfter,(Step.bind_done otherFirst).trans otherRan,onward.trans further,?_⟩
  rw [← onward.paced.extend further.paced]
  exact relatedNext

/-- Steps that follow each other on all related inputs do so on lists of them. -/
theorem mapM {base : Link} {s otherStore : Store} {relIn : α → β → Prop} {rel : Link → γ → δ → Prop}
    (mono : ∀ link more x y, Link.Le link more → rel link x y → rel more x y)
    {act : α → Act γ} {otherAct : β → Act δ} (only : ∀ x, (act x).OnlyGrows)
    (otherOnly : ∀ y, (otherAct y).OnlyGrows)
    (steps : ∀ link r other x y, Store.Later base s otherStore link r.store other.store →
      r.Twin link other → relIn x y → Follows link r other rel (act x) (otherAct y))
    {xs : List α} {ys : List β} (inputs : List.Forall₂ relIn xs ys) {link : Link} {r other : Runtime}
    (later : Store.Later base s otherStore link r.store other.store) (twin : r.Twin link other) :
    Follows link r other (fun link => List.Forall₂ (rel link)) (xs.mapM act) (ys.mapM otherAct) := by
  induction inputs generalizing link r other with
  | nil => exact .pure twin .nil
  | @cons x y xs ys one _ ih =>
    rw [List.mapM_cons,List.mapM_cons]
    refine .bind_grew (steps link r other x y later twin one) (only x) (otherOnly y) ?_
    intro mid otherMid made otherMade onward grew otherGrew same
    have further : Store.Later base s otherStore (link.extend r.store other.store mid.store) mid.store
        otherMid.store :=
      ⟨later.le.trans (link.le_extend _ _ _),later.grew.trans grew.store,
        later.otherGrew.trans otherGrew.store,onward.twin.alike.store⟩
    refine .bind (ih further onward.twin) fun last otherLast rest others onwards held => ?_
    exact .pure onwards.twin (.cons (mono _ _ _ _ (Link.le_extend _ _ _ _) same) held)

end Act.Follows

namespace Runtime

/-- The runtime has grown, and its scopes are made after their parents if they were. -/
structure Ripens (r after : Runtime) : Prop extends Grew r after where
  ordered : r.store.Ordered → after.store.Ordered

instance : Std.Refl Ripens := ⟨fun r => ⟨.refl r,id⟩⟩

instance : Trans Ripens Ripens Ripens :=
  ⟨fun first second => ⟨first.toGrew.trans second.toGrew,fun ordered => second.ordered (first.ordered ordered)⟩⟩

theorem Ripens.of_adds {r : Runtime} {s : Store} {shelf : Shelf} {o : Object}
    (adds : r.store.Adds s shelf o) (notScope : Shelf.scope ≠ shelf) : r.Ripens { r with store := s } :=
  ⟨⟨.of_adds adds,rfl⟩,fun ordered => ordered.of_adds adds notScope⟩

end Runtime

/-- In a walk over a list that comes to an end, each step does. -/
theorem Step.mapM_done {σ α β : Type} {R : σ → σ → Prop} [Std.Refl R] [Trans R R R]
    {step : α → Step σ β} (kept : ∀ x, Keeps R (step x)) {xs : List α} {ys : List β}
    {state after : σ} (ran : xs.mapM step state = (.done ys,after)) :
    ∀ x ∈ xs, ∃ mid y last, R state mid ∧ step x mid = (.done y,last) := by
  induction xs generalizing state after ys with
  | nil => exact nofun
  | cons x xs ih =>
    rw [List.mapM_cons] at ran
    obtain ⟨y,mid,first,ran⟩ := done_of_bind ran
    obtain ⟨rest,final,later,-⟩ := done_of_bind ran
    have here := kept x state
    rw [first] at here
    intro z member
    obtain rfl | member := List.mem_cons.mp member
    · exact ⟨state,y,mid,Std.Refl.refl state,first⟩
    · obtain ⟨start,w,stop,reached,done⟩ := ih later z member
      exact ⟨start,w,stop,Trans.trans here reached,done⟩

namespace Node
open PageRuntime.Runtime (Twin Onward)
open PageRuntime.Act (Follows)

theorem listedChildren_yields {link : Link} {s other : Store} (alike : s.Alike link other)
    {d otherDict : Dict} (same : d.Alike link otherDict) :
    Yields (Values.Alike link) (listedChildren s d) (listedChildren other otherDict) := by
  have children := Action.either_alike alike same "list" "children"
  have held : Yields (Values.Alike link)
      (if s.isTrue (Action.either d "list" "children") then
        s.itemsOf (Action.either d "list" "children") else .ok [])
      (if other.isTrue (Action.either otherDict "list" "children") then
        other.itemsOf (Action.either otherDict "list" "children") else .ok []) := by
    rw [alike.isTrue children]
    split
    · exact Store.itemsOf_yields alike children
    · exact .ok .nil
  exact held

abbrev Linked (link : Link) (a b : Address) : Prop := link .node a b

theorem Linked.mono (link more : Link) (a b : Address) (le : link.Le more) (linked : Linked link a b) :
    Linked more a b := le _ _ _ linked

/-- Forms of which the link pairs every part with another, and that nest at most so deep. -/
def Formable (link : Link) (other : Store) : Nat → Value → Prop
  | 0, _ => False
  | fuel + 1, w => (∃ v : Value, v.Alike link w) ∧ ((∃ a, w = .node a) ∨ ∃ d children,
      other.mapping? w = some d ∧ listedChildren other d = .ok children ∧
        ∀ child ∈ children, Formable link other fuel child)

theorem Formable.more {link : Link} {other : Store} (n : Nat) {w : Value}
    (formable : Formable link other n w) : Formable link other (n + 1) w := by
  induction n generalizing w with
  | zero => exact formable.elim
  | succ n ih =>
    obtain ⟨paired,node | ⟨d,children,mapping,listed,all⟩⟩ := formable
    · exact ⟨paired,.inl node⟩
    · exact ⟨paired,.inr ⟨d,children,mapping,listed,fun child member => ih (all child member)⟩⟩

theorem formable_staged {link : Link} {s other : Store} (alike : s.Alike link other) :
    Staged (Formable link other) other.containers where
  grows n w formable := formable.more
  closes n back w formable := by
    obtain ⟨paired,node | ⟨d,children,mapping,listed,all⟩⟩ := formable
    · exact ⟨paired,.inl node⟩
    · exact ⟨paired,.inr ⟨d,children,mapping,listed,fun child member => back child (all child member)⟩⟩
  inside n w formable late := by
    obtain ⟨⟨v,same⟩,node | ⟨d,children,mapping,listed,all⟩⟩ := formable
    · exact absurd ⟨⟨v,same⟩,.inl node⟩ late
    · cases same with
      | dict linked => exact Store.mem_containers rfl (alike.inside _ _ _ linked).2 (by simp)
      | frozen linked => exact Store.mem_containers rfl (alike.inside _ _ _ linked).2 (by simp)
      | _ => cases mapping

/-- No deeper than there are containers in the store. -/
theorem Formable.enough {link : Link} {s other : Store} (alike : s.Alike link other) {n : Nat}
    {w : Value} (formable : Formable link other n w) : Formable link other (other.size + 2) w :=
  (formable_staged alike).mono (by have := other.containers_card; omega)
    ((formable_staged alike).stable n w formable)

/-- A node from the children and the entries of its plain form. -/
def assemble (fuel : Nat) (s : Store) (d : Dict) (children : List Value) : Act Address := do
  let children ← children.mapM (ofValueWithin fuel)
  let attrs ← Act.ofExcept (s.dictOrEmpty (d.field "attrs"))
  Act.make (·.newNode ⟨d.field "tag",attrs,children,d.field "style",d.field "text"⟩)

theorem namesTag_mapping {s : Store} {v : Value} {d : Dict} (mapping : s.mapping? v = some d) :
    namesTag s v = .ok (d.has (.text "tag")) := by
  cases v with
  | dict a => cases mapping; rfl
  | frozen a => cases mapping; rfl
  | _ => cases mapping

theorem ofValueWithin_mapping (fuel : Nat) {v : Value} {r : Runtime} {d : Dict}
    {children : List Value} (mapping : r.store.mapping? v = some d) (named : d.has (.text "tag"))
    (listed : listedChildren r.store d = .ok children) :
    ofValueWithin (fuel + 1) v r = assemble fuel r.store d children r := by
  have names := namesTag_mapping mapping
  have formed : (Act.ofExcept (listedChildren r.store d) >>= assemble fuel r.store d) r =
      assemble fuel r.store d children r := by
    rw [listed]
    rfl
  cases v with
  | dict a =>
    rw [ofValueWithin,Step.bind_done (Act.store_run r),names,Act.ofExcept_ok_bind,mapping,named]
    · exact formed
    · exact nofun
  | frozen a =>
    rw [ofValueWithin,Step.bind_done (Act.store_run r),names,Act.ofExcept_ok_bind,mapping,named]
    · exact formed
    · exact nofun
  | _ => cases mapping

/-- A value that becomes a node is one already, or it is the plain form of one. -/
theorem ofValueWithin_done {fuel : Nat} {v : Value} {r after : Runtime} {a : Address}
    (ran : ofValueWithin (fuel + 1) v r = (.done a,after)) : (v = .node a ∧ after = r) ∨
      ∃ d children, r.store.mapping? v = some d ∧ d.has (.text "tag") ∧
        listedChildren r.store d = .ok children ∧
        assemble fuel r.store d children r = (.done a,after) := by
  obtain ⟨b,rfl⟩ | form := Classical.em (∃ b, v = .node b)
  · cases ran
    exact .inl ⟨rfl,rfl⟩
  · rw [ofValueWithin,Step.bind_done (Act.store_run r)] at ran
    · obtain ⟨named,mid,names,ran⟩ := Step.done_of_bind ran
      obtain ⟨names,rfl⟩ := Act.ofExcept_done names
      split at ran
      · cases ran
      · next hasTag =>
        cases mapping : mid.store.mapping? v with
        | none =>
          rw [mapping] at ran
          cases ran
        | some d =>
          rw [mapping] at ran
          obtain ⟨children,last,listed,ran⟩ := Step.done_of_bind ran
          obtain ⟨listed,rfl⟩ := Act.ofExcept_done listed
          rw [namesTag_mapping mapping] at names
          cases names
          exact .inr ⟨d,children,rfl,by simpa using hasTag,listed,ran⟩
    · exact fun b same => form ⟨b,same⟩

/-- The form of what is alike lists children that are alike. -/
theorem form_alike {link : Link} {s other : Store} (alike : s.Alike link other) {v w : Value}
    (same : v.Alike link w) {d : Dict} {children : List Value} (mapping : s.mapping? v = some d)
    (listed : listedChildren s d = .ok children) : ∃ otherDict others,
      other.mapping? w = some otherDict ∧ listedChildren other otherDict = .ok others ∧
        d.Alike link otherDict ∧ Values.Alike link children others := by
  have held := alike.mapping? same
  rw [mapping] at held
  revert held
  generalize other.mapping? w = found
  rintro ⟨related⟩
  obtain ⟨others,there,paired⟩ := listedChildren_yields alike related children listed
  exact ⟨_,others,rfl,there,related,paired⟩

theorem given_follows {link : Link} {r other : Runtime} (twin : r.Twin link other) {a b : Address}
    (linked : Linked link a b) : Follows link r other Linked (Pure.pure a) (Pure.pure b) :=
  .pure twin linked

theorem assemble_follows {link : Link} {r other : Runtime} {fuel otherFuel : Nat} {d otherDict : Dict}
    {children others : List Value} (twin : r.Twin link other) (same : d.Alike link otherDict)
    (steps : Follows link r other (fun link => List.Forall₂ (Linked link))
      (children.mapM (ofValueWithin fuel)) (others.mapM (ofValueWithin otherFuel))) :
    Follows link r other Linked (assemble fuel r.store d children)
      (assemble otherFuel other.store otherDict others) := by
  have field (name : String) : (d.field name).Alike link (otherDict.field name) :=
    Dict.field_alike twin.alike.store.paired same name
  have attrs := Store.dictOrEmpty_yields twin.alike.store (field "attrs")
  refine .bind steps fun mid otherMid nodes otherNodes onward made => ?_
  have wider := link.le_extend r.store other.store mid.store
  have kept : Yields (Dict.Alike (link.extend r.store other.store mid.store))
      (r.store.dictOrEmpty (d.field "attrs")) (other.store.dictOrEmpty (otherDict.field "attrs")) :=
    fun x read => (attrs x read).imp fun _ one => ⟨one.1,Dict.Alike.mono wider one.2⟩
  refine .bind (.ofYields onward.twin kept) fun last otherLast attrs otherAttrs further held => ?_
  have most := wider.trans (Link.le_extend _ mid.store otherMid.store last.store)
  have added := Link.le_add ((link.extend r.store other.store mid.store).extend mid.store
    otherMid.store last.store) .node last.store.nodes.size otherLast.store.nodes.size
  refine .make further.twin (last.store.newNode_adds _) (otherLast.store.newNode_adds _) nofun
    (.node ⟨?_,?_,?_,?_,?_⟩) (Link.add_self _ _ _ _)
  · exact (field "tag").mono (most.trans added)
  · exact Dict.Alike.mono added held
  · exact made.imp fun _ _ one => added _ _ _ (Link.le_extend _ _ _ _ _ _ _ one)
  · exact (field "style").mono (most.trans added)
  · exact (field "text").mono (most.trans added)

theorem ofValueWithin_ripens (fuel : Nat) (v : Value) :
    Step.Keeps Runtime.Ripens (ofValueWithin fuel v) :=
  ofValueWithin_keeps (fun _ r => .of_adds (r.store.newFailure_adds _) nofun)
    (fun _ r => .of_adds (r.store.newNode_adds _) nofun) fuel v

theorem ofValueWithin_onlyGrows (fuel : Nat) (v : Value) : (ofValueWithin fuel v).OnlyGrows :=
  (ofValueWithin_ripens fuel v).imp fun _ _ => Runtime.Ripens.toGrew

section

variable {base : Link} {s other : Store} (before : s.Alike base other)
include before

/-- What becomes a node is formable. -/
theorem formable_of_done (fuel : Nat) : ∀ {v w : Value} {r after : Runtime} {a : Address},
    v.Alike base w → s.Grew r.store → r.store.Ordered →
    ofValueWithin fuel v r = (.done a,after) → Formable base other fuel w := by
  induction fuel with
  | zero =>
    intro v w r after a _ _ _ ran
    cases ran
  | succ fuel ih =>
    intro v w r after a same grew ordered ran
    refine ⟨⟨v,same⟩,?_⟩
    obtain ⟨rfl,-⟩ | ⟨d,children,mapping,-,listed,ran⟩ := ofValueWithin_done ran
    · cases same with
      | node linked => exact .inl ⟨_,rfl⟩
    · obtain ⟨otherDict,others,otherMapping,otherListed,-,held⟩ :=
        form_alike (before.of_grew_left grew ordered) same mapping listed
      refine .inr ⟨otherDict,others,otherMapping,otherListed,fun child member => ?_⟩
      obtain ⟨nodes,mid,made,-⟩ := Step.done_of_bind ran
      obtain ⟨x,there,one⟩ := List.forall₂_beside held.flip member
      obtain ⟨start,y,last,ripens,each⟩ := Step.mapM_done (ofValueWithin_ripens fuel) made x there
      exact ih one (grew.trans ripens.store) (ripens.ordered ordered) each

/-- Forms that are alike become nodes that are alike. -/
theorem ofValueWithin_later (fuel : Nat) : ∀ {otherFuel : Nat} {v w : Value} {link : Link}
    {r otherR : Runtime}, Formable base other otherFuel w → v.Alike base w →
    Store.Later base s other link r.store otherR.store → r.Twin link otherR →
    Follows link r otherR Linked (ofValueWithin fuel v)
      (ofValueWithin otherFuel w) := by
  induction fuel with
  | zero =>
    intro otherFuel v w link r otherR _ _ _ _
    exact .fail _ _
  | succ fuel ih =>
    intro otherFuel v w link r otherR formable same later twin a after ran
    cases otherFuel with
    | zero => exact formable.elim
    | succ otherFuel =>
      obtain ⟨rfl,rfl⟩ | ⟨d,children,mapping,named,listed,ran⟩ := ofValueWithin_done ran
      · cases same with
        | node linked =>
          exact given_follows twin (later.le _ _ _ linked) a _ rfl
      · obtain ⟨-,⟨b,rfl⟩ | ⟨first,listedFirst,mappingFirst,heldFirst,all⟩⟩ := formable
        · cases same
          cases mapping
        · have half := before.of_grew_left later.grew later.alike.ordered
          have whole := half.of_grew later.otherGrew later.alike.otherOrdered
          obtain ⟨_,others,mapped,held,-,inputs⟩ := form_alike half same mapping listed
          obtain rfl := Option.some.inj (mappingFirst.symm.trans mapped)
          obtain rfl := Except.ok.inj (heldFirst.symm.trans held)
          obtain ⟨otherDict,lasts,otherMapping,otherListed,entries,ends⟩ :=
            form_alike whole same mapping listed
          obtain rfl := List.right_unique_forall₂'
            (fun _ _ _ one two => (one.eq_iff before.paired two).mp rfl) inputs ends
          have otherNamed : otherDict.has (.text "tag") :=
            (Dict.has_alike before.paired entries (Key.text_alike base "tag")).trans named
          rw [ofValueWithin_mapping otherFuel otherMapping otherNamed otherListed]
          have inputs := ((List.forall₂_and_left _ _).mpr ⟨all,inputs.flip⟩).flip
          have steps : Follows link r otherR (fun link => List.Forall₂ (Linked link))
              (children.mapM (ofValueWithin fuel)) (listedFirst.mapM (ofValueWithin otherFuel)) :=
            .mapM Linked.mono (ofValueWithin_onlyGrows fuel)
              (ofValueWithin_onlyGrows otherFuel)
              (fun link r other x y later twin one => ih one.1 one.2 later twin) inputs later twin
          exact assemble_follows twin (Dict.Alike.mono later.le entries) steps a after ran

end

section

variable {link : Link} {r other : Runtime} (twin : r.Twin link other) {v w : Value}
  (same : v.Alike link w)
include twin same

theorem ofValueWithin_follows {fuel otherFuel : Nat}
    (enough : fuel ≤ otherFuel ∨ other.store.size + 2 ≤ otherFuel) :
    Follows link r other Linked (ofValueWithin fuel v) (ofValueWithin otherFuel w) := by
  intro a after ran
  have alike := twin.alike.store
  have formable := formable_of_done alike fuel same (.refl _) alike.ordered ran
  have deep : Formable link other.store otherFuel w :=
    enough.elim (fun more => (formable_staged alike).mono more formable)
      fun more => (formable_staged alike).mono more (formable.enough alike)
  have now : Store.Later link r.store other.store link r.store other.store :=
    ⟨.refl link,.refl _,.refl _,alike⟩
  exact ofValueWithin_later alike fuel deep same now twin a after ran

theorem ofValue_follows : Follows link r other Linked (ofValue v) (ofValue w) :=
  .store (ofValueWithin_follows twin same (.inr (Nat.le_refl _)))

end

end Node
end PageRuntime
