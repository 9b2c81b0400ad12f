import PageRuntime.Proofs.Following

/-! Links read backwards and one after another. Runtimes that are alike are alike the other way round,
and what is alike a third through a second is alike it. -/
namespace PageRuntime

namespace Link

/-- The link read backwards. -/
def back (link : Link) : Link := fun shelf a b => link shelf b a

/-- Pairs what the two links pair through a third object. -/
def join (link onward : Link) : Link := fun shelf a c => ∃ b, link shelf a b ∧ onward shelf b c

variable {link onward : Link}

theorem Paired.back (paired : link.Paired) : link.back.Paired :=
  fun shelf a b c d one other => (paired shelf b a d c one other).symm

theorem Paired.join (paired : link.Paired) (further : onward.Paired) : (link.join onward).Paired := by
  rintro shelf a c d f ⟨b,first,second⟩ ⟨e,third,fourth⟩
  exact (paired shelf a b d e first third).trans (further shelf b c e f second fourth)

end Link

section

variable {α β γ : Type} {R : α → β → Prop} {S : β → γ → Prop} {T : α → γ → Prop} {U : β → α → Prop}

theorem List.forall₂_back (turn : ∀ x y, R x y → U y x) {xs : List α} {ys : List β}
    (related : List.Forall₂ R xs ys) : List.Forall₂ U ys xs := (related.imp turn).flip

theorem List.forall₂_join (through : ∀ x y z, R x y → S y z → T x z) {xs : List α} {ys : List β}
    {zs : List γ} (first : List.Forall₂ R xs ys) (second : List.Forall₂ S ys zs) :
    List.Forall₂ T xs zs := by
  induction first generalizing zs with
  | nil => cases second; exact .nil
  | cons one _ ih =>
    cases second with
    | cons other rest => exact .cons (through _ _ _ one other) (ih rest)

theorem Option.rel_back (turn : ∀ x y, R x y → U y x) {x : Option α} {y : Option β}
    (related : Option.Rel R x y) : Option.Rel U y x := by
  cases related with
  | none => exact .none
  | some one => exact .some (turn _ _ one)

theorem Option.rel_join (through : ∀ x y z, R x y → S y z → T x z) {x : Option α} {y : Option β}
    {z : Option γ} (first : Option.Rel R x y) (second : Option.Rel S y z) : Option.Rel T x z := by
  cases first with
  | none => cases second; exact .none
  | some one =>
    cases second with
    | some other => exact .some (through _ _ _ one other)

end

/-! Alike the other way round. -/
section Back

variable {link : Link}

theorem Value.Alike.back {v w : Value} (alike : v.Alike link w) : w.Alike link.back v := by
  cases alike <;> constructor <;> assumption

theorem Values.Alike.back {vs ws : List Value} (alike : Values.Alike link vs ws) :
    Values.Alike link.back ws vs := List.forall₂_back (fun _ _ one => one.back) alike

theorem Atom.Alike.back {a b : Atom} (alike : a.Alike link b) : b.Alike link.back a := by
  cases alike <;> constructor
  exact Value.Alike.back ‹_›

theorem KeyPart.Alike.back {a b : KeyPart} (alike : a.Alike link b) : b.Alike link.back a := by
  cases alike <;> constructor
  exact Atom.Alike.back ‹_›

theorem Key.Alike.back {a b : Key} (alike : a.Alike link b) : b.Alike link.back a := by
  cases alike with
  | atom alike => exact .atom alike.back
  | compound alike => exact .compound (List.forall₂_back (fun _ _ one => one.back) alike)

theorem Dict.Alike.back {d other : Dict} (alike : d.Alike link other) :
    Dict.Alike link.back other d :=
  List.forall₂_back (fun _ _ one => ⟨one.key.back,one.label.back,one.value.back⟩) alike

theorem Handle.Alike.back {h other : Handle} (alike : h.Alike link other) :
    other.Alike link.back h := by
  cases alike with
  | path linked => exact .path (show link.back .scope _ _ from linked) _ _
  | sub linked => exact .sub (show link.back .handle _ _ from linked) _
  | locked linked => exact .locked linked
  | cell alike => exact .cell alike.back _

theorem Scope.Alike.back {scope other : Scope} (alike : scope.Alike link other) :
    other.Alike link.back scope where
  parent := Option.rel_back (fun _ _ linked => linked) alike.parent
  data := alike.data.back
  specials := alike.specials
  onlySpecials := alike.onlySpecials.symm
  description := alike.description.symm
  handlers := List.forall₂_back (fun _ _ one => ⟨one.1.symm,one.2.text.symm,
    Option.rel_back (fun _ _ linked => linked) one.2.node,one.2.inParent.symm⟩) alike.handlers
  htmlContext := alike.htmlContext.symm
  component := alike.component.back
  boundary := alike.boundary.symm

theorem Object.Alike.back {o other : Object} (alike : o.Alike link other) :
    other.Alike link.back o := by
  have turn {shelf : Shelf} {x y : Option Address} (rel : Option.Rel (link shelf) x y) :
      Option.Rel (link.back shelf) y x := Option.rel_back (fun _ _ linked => linked) rel
  cases alike with
  | items alike => exact .items alike.back
  | entries alike => exact .entries (Dict.Alike.back alike)
  | blob alike => exact .blob ⟨alike.mediaType.back,alike.data.symm⟩
  | node alike =>
    exact .node ⟨alike.tag.back,Dict.Alike.back alike.attrs,
      List.forall₂_back (fun _ _ linked => linked) alike.children,alike.style.back,alike.text.back⟩
  | failure alike => exact .failure ⟨alike.fault.symm,turn alike.cause,turn alike.trail⟩
  | report alike =>
    exact .report ⟨alike.message.symm,turn alike.failure,turn alike.trail,alike.handlerPath.symm,
      alike.block.symm⟩
  | trail frames => exact .trail frames
  | handle alike => exact .handle alike.back
  | scope alike => exact .scope alike.back
  | context linked => exact .context linked

theorem Store.Alike.back {s other : Store} (alike : s.Alike link other) : other.Alike link.back s where
  inside shelf a b linked := (alike.inside shelf b a linked).symm
  paired := alike.paired.back
  objects shelf a b linked := (alike.objects shelf b a linked).back
  ordered := alike.otherOrdered
  otherOrdered := alike.ordered

theorem Runtime.Alike.back {r other : Runtime} (alike : r.Alike link other) :
    other.Alike link.back r where
  store := alike.store.back
  roots := List.forall₂_back (fun _ _ one => ⟨one.1.symm,one.2.back⟩) alike.roots
  document := Option.rel_back (fun _ _ linked => linked) alike.document
  surroundings := alike.surroundings.symm

theorem Runtime.Twin.back {r other : Runtime} (twin : r.Twin link other) : other.Twin link.back r :=
  ⟨twin.alike.back,twin.handles.symm⟩

/-- What is only made on the other side is alike nothing. -/
theorem Runtime.Alike.of_grew {r other after : Runtime} (alike : r.Alike link other)
    (grew : other.Grew after) (ordered : after.store.Ordered) : r.Alike link after :=
  (alike.back.of_grew_left grew ordered).back

end Back

/-! Alike through a third. -/
section Join

variable {link onward : Link}

theorem Value.Alike.join {v w u : Value} (first : v.Alike link w) (second : w.Alike onward u) :
    v.Alike (link.join onward) u := by
  cases first <;> cases second <;> constructor <;> exact ⟨_,‹_›,‹_›⟩

theorem Values.Alike.join {vs ws us : List Value} (first : Values.Alike link vs ws)
    (second : Values.Alike onward ws us) : Values.Alike (link.join onward) vs us :=
  List.forall₂_join (fun _ _ _ one other => one.join other) first second

theorem Atom.Alike.join {a b c : Atom} (first : a.Alike link b) (second : b.Alike onward c) :
    a.Alike (link.join onward) c := by
  cases first <;> cases second <;> constructor
  exact Value.Alike.join ‹_› ‹_›

theorem KeyPart.Alike.join {a b c : KeyPart} (first : a.Alike link b) (second : b.Alike onward c) :
    a.Alike (link.join onward) c := by
  cases first <;> cases second <;> constructor
  exact Atom.Alike.join ‹_› ‹_›

theorem Key.Alike.join {a b c : Key} (first : a.Alike link b) (second : b.Alike onward c) :
    a.Alike (link.join onward) c := by
  cases first with
  | atom first =>
    cases second with
    | atom second => exact .atom (first.join second)
  | compound first =>
    cases second with
    | compound second =>
      exact .compound (List.forall₂_join (fun _ _ _ one other => one.join other) first second)

theorem Dict.Alike.join {d mid other : Dict} (first : d.Alike link mid)
    (second : mid.Alike onward other) : Dict.Alike (link.join onward) d other :=
  List.forall₂_join (fun _ _ _ one other => ⟨one.key.join other.key,one.label.join other.label,
    one.value.join other.value⟩) first second

theorem Handle.Alike.join {h mid other : Handle} (first : h.Alike link mid)
    (second : mid.Alike onward other) : h.Alike (link.join onward) other := by
  cases first with
  | path linked =>
    cases second with
    | path further => exact .path ⟨_,linked,further⟩ _ _
  | sub linked =>
    cases second with
    | sub further => exact .sub ⟨_,linked,further⟩ _
  | locked linked =>
    cases second with
    | locked further => exact .locked ⟨_,linked,further⟩
  | cell first =>
    cases second with
    | cell second => exact .cell (first.join second) _

theorem Link.join_rel {shelf : Shelf} {x y z : Option Address} (first : Option.Rel (link shelf) x y)
    (second : Option.Rel (onward shelf) y z) : Option.Rel (link.join onward shelf) x z :=
  Option.rel_join (fun _ _ _ one other => ⟨_,one,other⟩) first second

theorem Scope.Alike.join {scope mid other : Scope} (first : scope.Alike link mid)
    (second : mid.Alike onward other) : scope.Alike (link.join onward) other where
  parent := Link.join_rel first.parent second.parent
  data := first.data.join second.data
  specials := ⟨_,first.specials,second.specials⟩
  onlySpecials := first.onlySpecials.trans second.onlySpecials
  description := first.description.trans second.description
  handlers := List.forall₂_join (fun _ _ _ one two => ⟨one.1.trans two.1,one.2.text.trans two.2.text,
    Link.join_rel one.2.node two.2.node,one.2.inParent.trans two.2.inParent⟩) first.handlers
    second.handlers
  htmlContext := first.htmlContext.trans second.htmlContext
  component := first.component.join second.component
  boundary := first.boundary.trans second.boundary

theorem Object.Alike.join {o mid other : Object} (first : o.Alike link mid)
    (second : mid.Alike onward other) : o.Alike (link.join onward) other := by
  cases first with
  | items first =>
    cases second with
    | items second => exact .items (first.join second)
  | entries first =>
    cases second with
    | entries second => exact .entries (Dict.Alike.join first second)
  | blob first =>
    cases second with
    | blob second => exact .blob ⟨first.mediaType.join second.mediaType,first.data.trans second.data⟩
  | node first =>
    cases second with
    | node second =>
      exact .node ⟨first.tag.join second.tag,Dict.Alike.join first.attrs second.attrs,
        List.forall₂_join (fun _ _ _ one other => ⟨_,one,other⟩) first.children second.children,
        first.style.join second.style,first.text.join second.text⟩
  | failure first =>
    cases second with
    | failure second =>
      exact .failure ⟨first.fault.trans second.fault,Link.join_rel first.cause second.cause,
        Link.join_rel first.trail second.trail⟩
  | report first =>
    cases second with
    | report second =>
      exact .report ⟨first.message.trans second.message,Link.join_rel first.failure second.failure,
        Link.join_rel first.trail second.trail,first.handlerPath.trans second.handlerPath,
        first.block.trans second.block⟩
  | trail frames =>
    cases second with
    | trail => exact .trail frames
  | handle first =>
    cases second with
    | handle second => exact .handle (first.join second)
  | scope first =>
    cases second with
    | scope second => exact .scope (first.join second)
  | context linked =>
    cases second with
    | context further => exact .context ⟨_,linked,further⟩

theorem Store.Alike.join {s mid other : Store} (first : s.Alike link mid)
    (second : mid.Alike onward other) : s.Alike (link.join onward) other where
  inside := by
    rintro shelf a c ⟨b,one,two⟩
    exact ⟨(first.inside shelf a b one).1,(second.inside shelf b c two).2⟩
  paired := first.paired.join second.paired
  objects := by
    rintro shelf a c ⟨b,one,two⟩
    exact (first.objects shelf a b one).join (second.objects shelf b c two)
  ordered := first.ordered
  otherOrdered := second.otherOrdered

theorem Runtime.Alike.join {r mid other : Runtime} (first : r.Alike link mid)
    (second : mid.Alike onward other) : r.Alike (link.join onward) other where
  store := first.store.join second.store
  roots := List.forall₂_join (fun _ _ _ one two => ⟨one.1.trans two.1,one.2.join two.2⟩) first.roots
    second.roots
  document := Link.join_rel first.document second.document
  surroundings := second.surroundings.trans first.surroundings

theorem Runtime.Twin.join {r mid other : Runtime} (first : r.Twin link mid)
    (second : mid.Twin onward other) : r.Twin (link.join onward) other :=
  ⟨first.alike.join second.alike,first.handles.trans second.handles⟩

end Join

/-! One more pair. -/
section Pair

variable {link : Link} {shelf : Shelf} {a b : Address} (free : ∀ c, ¬ link shelf a c)
  (otherFree : ∀ c, ¬ link shelf c b)
include free otherFree

theorem Link.Paired.add (paired : link.Paired) : (link.add shelf a b).Paired := by
  rintro k c d e f (one | ⟨here,rfl,rfl⟩) (two | ⟨there,rfl,rfl⟩)
  · exact paired k c d e f one two
  · subst there
    exact ⟨fun same => absurd (same ▸ one) (free d),fun same => absurd (same ▸ one) (otherFree c)⟩
  · subst here
    exact ⟨fun same => absurd (same ▸ two) (free f),fun same => absurd (same ▸ two) (otherFree e)⟩
  · exact ⟨fun _ => rfl,fun _ => rfl⟩

theorem Store.Alike.add {s other : Store} (alike : s.Alike link other) (inside : a < s.sizeOf shelf)
    (otherInside : b < other.sizeOf shelf)
    (new : (s.object shelf a).Alike (link.add shelf a b) (other.object shelf b)) :
    s.Alike (link.add shelf a b) other where
  inside := by
    rintro k c d (linked | ⟨rfl,rfl,rfl⟩)
    · exact alike.inside k c d linked
    · exact ⟨inside,otherInside⟩
  paired := alike.paired.add free otherFree
  objects := by
    rintro k c d (linked | ⟨rfl,rfl,rfl⟩)
    · exact (alike.objects k c d linked).mono (link.le_add shelf a b)
    · exact new
  ordered := alike.ordered
  otherOrdered := alike.otherOrdered

theorem Runtime.Twin.add {r other : Runtime} (twin : r.Twin link other)
    (inside : a < r.store.sizeOf shelf) (otherInside : b < other.store.sizeOf shelf)
    (new : (r.store.object shelf a).Alike (link.add shelf a b) (other.store.object shelf b)) :
    r.Twin (link.add shelf a b) other where
  alike := {
    store := twin.alike.store.add free otherFree inside otherInside new
    roots := twin.alike.roots.imp fun _ _ one => ⟨one.1,one.2.mono (link.le_add shelf a b)⟩
    document := (link.le_add shelf a b).option twin.alike.document
    surroundings := twin.alike.surroundings }
  handles := twin.handles

end Pair
end PageRuntime
