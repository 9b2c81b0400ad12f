import Mathlib.Data.List.Forall2
import PageRuntime.Proofs.Growth

/-! Runtimes that are alike up to addresses. A link pairs objects of one store with objects of
another; the stores are alike if paired objects have the same form and hold paired objects in turn.
What a link does not pair may be anything. -/
namespace PageRuntime

/-- What is related along two lists has a counterpart for each item of the first. -/
theorem List.forall₂_beside {α β : Type} {R : α → β → Prop} {xs : List α} {ys : List β}
    (related : List.Forall₂ R xs ys) {x : α} (member : x ∈ xs) : ∃ y ∈ ys, R x y := by
  induction related with
  | nil => cases member
  | @cons _ y _ _ here _ ih =>
    obtain rfl | member := List.mem_cons.mp member
    · exact ⟨y,List.mem_cons_self,here⟩
    · obtain ⟨z,among,held⟩ := ih member
      exact ⟨z,List.mem_cons_of_mem _ among,held⟩

abbrev Link := Shelf → Address → Address → Prop

namespace Link

/-- The other link pairs all that this one pairs. -/
def Le (link more : Link) : Prop := ∀ shelf a b, link shelf a b → more shelf a b

theorem Le.refl (link : Link) : link.Le link := fun _ _ _ linked => linked

theorem Le.trans {link more most : Link} (first : link.Le more) (second : more.Le most) :
    link.Le most := fun shelf a b linked => second shelf a b (first shelf a b linked)

/-- The link with one more pair. -/
def add (link : Link) (shelf : Shelf) (a b : Address) : Link :=
  fun other x y => link other x y ∨ (other = shelf ∧ x = a ∧ y = b)

theorem le_add (link : Link) (shelf : Shelf) (a b : Address) : link.Le (link.add shelf a b) :=
  fun _ _ _ linked => .inl linked

theorem add_self (link : Link) (shelf : Shelf) (a b : Address) : link.add shelf a b shelf a b :=
  .inr ⟨rfl,rfl,rfl⟩

/-- No object is paired twice on either side. -/
def Paired (link : Link) : Prop :=
  ∀ shelf a b c d, link shelf a b → link shelf c d → (a = c ↔ b = d)

end Link

open Link (Le Paired)

/-- Scalars are alike if they are the same, and objects if they are paired. -/
inductive Value.Alike (link : Link) : Value → Value → Prop
  | null : Alike link .null .null
  | bool (truth : Bool) : Alike link (.bool truth) (.bool truth)
  | int (number : Int) : Alike link (.int number) (.int number)
  | float (number : Number.Binary64) : Alike link (.float number) (.float number)
  | str (text : String) : Alike link (.str text) (.str text)
  | bytes (data : List UInt8) : Alike link (.bytes data) (.bytes data)
  | callable (a : Address) : Alike link (.callable a) (.callable a)
  | list {a b : Address} (linked : link .list a b) : Alike link (.list a) (.list b)
  | tuple {a b : Address} (linked : link .tuple a b) : Alike link (.tuple a) (.tuple b)
  | dict {a b : Address} (linked : link .dict a b) : Alike link (.dict a) (.dict b)
  | frozen {a b : Address} (linked : link .frozen a b) : Alike link (.frozen a) (.frozen b)
  | fset {a b : Address} (linked : link .fset a b) : Alike link (.fset a) (.fset b)
  | blob {a b : Address} (linked : link .blob a b) : Alike link (.blob a) (.blob b)
  | node {a b : Address} (linked : link .node a b) : Alike link (.node a) (.node b)
  | ref {a b : Address} (linked : link .handle a b) : Alike link (.ref a) (.ref b)
  | scope {a b : Address} (linked : link .scope a b) : Alike link (.scope a) (.scope b)
  | context {a b : Address} (linked : link .context a b) : Alike link (.context a) (.context b)
  | failure {a b : Address} (linked : link .failure a b) : Alike link (.failure a) (.failure b)
  | report {a b : Address} (linked : link .report a b) : Alike link (.report a) (.report b)
  | trail {a b : Address} (linked : link .trail a b) : Alike link (.trail a) (.trail b)

abbrev Values.Alike (link : Link) : List Value → List Value → Prop :=
  List.Forall₂ (Value.Alike link)

inductive Atom.Alike (link : Link) : Atom → Atom → Prop
  | null : Alike link .null .null
  | int (number : Int) : Alike link (.int number) (.int number)
  | float (number : Number.Binary64) : Alike link (.float number) (.float number)
  | str (text : String) : Alike link (.str text) (.str text)
  | bytes (data : List UInt8) : Alike link (.bytes data) (.bytes data)
  | identity {v w : Value} (alike : v.Alike link w) : Alike link (.identity v) (.identity w)

inductive KeyPart.Alike (link : Link) : KeyPart → KeyPart → Prop
  | atom {a b : Atom} (alike : a.Alike link b) : Alike link (.atom a) (.atom b)
  | openTuple : Alike link .openTuple .openTuple
  | openSet : Alike link .openSet .openSet
  | close : Alike link .close .close

inductive Key.Alike (link : Link) : Key → Key → Prop
  | atom {a b : Atom} (alike : a.Alike link b) : Alike link (.atom a) (.atom b)
  | compound {parts others : List KeyPart} (alike : List.Forall₂ (KeyPart.Alike link) parts others) :
      Alike link (.compound parts) (.compound others)

structure Slot.Alike (link : Link) (slot other : Slot) : Prop where
  key : slot.key.Alike link other.key
  label : slot.label.Alike link other.label
  value : slot.value.Alike link other.value

abbrev Dict.Alike (link : Link) : Dict → Dict → Prop := List.Forall₂ (Slot.Alike link)

inductive Handle.Alike (link : Link) : Handle → Handle → Prop
  | path {a b : Address} (linked : link .scope a b) (path : Path) (locked : Bool) :
      Alike link (.path a path locked) (.path b path locked)
  | sub {a b : Address} (linked : link .handle a b) (key : Segment) :
      Alike link (.sub a key) (.sub b key)
  | locked {a b : Address} (linked : link .handle a b) : Alike link (.locked a) (.locked b)
  | cell {v w : Value} (alike : v.Alike link w) (label : String) :
      Alike link (.cell v label) (.cell w label)

structure Handler.Alike (link : Link) (handler other : Handler) : Prop where
  text : handler.text = other.text
  node : Option.Rel (link .node) handler.node other.node
  inParent : handler.inParent = other.inParent

structure Scope.Alike (link : Link) (scope other : Scope) : Prop where
  parent : Option.Rel (link .scope) scope.parent other.parent
  data : scope.data.Alike link other.data
  specials : link .dict scope.specials other.specials
  onlySpecials : scope.onlySpecials = other.onlySpecials
  description : scope.description = other.description
  handlers : List.Forall₂ (fun x y : String × Handler => x.1 = y.1 ∧ x.2.Alike link y.2)
    scope.handlers other.handlers
  htmlContext : scope.htmlContext = other.htmlContext
  component : scope.component.Alike link other.component
  boundary : scope.boundary = other.boundary

structure Node.Alike (link : Link) (node other : Node) : Prop where
  tag : node.tag.Alike link other.tag
  attrs : Dict.Alike link node.attrs other.attrs
  children : List.Forall₂ (link .node) node.children other.children
  style : node.style.Alike link other.style
  text : node.text.Alike link other.text

structure Blob.Alike (link : Link) (blob other : Blob) : Prop where
  mediaType : blob.mediaType.Alike link other.mediaType
  data : blob.data = other.data

structure Failure.Alike (link : Link) (failure other : Failure) : Prop where
  fault : failure.fault = other.fault
  cause : Option.Rel (link .failure) failure.cause other.cause
  trail : Option.Rel (link .trail) failure.trail other.trail

structure Report.Alike (link : Link) (report other : Report) : Prop where
  message : report.message = other.message
  failure : Option.Rel (link .failure) report.failure other.failure
  trail : Option.Rel (link .trail) report.trail other.trail
  handlerPath : report.handlerPath = other.handlerPath
  block : report.block = other.block

inductive Object.Alike (link : Link) : Object → Object → Prop
  | items {values others : List Value} (alike : Values.Alike link values others) :
      Alike link (.items values) (.items others)
  | entries {d other : Dict} (alike : d.Alike link other) : Alike link (.entries d) (.entries other)
  | blob {b other : Blob} (alike : b.Alike link other) : Alike link (.blob b) (.blob other)
  | node {n other : Node} (alike : n.Alike link other) : Alike link (.node n) (.node other)
  | failure {f other : Failure} (alike : f.Alike link other) : Alike link (.failure f) (.failure other)
  | report {r other : Report} (alike : r.Alike link other) : Alike link (.report r) (.report other)
  | trail (frames : List String) : Alike link (.trail frames) (.trail frames)
  | handle {h other : Handle} (alike : h.Alike link other) : Alike link (.handle h) (.handle other)
  | scope {scope other : Scope} (alike : scope.Alike link other) :
      Alike link (.scope scope) (.scope other)
  | context {a b : Address} (linked : link .scope a b) : Alike link (.context a) (.context b)

/-! A longer link keeps what is alike alike. -/
section Mono

variable {link more : Link} (le : link.Le more)
include le

theorem Value.Alike.mono {v w : Value} (alike : v.Alike link w) : v.Alike more w := by
  cases alike <;> constructor <;> exact le _ _ _ ‹_›

theorem Values.Alike.mono {vs ws : List Value} (alike : Values.Alike link vs ws) :
    Values.Alike more vs ws := alike.imp fun _ _ one => one.mono le

theorem Atom.Alike.mono {a b : Atom} (alike : a.Alike link b) : a.Alike more b := by
  cases alike <;> constructor
  exact Value.Alike.mono le ‹_›

theorem KeyPart.Alike.mono {a b : KeyPart} (alike : a.Alike link b) : a.Alike more b := by
  cases alike <;> constructor
  exact Atom.Alike.mono le ‹_›

theorem Key.Alike.mono {a b : Key} (alike : a.Alike link b) : a.Alike more b := by
  cases alike with
  | atom alike => exact .atom (alike.mono le)
  | compound alike => exact .compound (alike.imp fun _ _ one => one.mono le)

theorem Dict.Alike.mono {d other : Dict} (alike : d.Alike link other) : d.Alike more other :=
  alike.imp fun _ _ one => ⟨one.key.mono le,one.label.mono le,one.value.mono le⟩

theorem Link.Le.option {shelf : Shelf} {x y : Option Address} (alike : Option.Rel (link shelf) x y) :
    Option.Rel (more shelf) x y := by
  cases alike with
  | none => exact .none
  | some linked => exact .some (le _ _ _ linked)

theorem Handle.Alike.mono {h other : Handle} (alike : h.Alike link other) : h.Alike more other := by
  cases alike with
  | path linked => exact .path (le _ _ _ linked) _ _
  | sub linked => exact .sub (le _ _ _ linked) _
  | locked linked => exact .locked (le _ _ _ linked)
  | cell alike => exact .cell (alike.mono le) _

theorem Scope.Alike.mono {scope other : Scope} (alike : scope.Alike link other) :
    scope.Alike more other where
  parent := le.option alike.parent
  data := alike.data.mono le
  specials := le _ _ _ alike.specials
  onlySpecials := alike.onlySpecials
  description := alike.description
  handlers := alike.handlers.imp fun _ _ one =>
    ⟨one.1,one.2.text,le.option one.2.node,one.2.inParent⟩
  htmlContext := alike.htmlContext
  component := alike.component.mono le
  boundary := alike.boundary

theorem Object.Alike.mono {o other : Object} (alike : o.Alike link other) : o.Alike more other := by
  cases alike with
  | items alike => exact .items (alike.mono le)
  | entries alike => exact .entries (alike.mono le)
  | blob alike => exact .blob ⟨alike.mediaType.mono le,alike.data⟩
  | node alike =>
    exact .node ⟨alike.tag.mono le,alike.attrs.mono le,alike.children.imp (le _),alike.style.mono le,
      alike.text.mono le⟩
  | failure alike => exact .failure ⟨alike.fault,le.option alike.cause,le.option alike.trail⟩
  | report alike =>
    exact .report ⟨alike.message,le.option alike.failure,le.option alike.trail,alike.handlerPath,
      alike.block⟩
  | trail frames => exact .trail frames
  | handle alike => exact .handle (alike.mono le)
  | scope alike => exact .scope (alike.mono le)
  | context linked => exact .context (le _ _ _ linked)

end Mono

/-! Where no object is paired twice, being alike one thing is being one thing. -/
section Unique

variable {link : Link} (paired : link.Paired)
include paired

theorem Value.Alike.eq_iff {v v' w w' : Value} (alike : v.Alike link w) (alike' : v'.Alike link w') :
    v = v' ↔ w = w' := by
  constructor
  · rintro rfl
    cases alike <;> cases alike' <;> first | rfl | exact congrArg _ ((paired _ _ _ _ _ ‹_› ‹_›).mp rfl)
  · rintro rfl
    cases alike <;> cases alike' <;> first | rfl | exact congrArg _ ((paired _ _ _ _ _ ‹_› ‹_›).mpr rfl)

theorem Atom.Alike.eq_iff {a a' b b' : Atom} (alike : a.Alike link b) (alike' : a'.Alike link b') :
    a = a' ↔ b = b' := by
  constructor
  · rintro rfl
    cases alike <;> cases alike' <;> first | rfl | exact congrArg _ ((Value.Alike.eq_iff paired ‹_› ‹_›).mp rfl)
  · rintro rfl
    cases alike <;> cases alike' <;> first | rfl | exact congrArg _ ((Value.Alike.eq_iff paired ‹_› ‹_›).mpr rfl)

theorem KeyPart.Alike.eq_iff {a a' b b' : KeyPart} (alike : a.Alike link b)
    (alike' : a'.Alike link b') : a = a' ↔ b = b' := by
  constructor
  · rintro rfl
    cases alike <;> cases alike' <;> first | rfl | exact congrArg _ ((Atom.Alike.eq_iff paired ‹_› ‹_›).mp rfl)
  · rintro rfl
    cases alike <;> cases alike' <;> first | rfl | exact congrArg _ ((Atom.Alike.eq_iff paired ‹_› ‹_›).mpr rfl)

theorem Key.Alike.eq_iff {a a' b b' : Key} (alike : a.Alike link b) (alike' : a'.Alike link b') :
    a = a' ↔ b = b' := by
  have right : Relator.RightUnique (KeyPart.Alike link) :=
    fun _ _ _ one other => (KeyPart.Alike.eq_iff paired one other).mp rfl
  have left : Relator.LeftUnique (KeyPart.Alike link) :=
    fun _ _ _ one other => (KeyPart.Alike.eq_iff paired one other).mpr rfl
  constructor
  · rintro rfl
    cases alike with
    | atom alike =>
      cases alike' with
      | atom alike' => exact congrArg _ ((alike.eq_iff paired alike').mp rfl)
    | compound alike =>
      cases alike' with
      | compound alike' => exact congrArg _ (List.right_unique_forall₂' right alike alike')
  · rintro rfl
    cases alike with
    | atom alike =>
      cases alike' with
      | atom alike' => exact congrArg _ ((alike.eq_iff paired alike').mpr rfl)
    | compound alike =>
      cases alike' with
      | compound alike' => exact congrArg _ (List.left_unique_forall₂' left alike alike')

end Unique

namespace Store

/-- Scopes are made after their parents. -/
def Ordered (s : Store) : Prop := ∀ a parent, (s.scopeAt a).parent = some parent → parent < a

theorem Ordered.of_object {s after : Store} (ordered : s.Ordered)
    (same : ∀ a, after.object .scope a = s.object .scope a) : after.Ordered := by
  intro a parent above
  have scope : after.scopeAt a = s.scopeAt a := Object.scope.inj (same a)
  rw [scope] at above
  exact ordered a parent above

theorem Ordered.of_adds {s after : Store} {shelf : Shelf} {o : Object} (ordered : s.Ordered)
    (adds : s.Adds after shelf o) (notScope : Shelf.scope ≠ shelf) : after.Ordered :=
  ordered.of_object fun a => adds.others _ a (.inl notScope)

theorem Ordered.of_puts {s after : Store} {shelf : Shelf} {a : Address} {o : Object}
    (ordered : s.Ordered) (puts : s.Puts after shelf a o) (notScope : Shelf.scope ≠ shelf) :
    after.Ordered := ordered.of_object fun b => puts.others _ b (.inl notScope)

theorem Ordered.newScope {s : Store} (ordered : s.Ordered) {scope : Scope}
    (later : ∀ parent, scope.parent = some parent → parent < s.scopes.size) :
    (s.newScope scope).2.Ordered := by
  have adds := s.newScope_adds scope
  intro a parent above
  by_cases last : a = s.scopes.size
  · subst last
    have made : (s.newScope scope).2.scopeAt s.scopes.size = scope := Object.scope.inj adds.object
    rw [made] at above
    exact later parent above
  · have same : (s.newScope scope).2.scopeAt a = s.scopeAt a :=
      Object.scope.inj (adds.others .scope a (.inr last))
    rw [same] at above
    exact ordered a parent above

/-- A link between two stores that pairs objects of one form with paired contents. -/
structure Alike (link : Link) (s other : Store) : Prop where
  inside : ∀ shelf a b, link shelf a b → a < s.sizeOf shelf ∧ b < other.sizeOf shelf
  paired : link.Paired
  objects : ∀ shelf a b, link shelf a b → (s.object shelf a).Alike link (other.object shelf b)
  ordered : s.Ordered
  otherOrdered : other.Ordered

namespace Alike

variable {link : Link} {s other after otherAfter : Store} (alike : s.Alike link other)
include alike

theorem of_adds {shelf : Shelf} {o p : Object} (adds : s.Adds after shelf o)
    (otherAdds : other.Adds otherAfter shelf p) (ordered : after.Ordered)
    (otherOrdered : otherAfter.Ordered)
    (new : o.Alike (link.add shelf (s.sizeOf shelf) (other.sizeOf shelf)) p) :
    after.Alike (link.add shelf (s.sizeOf shelf) (other.sizeOf shelf)) otherAfter where
  inside := by
    rintro k a b (linked | ⟨rfl,rfl,rfl⟩)
    · obtain ⟨left,right⟩ := alike.inside k a b linked
      by_cases here : k = shelf
      · subst here
        rw [adds.size,otherAdds.size]
        exact ⟨Nat.lt_succ_of_lt left,Nat.lt_succ_of_lt right⟩
      · rw [adds.sizes k here,otherAdds.sizes k here]
        exact ⟨left,right⟩
    · rw [adds.size,otherAdds.size]
      exact ⟨Nat.lt_succ_self _,Nat.lt_succ_self _⟩
  paired := by
    rintro k a b c d (one | ⟨here,rfl,rfl⟩) (two | ⟨there,rfl,rfl⟩)
    · exact alike.paired k a b c d one two
    · subst there
      have inside := alike.inside _ a b one
      exact ⟨fun same => absurd same (Nat.ne_of_lt inside.1),
        fun same => absurd same (Nat.ne_of_lt inside.2)⟩
    · subst here
      have inside := alike.inside _ c d two
      exact ⟨fun same => absurd same.symm (Nat.ne_of_lt inside.1),
        fun same => absurd same.symm (Nat.ne_of_lt inside.2)⟩
    · exact ⟨fun _ => rfl,fun _ => rfl⟩
  objects := by
    rintro k a b (linked | ⟨rfl,rfl,rfl⟩)
    · obtain ⟨left,right⟩ := alike.inside k a b linked
      have apart : k ≠ shelf ∨ a ≠ s.sizeOf shelf := by
        by_cases here : k = shelf
        · subst here
          exact .inr (Nat.ne_of_lt left)
        · exact .inl here
      have otherApart : k ≠ shelf ∨ b ≠ other.sizeOf shelf := by
        by_cases here : k = shelf
        · subst here
          exact .inr (Nat.ne_of_lt right)
        · exact .inl here
      rw [adds.others k a apart,otherAdds.others k b otherApart]
      exact (alike.objects k a b linked).mono (link.le_add _ _ _)
    · rw [adds.object,otherAdds.object]
      exact new
  ordered := ordered
  otherOrdered := otherOrdered

theorem of_puts {shelf : Shelf} {a b : Address} {o p : Object} (linked : link shelf a b)
    (puts : s.Puts after shelf a o) (otherPuts : other.Puts otherAfter shelf b p)
    (notScope : Shelf.scope ≠ shelf) (new : o.Alike link p) : after.Alike link otherAfter where
  inside k c d two := by
    rw [puts.sizes,otherPuts.sizes]
    exact alike.inside k c d two
  paired := alike.paired
  objects k c d two := by
    by_cases here : k = shelf ∧ c = a
    · obtain ⟨rfl,rfl⟩ := here
      obtain rfl : b = d := (alike.paired _ _ _ _ _ linked two).mp rfl
      obtain ⟨left,right⟩ := alike.inside _ _ _ linked
      rw [puts.object left,otherPuts.object right]
      exact new
    · have apart : k ≠ shelf ∨ c ≠ a := Classical.not_and_iff_not_or_not.mp here
      have otherApart : k ≠ shelf ∨ d ≠ b := by
        by_cases same : k = shelf
        · subst same
          refine .inr fun meets => ?_
          exact apart.elim (fun differ => differ rfl) fun differ =>
            differ ((alike.paired _ _ _ _ _ two linked).mpr meets)
        · exact .inl same
      rw [puts.others k c apart,otherPuts.others k d otherApart]
      exact alike.objects k c d two
  ordered := alike.ordered.of_puts puts notScope
  otherOrdered := alike.otherOrdered.of_puts otherPuts notScope

/-- What is only made on one side is alike nothing on the other. -/
theorem of_grew (grew : other.Grew otherAfter) (ordered : otherAfter.Ordered) :
    s.Alike link otherAfter where
  inside k a b linked := ⟨(alike.inside k a b linked).1,(grew k b (alike.inside k a b linked).2).1⟩
  paired := alike.paired
  objects k a b linked := by
    rw [(grew k b (alike.inside k a b linked).2).2]
    exact alike.objects k a b linked
  ordered := alike.ordered
  otherOrdered := ordered

theorem of_grew_left (grew : s.Grew after) (ordered : after.Ordered) : after.Alike link other where
  inside k a b linked := ⟨(grew k a (alike.inside k a b linked).1).1,(alike.inside k a b linked).2⟩
  paired := alike.paired
  objects k a b linked := by
    rw [(grew k a (alike.inside k a b linked).1).2]
    exact alike.objects k a b linked
  ordered := ordered
  otherOrdered := alike.otherOrdered

end Alike
end Store

theorem Named.set_alike {α β : Type} {rel : α → β → Prop} {named : Named α} {other : Named β}
    (alike : List.Forall₂ (fun x y : String × _ => x.1 = y.1 ∧ rel x.2 y.2) named other)
    (name : String) {x : α} {y : β} (same : rel x y) :
    List.Forall₂ (fun x y : String × _ => x.1 = y.1 ∧ rel x.2 y.2) (Named.set name x named)
      (Named.set name y other) := by
  induction alike with
  | nil => exact .cons ⟨rfl,same⟩ .nil
  | @cons pair otherPair rest otherRest one tail ih =>
    obtain ⟨here,held⟩ := pair
    obtain ⟨there,otherHeld⟩ := otherPair
    obtain ⟨rfl,related⟩ : here = there ∧ rel held otherHeld := one
    unfold Named.set
    by_cases found : here = name
    · rw [if_pos found,if_pos found]
      exact .cons ⟨rfl,same⟩ tail
    · rw [if_neg found,if_neg found]
      exact .cons ⟨rfl,related⟩ ih

namespace Runtime

/-- A runtime without what a batch of actions may change beside the registry. -/
def surroundings (r : Runtime) : Runtime :=
  { r with store := .empty, roots := [], document := none, journal := #[] }

/-- Two runtimes hold the same up to addresses; their journals may differ. -/
structure Alike (link : Link) (r other : Runtime) : Prop where
  store : r.store.Alike link other.store
  roots : List.Forall₂ (fun x y : String × Value => x.1 = y.1 ∧ x.2.Alike link y.2)
    r.roots other.roots
  document : Option.Rel (link .node) r.document other.document
  surroundings : other.surroundings = r.surroundings

theorem Alike.of_grew_left {link : Link} {r after other : Runtime} (alike : r.Alike link other)
    (grew : r.Grew after) (ordered : after.store.Ordered) : after.Alike link other where
  store := alike.store.of_grew_left grew.store ordered
  roots := by
    rw [grew.roots]
    exact alike.roots
  document := by
    rw [grew.document]
    exact alike.document
  surroundings := alike.surroundings.trans (congrArg Runtime.surroundings grew.frame).symm

theorem Alike.setRoot {link : Link} {r other : Runtime} (alike : r.Alike link other) (name : String)
    {v w : Value} (same : v.Alike link w) : (r.setRoot name v).Alike link (other.setRoot name w) where
  store := alike.store
  roots := Named.set_alike alike.roots name same
  document := alike.document
  surroundings := alike.surroundings

end Runtime
end PageRuntime
