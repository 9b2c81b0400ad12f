import PageRuntime.Proofs.Additions
import PageRuntime.Proofs.Deletions
import PageRuntime.Proofs.PathText

/-! Context views. A name is looked up from the scope upwards, the flattened mapping is merged from the
root downwards, and paths read through either. Each arrives at the nearest binding, whatever was set or
erased on any scope before. -/
namespace PageRuntime
open Unicode

namespace Dict

variable {d : Dict}

theorem has_eq (d : Dict) (key : Key) : d.has key = (d.get? key).isSome := by
  unfold has get?
  rw [Option.isSome_map,List.isSome_find?]

/-- Without a key twice, what is found from the front is found from the back. -/
theorem get?_reverse (once : (d.map (·.key)).Nodup) (key : Key) : get? d.reverse key = d.get? key := by
  have absent {part : Dict} (none : part.get? key = .none) : get? part.reverse key = .none := by
    rw [get?_none,List.map_reverse,List.mem_reverse]
    exact get?_none.mp none
  cases found : d.get? key with
  | none => exact absent found
  | some v =>
    obtain ⟨before,label,rest,rfl,-,second,-⟩ := split_at once found
    rw [List.reverse_append,List.reverse_cons,get?_append,get?_append,absent second]
    simp [get?]

theorem nodup_erase (once : (d.map (·.key)).Nodup) (key : Key) :
    ((d.erase key).map (·.key)).Nodup :=
  once.sublist (List.filter_sublist.map _)

end Dict

namespace Store

variable {s : Store}

/-- Merging the bindings of a line of scopes, the farthest first, leaves the nearest of each key. -/
theorem get?_merged (once : ∀ a, ((s.dictAt a).map (·.key)).Nodup) (line : List Address) (key : Key) :
    Dict.get? (line.reverse.foldl (fun merged scope => Dict.update merged (s.specialsOf scope)) []) key =
      line.findSome? fun scope => (s.specialsOf scope).get? key := by
  induction line with
  | nil => rfl
  | cons scope line ih =>
    -- The nearest scope is merged last, over all that lies above it.
    have nearest : Dict.get? (s.specialsOf scope).reverse key = (s.specialsOf scope).get? key :=
      Dict.get?_reverse (once _) key
    rw [List.reverse_cons,List.foldl_append,List.foldl_cons,List.foldl_nil,Dict.get?_update,nearest,ih,
      List.findSome?_cons]
    cases (s.specialsOf scope).get? key <;> rfl

theorem hasContextKey_eq (s : Store) (scope : Address) (key : Key) :
    s.hasContextKey scope key = (s.contextBinding? scope key).isSome := by
  rw [hasContextKey,contextBinding?,List.isSome_findSome?]
  simp only [Dict.has_eq]

/-- Where a dictionary is put, it is found; elsewhere, and past the last address, nothing is new. -/
theorem dictAt_putDict (s : Store) (a b : Address) (d : Dict) :
    (s.putDict a d).dictAt b = d ∨ (s.putDict a d).dictAt b = s.dictAt b :=
  ((s.putDict_puts a d).either .dict b).imp (fun here => Object.entries.inj here.2.2) Object.entries.inj

/-- What the three views from a scope say of a key: the binding that is looked up is the entry of the
flattened mapping, which may hold null, and it is there exactly if the key counts as bound. -/
structure ViewsAgree (s : Store) (scope : Address) (key : Key) : Prop where
  binding : s.contextBinding? scope key = (s.squashedContext scope).get? key
  value : s.contextKey scope key = (s.squashedContext scope).get key
  has : s.hasContextKey scope key = (s.squashedContext scope).has key

theorem viewsAgree (once : ∀ a, ((s.dictAt a).map (·.key)).Nodup) (scope : Address) (key : Key) :
    s.ViewsAgree scope key := by
  have binding : s.contextBinding? scope key = (s.squashedContext scope).get? key :=
    (get?_merged once (s.chain scope) key).symm
  refine ⟨binding,congrArg Value.ofOption binding,?_⟩
  rw [Dict.has_eq,← binding,hasContextKey_eq]

end Store

theorem Runtime.contextKey_withHandle (r : Runtime) (handle : Handle) (scope : Address) (key : Key) :
    (r.withHandle handle).store.contextKey scope key = r.store.contextKey scope key :=
  have adds := r.store.newHandle_adds handle
  (adds.scopes (by decide)).contextKey (fun _ _ =>
    Object.entries.inj (adds.others .dict _ (.inl (by decide)))) key

namespace Context

/-- A change made through the view of the bindings visible from a scope. -/
inductive Change
  | set (scope : Address) (key : Key) (label value : Value)
  | erase (scope : Address) (key : Key)

namespace Change

def make : Change → Act Unit
  | set scope key label value => Context.set scope key label value
  | erase scope key => Context.erase scope key

/-- The scope whose bindings change. -/
def target : Change → Address
  | set scope _ _ _ => scope
  | erase scope _ => scope

/-- What the change makes of the bindings of its scope. -/
def apply : Change → Dict → Dict
  | set _ key label value, d => d.insert key label value
  | erase _ key, d => d.erase key

def store (change : Change) (s : Store) : Store :=
  s.putDict (s.scopeAt change.target).specials (change.apply (s.specialsOf change.target))

theorem make_run (change : Change) (r : Runtime) :
    change.make r = (.done (),{ r with store := change.store r.store }) := by
  cases change <;> rfl

theorem nodup_apply (change : Change) {d : Dict} (once : (d.map (·.key)).Nodup) :
    ((change.apply d).map (·.key)).Nodup := by
  cases change with
  | set scope key label value => exact Dict.nodup_insert once key label value
  | erase scope key => exact Dict.nodup_erase once key

theorem store_once (change : Change) {s : Store} (once : ∀ a, ((s.dictAt a).map (·.key)).Nodup)
    (a : Address) : (((change.store s).dictAt a).map (·.key)).Nodup := by
  obtain same | same := s.dictAt_putDict (s.scopeAt change.target).specials a
    (change.apply (s.specialsOf change.target)) <;> rw [store,same]
  · exact change.nodup_apply (once _)
  · exact once a

end Change

def changeAll : List Change → Act Unit
  | [] => return ()
  | change :: changes => do
    change.make
    changeAll changes

theorem changeAll_run (changes : List Change) {r : Runtime}
    (once : ∀ a, ((r.store.dictAt a).map (·.key)).Nodup) : ∃ after,
      changeAll changes r = (.done (),after) ∧ ∀ a, ((after.store.dictAt a).map (·.key)).Nodup := by
  induction changes generalizing r with
  | nil => exact ⟨r,rfl,once⟩
  | cons change changes ih =>
    rw [changeAll,Step.bind_done (change.make_run r)]
    exact ih (change.store_once once)

end Context

/-! The texts that name one binding. -/

/-- The path that leads to one visible binding. -/
def bindingPath (key : Segment) : Path := ⟨⟨.context,0⟩,[key]⟩

/-- Names that need no quotes after the mark. -/
def isBindingName : List Char → Bool
  | [] => false
  | c :: rest => isNameStart c && rest.all isFieldChar

def markedText (name : String) : String := String.ofList ('@' :: name.toList)

def quotedText (name : String) : String :=
  String.ofList ('$' :: ("context".toList ++ '[' :: (Json.quoteChars .plain name.toList ++ [']'])))

theorem isBindingName_cons {name : List Char} (form : isBindingName name = true) : ∃ c rest,
    name = c :: rest ∧ isNameStart c = true ∧ ∀ d ∈ rest, isFieldChar d = true := by
  cases name with
  | nil => simp [isBindingName] at form
  | cons c rest => exact ⟨c,rest,rfl,by simpa [isBindingName] using form⟩

theorem isBindingName_chars {name : List Char} (form : isBindingName name = true) :
    ∀ c ∈ name, isFieldChar c = true := by
  obtain ⟨c,rest,rfl,start,follows⟩ := isBindingName_cons form
  intro d member
  obtain rfl | member := List.mem_cons.mp member
  · exact isFieldChar_nameChar (by rw [isNameChar,start]; rfl)
  · exact follows d member

theorem spanName_bindingName {name : List Char} (form : isBindingName name = true) :
    spanName isFieldChar name = (name,[]) := by
  obtain ⟨c,rest,rfl,start,follows⟩ := isBindingName_cons form
  obtain ⟨taken,dropped⟩ := span_append [] follows (by simp)
  rw [List.append_nil] at taken dropped
  simp [spanName,start,taken,dropped]

theorem read_markedText {name : String} (form : isBindingName name.toList = true) :
    Path.read (markedText name) = .ok (bindingPath (.field name)) := by
  have visible : ∀ c ∈ '@' :: name.toList, isBlank c = false := by
    intro c member
    obtain rfl | member := List.mem_cons.mp member
    · decide
    · exact isBlank_fieldChar (isBindingName_chars form c member)
  have trimmed := trimBlank_eq (fun c first => visible c (List.mem_of_mem_head? first))
    (EndsVisible.of_all visible)
  have span := spanName_bindingName form
  obtain ⟨c,rest,chars,-⟩ := isBindingName_cons form
  rw [chars] at span
  rw [Path.read,markedText,String.toList_ofList,trimmed]
  simp only [chars,span,readSegments]
  rw [← chars,String.ofList_toList]
  rfl

/-- A path from a root without carets is read from the name of the root and what follows it. -/
theorem read_rooted {name tail : List Char} {segments : List Segment}
    (identifier : isRootName name = true) (present : name ≠ []) (opens : Opens tail)
    (ends : EndsVisible ('$' :: (name ++ tail)))
    (read : ∀ shown length, tail.length < length →
      readSegments shown length length tail = .ok segments) :
    Path.read (String.ofList ('$' :: (name ++ tail))) =
      .ok ⟨Root.ofName (String.ofList name) 0,segments⟩ := by
  have trimmed := trimBlank_eq (fun c first => by
    obtain rfl : '$' = c := by simpa using first
    decide) ends
  obtain ⟨taken,dropped⟩ := span_carets tail identifier present 0
  rw [List.replicate_zero,List.nil_append] at taken dropped
  rw [Path.read,String.toList_ofList,trimmed]
  simp only [taken,dropped,spanName_rootName identifier present opens]
  rw [read _ _ (by simp only [List.length_cons,List.length_append]; omega)]
  rfl

theorem read_quotedText (name : String) :
    Path.read (quotedText name) = .ok (bindingPath (.field name)) := by
  refine read_rooted (by decide) (by decide) (fun c first => .inr ?_) ?_ fun shown length enough => ?_
  · simpa using first.symm
  · exact EndsVisible.bracket ('$' :: ("context".toList ++ '[' :: Json.quoteChars .plain name.toList))
  · cases length with
    | zero => cases enough
    | succ fuel => simp [readSegments,readBracket_quoteChars,bind,Except.bind]

namespace Reference

/-- A value read through references. -/
def through (v : Value) : Act Value := do (← settle (.value v)).realize

variable {scope : Address} {key : Segment} {text : String}

/-- Along the path of one binding, what is looked up is read through references. -/
theorem resolve_binding {r : Runtime} {a : Address} {locked : Bool}
    (here : r.store.handleAt a = .path scope (bindingPath key) locked) :
    r.readReference a =
      (Spot.value (r.store.contextKey scope (.text key.bindingName))).follow r.resolve := by
  have read : r.readReference a = r.resolve a := by
    rw [Runtime.readReference,Runtime.readWithin,here]
  rw [read,r.resolve_eq,here]
  have rooted : r.rootSpot scope (bindingPath key).root =
      .ok (((r.store.ancestor? scope 0).map .bindings).getD .null) := rfl
  obtain none | ⟨line,chain⟩ := r.store.chain_cases scope
  · have null : r.store.contextKey scope (.text key.bindingName) = .null := by
      rw [Store.contextKey,Store.contextBinding?,none]
      rfl
    rw [Store.ancestor?,none] at rooted
    rw [null,Runtime.readHandle,rooted]
    rfl
  · rw [Store.ancestor?,chain] at rooted
    rw [Runtime.readHandle,rooted]
    show (Spot.walk r.resolve r.store [key] (.bindings scope) >>= _) = _
    rw [Spot.walk_cons]
    rfl

/-- Reading along a path makes a handle on the binding and reads the binding through references. -/
theorem resolvePath_binding (read : Path.read text = .ok (bindingPath key)) (r : Runtime) :
    resolvePath scope (.str text) r = (do
      let _ ← ofPath scope (bindingPath key) false
      through (r.store.contextKey scope (.text key.bindingName))) r := by
  have found := resolve_binding (r.handleAt_withHandle (.path scope (bindingPath key) false))
  rw [Runtime.contextKey_withHandle] at found
  have made : ofValue scope (.str text) = ofPath scope (bindingPath key) false := by
    rw [ofValue,pathOf,read]
    rfl
  rw [resolvePath,made]
  exact congrArg (fun reached => (Act.ofExcept reached >>= Spot.realize) _) found

end Reference

namespace Context
open Reference (through ofPath resolvePath)

/-- Where no dictionary has a key twice, every scope sees each key the same way in all three views after
any changes on any scopes, and the paths of a binding read that value through references. -/
theorem views_agree {r : Runtime} (once : ∀ a, ((r.store.dictAt a).map (·.key)).Nodup)
    (changes : List Change) : ∃ after, changeAll changes r = (.done (),after) ∧
      (∀ scope key, after.store.ViewsAgree scope key) ∧
      (∀ scope text key, Path.read text = .ok (bindingPath key) →
        resolvePath scope (.str text) after = (do
          let _ ← ofPath scope (bindingPath key) false
          through ((after.store.squashedContext scope).get (.text key.bindingName))) after) ∧
      (∀ name, isBindingName name.toList = true →
        Path.read (markedText name) = .ok (bindingPath (.field name))) ∧
      ∀ name, Path.read (quotedText name) = .ok (bindingPath (.field name)) := by
  obtain ⟨after,ran,kept⟩ := changeAll_run changes once
  refine ⟨after,ran,Store.viewsAgree kept,fun scope text key read => ?_,
    fun name form => read_markedText form,read_quotedText⟩
  rw [Reference.resolvePath_binding read,(Store.viewsAgree kept scope _).value]

def binding (name : String) (v : Value) : Slot := ⟨.text name,.str name,v⟩

/-- A page with three scopes, one below the other, that bind some of the same names. One of the
bindings is a reference to the page state. -/
def layered : Runtime :=
  let scope (parent : Option Address) (specials : Address) : Scope :=
    ⟨parent,.null,specials,false,none,[],none,.null,.none⟩
  { Page.initial with
    store := { Page.initial.store with
      handles := ⟨#[.path 0 ⟨⟨.state,0⟩,[.field "n"]⟩ false]⟩
      scopes := ⟨#[scope none 2,scope (some 0) 3,scope (some 1) 4]⟩
      dicts := ⟨#[[],[binding "n" (.int 5)],[binding "x" (.int 1),binding "y" (.ref 0)],[],
        [binding "x" (.int 3)]]⟩ } }

/-- The scope in the middle binds null, and the binding below it goes. -/
def uncovering : List Change := [.set 1 (.text "x") (.str "x") .null,.erase 2 (.text "x")]

theorem layered_once (a : Address) : ((layered.store.dictAt a).map (·.key)).Nodup := by
  obtain _ | _ | _ | _ | _ | a := a
  · decide
  · decide
  · decide
  · decide
  · decide
  · rw [Store.dictAt_outside (Nat.le_add_left 5 a)]
    exact List.nodup_nil

theorem views_agree_layered : ∃ after, changeAll uncovering layered = (.done (),after) ∧
    after.store.ViewsAgree 2 (.text "x") ∧ after.store.contextBinding? 2 (.text "x") = some .null ∧
    after.store.squashedContext 2 = [binding "x" .null,binding "y" (.ref 0)] ∧
    (resolvePath 2 (.str (markedText "x")) after).1 = .done .null ∧
    (resolvePath 2 (.str (quotedText "y")) after).1 = .done (.int 5) := by
  obtain ⟨after,ran,agree,read,marked,quoted⟩ := views_agree layered_once uncovering
  have first := read 2 _ _ (marked "x" (by decide))
  have second := read 2 _ _ (quoted "y")
  have done : after = (changeAll uncovering layered).2 := (congrArg Prod.snd ran).symm
  subst done
  refine ⟨_,ran,agree 2 _,by decide,by decide,?_,?_⟩
  · rw [first]
    rfl
  · rw [second]
    rfl

end Context
end PageRuntime
