import PageRuntime.Page
import PageRuntime.Proofs.Growth
import PageRuntime.Proofs.QuotedKeys

/-! Names of handles. A handle made below others shows each field behind a point as it is, where the
text of a path quotes what is no plain field. So the name of such a handle is a path to the location of
the handle exactly if all its fields are plain: a field that is not would be cut short. -/
namespace PageRuntime
open Unicode

/-- What an accessor adds to the name of a handle. -/
def Segment.shownChars : Segment → List Char
  | .index place => '[' :: (intChars place ++ [']'])
  | .field name => '.' :: name.toList

def Segment.isPlain : Segment → Bool
  | .index _ => true
  | .field name => isPlainField name.toList

theorem Segment.shownChars_plain {segment : Segment} (plain : segment.isPlain = true) :
    segment.shownChars = segment.chars := by
  cases segment with
  | index place => rfl
  | field name => simp_all [shownChars,chars,isPlain]

theorem spanField_plainField {text name rest : List Char} (span : spanField text = (name, rest))
    (present : name ≠ []) : isPlainField name = true := by
  revert span
  fun_cases spanField text with
  | case1 | case3 => exact fun span => absurd (Prod.mk.inj span).1.symm present
  | case2 c behind start =>
    rintro ⟨⟩
    simp [isPlainField,start,List.all_takeWhile]

/-- What is read behind a point is a plain field. -/
theorem readAccessor?_point {text rest : List Char} {segment : Segment}
    (read : readAccessor? ('.' :: text) = some (segment, rest)) : segment.isPlain = true := by
  rw [readAccessor?] at read
  cases span : spanField text with
  | mk name behind =>
    cases name with
    | nil => simp [span] at read
    | cons c name =>
      obtain ⟨rfl,rfl⟩ : .field (String.ofList (c :: name)) = segment ∧ behind = rest := by
        simpa [span] using read
      rw [Segment.isPlain,String.toList_ofList]
      exact spanField_plainField span (List.cons_ne_nil c name)

theorem Opens.append {text rest : List Char} (opens : Opens text) (opensRest : Opens rest) :
    Opens (text ++ rest) := by
  cases text with
  | nil => exact opensRest
  | cons c text => exact opens

theorem readSegments_none {shown : String} {length : Nat} {text : List Char} {found : List Segment}
    (read : readSegments shown length 0 text = .ok found) : text = [] := by
  cases text with
  | nil => rfl
  | cons c text => simp [readSegments] at read

theorem Segment.chars_ne_nil (segment : Segment) : segment.chars ≠ [] := by
  fun_cases Segment.chars segment <;> simp

theorem readSegments_behind {shown : String} {length fuel : Nat} {rest : List Char}
    {segments found : List Segment} (opens : Opens rest)
    (read : readSegments shown length fuel (segments.flatMap Segment.chars ++ rest) = .ok found) :
    ∃ less others, readSegments shown length less rest = .ok others ∧ found = segments ++ others := by
  induction segments generalizing fuel found with
  | nil => exact ⟨fuel,found,read,rfl⟩
  | cons segment segments ih =>
    rw [List.flatMap_cons,List.append_assoc] at read
    cases fuel with
    | zero =>
      have none := readSegments_none read
      exact absurd (List.append_eq_nil_iff.mp none).1 segment.chars_ne_nil
    | succ fuel =>
      obtain ⟨inner,readOn,rfl⟩ :=
        (readSegments_segment segment ((Segment.opens segments).append opens)).mp read
      obtain ⟨less,others,readRest,rfl⟩ := ih readOn
      exact ⟨less,others,readRest,rfl⟩

/-- Trimming takes nothing from what begins and ends visibly. -/
theorem trimBlank_front {front : List Char} (present : front ≠ [])
    (first : ∀ c ∈ front.head?, isBlank c = false) (last : EndsVisible front) (tail : List Char) :
    ∃ rest, trimBlank (front ++ tail) = front ++ rest := by
  have kept {text : List Char} (text_ : text ≠ []) (visible : ∀ c ∈ text.head?, isBlank c = false)
      (rest : List Char) : (text ++ rest).dropWhile isBlank = text ++ rest := by
    cases text with
    | nil => exact absurd rfl text_
    | cons c text => exact List.dropWhile_cons_of_neg (by simp [visible c (by simp)])
  rw [trimBlank,kept present first,List.reverse_append,List.dropWhile_append]
  split
  · have whole : (front.reverse ++ []).dropWhile isBlank = front.reverse ++ [] :=
      kept (by simpa using present) (by simpa [EndsVisible] using last) []
    rw [List.append_nil] at whole
    exact ⟨[],by rw [whole,List.reverse_reverse,List.append_nil]⟩
  · exact ⟨_,by rw [List.reverse_append,List.reverse_reverse]⟩

namespace Path

variable {name : String} {caret : Nat} {segments : List Segment} {more : List Char}

/-- What is read behind the text of a path and a point continues the path with a plain field. -/
theorem read_point (identifier : isRootName name.toList = true) {found : Path}
    (read : Path.read (String.ofList ((Path.mk (Root.ofName name caret) segments).chars ++ '.' :: more)) =
      .ok found) :
    ∃ segment rest, found.segments = segments ++ segment :: rest ∧ segment.isPlain = true := by
  obtain ⟨-,present,shown⟩ := RootKind.ofName_name identifier
  have visible : EndsVisible ((Path.mk (Root.ofName name caret) segments).chars ++ ['.']) :=
    (Path.endsVisible identifier caret segments).append (by simp [EndsVisible]; decide)
  obtain ⟨rest,trimmed⟩ := trimBlank_front (by simp)
    (by simp [Path.chars,Root.chars,show isBlank '$' = false by decide]) visible more
  have opens : Opens ('.' :: rest) := by
    rintro _ ⟨⟩
    exact .inl rfl
  have source : trimBlank (String.ofList
      ((Path.mk (Root.ofName name caret) segments).chars ++ '.' :: more)).toList =
      '$' :: (List.replicate caret '^' ++ ((RootKind.ofName name).name.toList ++
        (segments.flatMap Segment.chars ++ '.' :: rest))) := by
    rw [String.toList_ofList]
    simpa [Path.chars,Root.chars,Root.ofName] using trimmed
  obtain ⟨spelled,behind,others,span,readRest,rfl⟩ := (read_named source).mp read
  obtain ⟨-,dropped⟩ := span_carets (segments.flatMap Segment.chars ++ '.' :: rest) shown present caret
  have spanned := spanName_rootName shown present ((Segment.opens segments).append opens)
  rw [dropped,spanned] at span
  obtain ⟨-,rfl⟩ := Prod.mk.inj span
  obtain ⟨less,inner,readPoint,rfl⟩ := readSegments_behind opens readRest
  cases less with
  | zero => cases readSegments_none readPoint
  | succ less =>
    obtain ⟨segment,tail,later,accessor,-,rfl⟩ := readSegments_cons.mp readPoint
    exact ⟨segment,later,rfl,readAccessor?_point accessor⟩

/-- A path with accessors shown behind it is read as the path with those accessors exactly if all of
them are plain. -/
theorem read_shownChars (identifier : isRootName name.toList = true) (keys : List Segment) :
    Path.read (String.ofList ((Path.mk (Root.ofName name caret) segments).chars ++
      keys.flatMap Segment.shownChars)) = .ok ⟨Root.ofName name caret,segments ++ keys⟩ ↔
      ∀ key ∈ keys, key.isPlain = true := by
  induction keys generalizing segments with
  | nil =>
    have read := Path.read_ofName identifier caret segments
    simpa [Path.text] using read
  | cons key keys ih =>
    by_cases plain : key.isPlain = true
    · have moved := @ih (segments ++ [key])
      simpa [Path.chars,Segment.shownChars_plain plain,plain] using moved
    · cases key with
      | index place => exact absurd rfl plain
      | field bad =>
        refine iff_of_false (fun read => ?_) fun all => plain (all _ List.mem_cons_self)
        obtain ⟨segment,rest,same,shown⟩ := read_point identifier read
        obtain ⟨rfl,-⟩ := List.cons.inj (List.append_cancel_left same)
        exact plain shown

end Path

/-- The handle is made on the path, one accessor after another. -/
inductive Store.MadeOn (s : Store) (path : Path) : Address → List Segment → Prop
  | path {a scope : Address} (inside : a < s.handles.size)
    (here : s.handleAt a = .path scope path false) : MadeOn s path a []
  | sub {a parent : Address} {keys : List Segment} {key : Segment} (inside : a < s.handles.size)
    (older : parent < a) (here : s.handleAt a = .sub parent key) (above : MadeOn s path parent keys) :
    MadeOn s path a (keys ++ [key])

namespace Store.MadeOn

variable {s after : Store} {path : Path} {a : Address} {keys : List Segment}

theorem inside (made : s.MadeOn path a keys) : a < s.handles.size := by
  cases made <;> assumption

theorem unlocked (made : s.MadeOn path a keys) (inner : Address) : s.handleAt a ≠ .locked inner := by
  cases made with
  | path _ here | sub _ _ here => rw [here]; nofun

theorem grew (made : s.MadeOn path a keys) (grew : s.Grew after) : after.MadeOn path a keys := by
  induction made with
  | path inside here =>
    obtain ⟨still,same⟩ := grew .handle _ inside
    exact .path still ((Object.handle.inj same).trans here)
  | sub inside older here _ ih =>
    obtain ⟨still,same⟩ := grew .handle _ inside
    exact .sub still older ((Object.handle.inj same).trans here) ih

theorem name (made : s.MadeOn path a keys) {fuel : Nat} (enough : a < fuel) :
    s.handleNameWithin fuel a = String.ofList (path.chars ++ keys.flatMap Segment.shownChars) := by
  induction made generalizing fuel with
  | path inside here =>
    obtain ⟨fuel,rfl⟩ := Nat.exists_eq_add_one_of_ne_zero (Nat.ne_zero_of_lt enough)
    simp [handleNameWithin,here,Path.text]
  | @sub a parent keys key inside older here above ih =>
    obtain ⟨fuel,rfl⟩ := Nat.exists_eq_add_one_of_ne_zero (Nat.ne_zero_of_lt enough)
    have before := ih (Nat.lt_of_lt_of_le older (Nat.le_of_lt_succ enough))
    rw [List.flatMap_append,← List.append_assoc,String.ofList_append,← before]
    cases key with
    | index place => simp [handleNameWithin,here,Segment.shownChars,String.append_assoc]
    | field name => simp [handleNameWithin,here,Segment.shownChars,String.append_assoc]

theorem handleName (made : s.MadeOn path a keys) :
    s.handleName a = String.ofList (path.chars ++ keys.flatMap Segment.shownChars) :=
  made.name made.inside

end Store.MadeOn

namespace Reference

theorem subscriptWithin_unlocked {r : Runtime} {a : Address}
    (unlocked : ∀ inner, r.store.handleAt a ≠ .locked inner) (fuel : Nat) (key : Segment) :
    subscriptWithin fuel a key r = Act.make (·.newHandle (.sub a key)) r := by
  cases fuel with
  | zero => rfl
  | succ fuel =>
    rw [subscriptWithin,Step.bind_done (Act.store_run r)]
    cases held : r.store.handleAt a with
    | locked inner => exact absurd held (unlocked inner)
    | _ => rfl

theorem subscript_made {r : Runtime} {path : Path} {a : Address} {keys : List Segment}
    (made : r.store.MadeOn path a keys) (key : Segment) :
    ∃ b after, subscript a key r = (.done b,after) ∧ after.store.MadeOn path b (keys ++ [key]) := by
  have adds := r.store.newHandle_adds (.sub a key)
  have run := subscriptWithin_unlocked made.unlocked r.store.handles.size key
  refine ⟨_,_,run,.sub ?_ made.inside ?_ (made.grew (.of_adds adds))⟩
  · exact Nat.lt_of_lt_of_eq (Nat.lt_succ_self _) adds.size.symm
  · exact Object.handle.inj adds.object

theorem subscripts_made {path : Path} {keys : List Segment} {a : Address} {r : Runtime}
    (made : r.store.MadeOn path a keys) (more : List Segment) :
    ∃ b after, more.foldlM subscript a r = (.done b,after) ∧
      after.store.MadeOn path b (keys ++ more) := by
  induction more generalizing a r keys with
  | nil => exact ⟨a,r,rfl,by rwa [List.append_nil]⟩
  | cons key more ih =>
    obtain ⟨b,mid,ran,made⟩ := subscript_made made key
    obtain ⟨c,after,onward,made⟩ := ih made
    exact ⟨c,after,(Step.bind_done ran).trans onward,by rwa [List.append_assoc] at made⟩

/-- A handle on the location that a text names, and one accessor after another below it. -/
def below (scope : Address) (text : String) (keys : List Segment) : Act Address := do
  keys.foldlM subscript (← ofValue scope (.str text))

theorem below_made (r : Runtime) (scope : Address) {text : String} {path : Path} (keys : List Segment)
    (read : Path.read text = .ok path) :
    ∃ a after, below scope text keys r = (.done a,after) ∧ after.store.MadeOn path a keys := by
  have adds := r.store.newHandle_adds (.path scope path false)
  have first : ofValue scope (.str text) r = (.done r.store.handles.size,
      { r with store := (r.store.newHandle (.path scope path false)).2 }) := by
    rw [ofValue,pathOf,read]
    rfl
  let mid := { r with store := (r.store.newHandle (.path scope path false)).2 }
  have made : mid.store.MadeOn path r.store.handles.size [] :=
    .path (Nat.lt_of_lt_of_eq (Nat.lt_succ_self _) adds.size.symm) (Object.handle.inj adds.object)
  obtain ⟨a,after,ran,made⟩ := subscripts_made made keys
  exact ⟨a,after,(Step.bind_done first).trans ran,made⟩

/-- The name of a handle that is made on a path with accessors below it is a path to the location of
the handle exactly if the accessors are plain. -/
theorem below_named (r : Runtime) (scope : Address) (text : String) (path : Path) (keys : List Segment)
    (read : Path.read text = .ok path) : ∃ a after, below scope text keys r = (.done a,after) ∧
      after.store.MadeOn path a keys ∧
      (Path.read (after.store.handleName a) = .ok ⟨path.root,path.segments ++ keys⟩ ↔
        ∀ key ∈ keys, key.isPlain = true) := by
  obtain ⟨a,after,ran,made⟩ := below_made r scope keys read
  obtain ⟨root,segments⟩ := path
  obtain ⟨name,caret,identifier,rfl⟩ := Path.read_root read
  refine ⟨a,after,ran,made,?_⟩
  rw [made.handleName]
  exact Path.read_shownChars identifier keys

theorem below_named_nested : ∃ a after,
    below 0 " $^local['it\\'s']\n" [.index (-2),.field "user-1"] Page.initial = (.done a,after) ∧
      after.store.handleName a = "$^local[\"it's\"][-2].user-1" ∧
      Path.read (after.store.handleName a) =
        .ok ⟨⟨.localData,1⟩,[.field "it's",.index (-2),.field "user-1"]⟩ := by
  have read : Path.read " $^local['it\\'s']\n" = .ok ⟨⟨.localData,1⟩,[.field "it's"]⟩ := by
    decide +kernel
  obtain ⟨a,after,ran,made,reads⟩ :=
    below_named Page.initial 0 _ _ [.index (-2),.field "user-1"] read
  refine ⟨a,after,ran,?_,reads.mpr (List.all_eq_true.mp (by decide))⟩
  rw [made.handleName]
  decide +kernel

/-- A field with a point in it is shown as two accessors. -/
theorem below_cut : ∃ a after, below 0 "$state" [.field "a.b"] Page.initial = (.done a,after) ∧
    after.store.handleName a = "$state.a.b" ∧
    Path.read (after.store.handleName a) = .ok ⟨⟨.state,0⟩,[.field "a",.field "b"]⟩ ∧
    Path.read (after.store.handleName a) ≠ .ok ⟨⟨.state,0⟩,[.field "a.b"]⟩ := by
  have read : Path.read "$state" = .ok ⟨⟨.state,0⟩,[]⟩ := by decide +kernel
  have cut : Path.read "$state.a.b" = .ok ⟨⟨.state,0⟩,[.field "a",.field "b"]⟩ := by decide +kernel
  obtain ⟨a,after,ran,made⟩ := below_made Page.initial 0 [.field "a.b"] read
  have name : after.store.handleName a = "$state.a.b" := by
    rw [made.handleName]
    decide +kernel
  refine ⟨a,after,ran,name,by rw [name,cut],?_⟩
  rw [name,cut]
  decide

end Reference
end PageRuntime
