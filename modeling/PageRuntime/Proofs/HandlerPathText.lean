import Mathlib.Data.List.TakeWhile
import PageRuntime.Gateway
import PageRuntime.Proofs.PathText

/-! Handler paths read from text. A text is accepted if it is spelled by parts that have their forms,
the first of which opens it with a slash; one line break may stand behind them. The parts of a text are
unique, and a path that was read is read again from its own text. -/
namespace PageRuntime
open Unicode

namespace HandlerPath

/-- A letter or underscore, then letters, digits and underscores. -/
def IsNamespace (name : List Char) : Prop :=
  ∃ c rest, name = c :: rest ∧ isNameStart c = true ∧ ∀ d ∈ rest, isNameChar d = true

def IsPath (path : List Char) : Prop :=
  ∃ rest, path = '/' :: rest ∧ ∀ c ∈ rest, isPathChar c = true

/-- A letter, before which `@` may stand, then letters, digits, underscores and hyphens. -/
def IsFragment (fragment : List Char) : Prop :=
  ∃ mark c rest, fragment = mark ++ c :: rest ∧ (mark = [] ∨ mark = ['@']) ∧
    isAsciiLetter c = true ∧ ∀ d ∈ rest, isFieldChar d = true

/-- The parts of a handler path as it is written, each of which may be absent. -/
@[ext]
structure Spelling where
  name? : Option (List Char)
  path? : Option (List Char)
  fragment? : Option (List Char)
  nameForm : ∀ name ∈ name?, IsNamespace name
  pathForm : ∀ path ∈ path?, IsPath path
  fragmentForm : ∀ fragment ∈ fragment?, IsFragment fragment

namespace Spelling

variable (spelling : Spelling)

def fragmentChars : List Char := spelling.fragment?.elim [] (':' :: ·)

def tailChars : List Char := spelling.path?.getD [] ++ spelling.fragmentChars

def chars : List Char := spelling.name?.elim [] ('/' :: '@' :: ·) ++ spelling.tailChars

/-- What the path and the fragment spell within a namespace; a path that is absent stands for `/`. -/
def within (name : String) : HandlerPath :=
  ⟨name,String.ofList (spelling.path?.getD ['/']),spelling.fragment?.map String.ofList⟩

/-- What is spelled; a namespace that is absent stands for the default one. -/
def spelled : HandlerPath := spelling.within (spelling.name?.elim defaultNamespace String.ofList)

end Spelling

/-- The text opens with a slash and is spelled by parts that spell the path. -/
def Spells (text : List Char) (path : HandlerPath) : Prop :=
  ∃ spelling : Spelling, text = spelling.chars ∧ text.head? = some '/' ∧ path = spelling.spelled

theorem atEnd_iff {rest : List Char} : atEnd rest = true ↔ rest = [] ∨ rest = ['\n'] := by
  fun_cases atEnd rest <;> simp_all

section Fragment

theorem spanFragment_append {fragment rest : List Char} (form : IsFragment fragment)
    (ends : ∀ c ∈ rest.head?, isFieldChar c = false) :
    spanFragment (fragment ++ rest) = (fragment, rest) := by
  obtain ⟨mark,c,more,rfl,marked,letter,follows⟩ := form
  obtain ⟨taken,dropped⟩ := span_append rest follows ends
  rw [List.append_assoc,List.cons_append]
  obtain rfl | rfl := marked
  · have unmarked : c ≠ '@' := by
      rintro rfl
      exact absurd letter (by decide)
    simp [spanFragment,unmarked,letter,taken,dropped]
  · simp [spanFragment,letter,taken,dropped]

theorem spanFragment_form {text fragment rest : List Char}
    (span : spanFragment text = (fragment, rest)) (present : fragment ≠ []) :
    IsFragment fragment ∧ text = fragment ++ rest := by
  revert span
  fun_cases spanFragment text with
  | case1 mark c more letter marked =>
    intro span
    obtain ⟨rfl,rfl⟩ := Prod.mk.inj span
    have whole : text = mark ++ c :: more ∧ (mark = [] ∨ mark = ['@']) := by
      split at marked <;> obtain ⟨rfl,rfl⟩ := Prod.mk.inj marked
      · exact ⟨rfl,.inr rfl⟩
      · exact ⟨rfl,.inl rfl⟩
    refine ⟨⟨mark,c,_,rfl,whole.2,letter,fun d => List.mem_takeWhile_imp⟩,?_⟩
    rw [whole.1,List.append_assoc,List.cons_append,List.takeWhile_append_dropWhile]
  | case2 | case3 => exact fun span => absurd (Prod.mk.inj span).1.symm present

end Fragment

theorem spanName_append {name rest : List Char} (form : IsNamespace name)
    (ends : ∀ c ∈ rest.head?, isNameChar c = false) :
    spanName isNameChar (name ++ rest) = (name, rest) := by
  obtain ⟨c,more,rfl,start,follows⟩ := form
  obtain ⟨taken,dropped⟩ := span_append rest follows ends
  simp only [List.cons_append,spanName,start,if_true,taken,dropped]

theorem spanName_form {text name rest : List Char}
    (span : spanName isNameChar text = (name, rest)) (present : name ≠ []) :
    IsNamespace name ∧ text = name ++ rest := by
  revert span
  fun_cases spanName isNameChar text with
  | case1 => exact fun span => absurd (Prod.mk.inj span).1.symm present
  | case2 c more start =>
    intro span
    obtain ⟨rfl,rfl⟩ := Prod.mk.inj span
    refine ⟨⟨c,_,rfl,start,fun d => List.mem_takeWhile_imp⟩,?_⟩
    rw [List.cons_append,List.takeWhile_append_dropWhile]
  | case3 => exact fun span => absurd (Prod.mk.inj span).1.symm present

theorem isFieldChar_ends {tail : List Char} (ended : atEnd tail = true) :
    ∀ c ∈ tail.head?, isFieldChar c = false := by
  intro c first
  obtain rfl | rfl := atEnd_iff.mp ended
  · cases first
  · obtain rfl : '\n' = c := by simpa using first
    decide

theorem IsFragment.ne_nil {fragment : List Char} (form : IsFragment fragment) : fragment ≠ [] := by
  obtain ⟨mark,c,rest,rfl,-⟩ := form
  exact List.append_ne_nil_of_right_ne_nil _ (List.cons_ne_nil _ _)

theorem spanPath_append {path? : Option (List Char)} {rest : List Char}
    (form : ∀ path ∈ path?, IsPath path) (ends : ∀ c ∈ rest.head?, isPathChar c = false) :
    spanPath (path?.getD [] ++ rest) = (path?.getD ['/'], rest) := by
  cases path? with
  | none =>
    fun_cases spanPath rest with
    | case1 more => exact absurd (ends '/' rfl) (by decide)
    | case2 => rfl
  | some path =>
    obtain ⟨more,rfl,follows⟩ := form path rfl
    obtain ⟨taken,dropped⟩ := span_append rest follows ends
    simp only [Option.getD_some,List.cons_append,spanPath,taken,dropped]

theorem spanPath_form {text path rest : List Char} (span : spanPath text = (path, rest)) :
    ∃ path? : Option (List Char), (∀ path ∈ path?, IsPath path) ∧ text = path?.getD [] ++ rest ∧
      path = path?.getD ['/'] := by
  revert span
  fun_cases spanPath text with
  | case1 more =>
    intro span
    obtain ⟨rfl,rfl⟩ := Prod.mk.inj span
    refine ⟨some _,?_,?_,rfl⟩
    · rintro path ⟨⟩
      exact ⟨_,rfl,fun c => List.mem_takeWhile_imp⟩
    · rw [Option.getD_some,List.cons_append,List.takeWhile_append_dropWhile]
  | case2 =>
    intro span
    obtain ⟨rfl,rfl⟩ := Prod.mk.inj span
    exact ⟨none,by simp,rfl,rfl⟩

namespace Spelling

variable (spelling : Spelling) {tail : List Char}

/-- A path ends where the text ends or a fragment begins. -/
theorem fragmentChars_opens (ended : atEnd tail = true) :
    ∀ c ∈ (spelling.fragmentChars ++ tail).head?, c = ':' ∨ c = '\n' := by
  unfold fragmentChars
  cases spelling.fragment? with
  | none => obtain rfl | rfl := atEnd_iff.mp ended <;> simp
  | some fragment => simp

theorem isPathChar_ends (ended : atEnd tail = true) :
    ∀ c ∈ (spelling.fragmentChars ++ tail).head?, isPathChar c = false := by
  intro c first
  obtain rfl | rfl := spelling.fragmentChars_opens ended c first <;> decide

/-- A name ends there too, or where a path begins. -/
theorem isNameChar_ends (ended : atEnd tail = true) :
    ∀ c ∈ (spelling.tailChars ++ tail).head?, isNameChar c = false := by
  rw [tailChars,List.append_assoc]
  cases written : spelling.path? with
  | none =>
    intro c first
    obtain rfl | rfl := spelling.fragmentChars_opens ended c first <;> decide
  | some path =>
    obtain ⟨rest,rfl,-⟩ := spelling.pathForm path written
    rintro c ⟨⟩
    decide

/-- Behind the slash that opens a path stands no `@`. -/
theorem tailChars_unmarked {rest : List Char} (ended : atEnd tail = true)
    (opens : spelling.tailChars ++ tail = '/' :: rest) : ∀ c ∈ rest.head?, c ≠ '@' := by
  rintro _ first rfl
  have ends := spelling.fragmentChars_opens ended
  rw [tailChars,List.append_assoc] at opens
  cases written : spelling.path? with
  | none =>
    rw [written] at opens
    exact absurd (ends '/' (by simpa using congrArg List.head? opens)) (by decide)
  | some path =>
    obtain ⟨more,rfl,follows⟩ := spelling.pathForm path written
    rw [written] at opens
    obtain rfl := (List.cons.inj opens).2
    cases more with
    | nil => exact absurd (ends '@' first) (by decide)
    | cons c more =>
      obtain rfl := Option.some.inj first
      exact absurd (follows _ List.mem_cons_self) (by decide)

end Spelling

theorem readTail?_spelling (spelling : Spelling) (name : String) {tail : List Char}
    (ended : atEnd tail = true) :
    readTail? name (spelling.tailChars ++ tail) = some (spelling.within name) := by
  have span := spanPath_append spelling.pathForm (spelling.isPathChar_ends ended)
  rw [Spelling.tailChars,List.append_assoc,readTail?,span]
  unfold Spelling.within Spelling.fragmentChars
  cases written : spelling.fragment? with
  | none => obtain rfl | rfl := atEnd_iff.mp ended <;> rfl
  | some fragment =>
    have form := spelling.fragmentForm fragment written
    obtain ⟨c,rest,rfl⟩ := List.exists_cons_of_ne_nil form.ne_nil
    have span := spanFragment_append form (isFieldChar_ends ended)
    simp only [Option.elim_some,List.cons_append] at span ⊢
    simp only [span,ended,if_true,Option.map_some]

theorem readTail?_form {name : String} {text : List Char} {found : HandlerPath}
    (read : readTail? name text = some found) : ∃ (spelling : Spelling) (tail : List Char),
      spelling.name? = none ∧ text = spelling.tailChars ++ tail ∧ atEnd tail = true ∧
      found = spelling.within name := by
  unfold readTail? at read
  cases span : spanPath text with
  | mk path rest =>
    obtain ⟨path?,pathForm,rfl,rfl⟩ := spanPath_form span
    rw [span] at read
    dsimp only at read
    split at read
    · next after =>
      cases fragmentSpan : spanFragment after with
      | mk fragment tail =>
        rw [fragmentSpan] at read
        cases fragment with
        | nil => cases read
        | cons c more =>
          dsimp only at read
          obtain ⟨form,rfl⟩ := spanFragment_form fragmentSpan (List.cons_ne_nil c more)
          by_cases ended : atEnd tail = true
          · rw [if_pos ended] at read
            obtain rfl := Option.some.inj read
            refine ⟨⟨none,path?,some (c :: more),by simp,pathForm,?_⟩,tail,rfl,?_,ended,rfl⟩
            · rintro _ ⟨⟩
              exact form
            · simp [Spelling.tailChars,Spelling.fragmentChars]
          · rw [if_neg ended] at read
            cases read
    · by_cases ended : atEnd rest = true
      · rw [if_pos ended] at read
        obtain rfl := Option.some.inj read
        exact ⟨⟨none,path?,none,by simp,pathForm,by simp⟩,rest,rfl,
          by simp [Spelling.tailChars,Spelling.fragmentChars],ended,rfl⟩
      · rw [if_neg ended] at read
        cases read

namespace Spelling

variable {p q : Spelling}

theorem named_iff : p.name?.isSome = true ↔ ∃ rest, p.chars = '/' :: '@' :: rest := by
  unfold chars
  cases p.name? with
  | none =>
    simp only [Option.isSome_none,Bool.false_eq_true,false_iff,not_exists]
    intro rest marked
    exact p.tailChars_unmarked rfl ((List.append_nil _).trans marked) '@' rfl rfl
  | some name => exact ⟨fun _ => ⟨_,rfl⟩,fun _ => rfl⟩

theorem parts_injective (same : p.tailChars = q.tailChars) :
    p.path? = q.path? ∧ p.fragment? = q.fragment? := by
  have fragments : p.fragmentChars = q.fragmentChars := by
    have first := spanPath_append p.pathForm (p.isPathChar_ends (show atEnd [] = true from rfl))
    have second := spanPath_append q.pathForm (q.isPathChar_ends (show atEnd [] = true from rfl))
    rw [List.append_nil] at first second
    exact (Prod.mk.inj (first.symm.trans ((congrArg spanPath same).trans second))).2
  constructor
  · rw [tailChars,tailChars,fragments] at same
    have paths := List.append_cancel_right same
    cases first : p.path? with
    | none =>
      cases second : q.path? with
      | none => rfl
      | some path =>
        obtain ⟨rest,rfl,-⟩ := q.pathForm path second
        simp [first,second] at paths
    | some path =>
      obtain ⟨rest,rfl,-⟩ := p.pathForm path first
      cases second : q.path? with
      | none => simp [first,second] at paths
      | some other => simpa [first,second] using paths
  · unfold fragmentChars at fragments
    revert fragments
    cases p.fragment? <;> cases q.fragment? <;> simp

/-- A text has no more than one decomposition. -/
theorem chars_injective (same : p.chars = q.chars) : p = q := by
  have named : p.name?.isSome = q.name?.isSome := by
    rw [Bool.eq_iff_iff,named_iff,named_iff,same]
  suffices names : p.name? = q.name? ∧ p.tailChars = q.tailChars by
    obtain ⟨paths,fragments⟩ := parts_injective names.2
    exact Spelling.ext names.1 paths fragments
  unfold chars at same
  cases first : p.name? <;> cases second : q.name? <;> rw [first,second] at named same
  · exact ⟨rfl,same⟩
  · cases named
  · cases named
  · next name other =>
    have read := spanName_append (p.nameForm _ first) (p.isNameChar_ends (show atEnd [] = true from rfl))
    have again := spanName_append (q.nameForm _ second) (q.isNameChar_ends (show atEnd [] = true from rfl))
    rw [List.append_nil] at read again
    have both : name ++ p.tailChars = other ++ q.tailChars := by simpa using same
    have spans := Prod.mk.inj (read.symm.trans ((congrArg (spanName isNameChar) both).trans again))
    exact ⟨congrArg some spans.1,spans.2⟩

end Spelling

theorem read?_default {text : String} {rest : List Char} (opens : text.toList = '/' :: rest)
    (unmarked : ∀ c ∈ rest.head?, c ≠ '@') :
    read? text = readTail? defaultNamespace ('/' :: rest) := by
  unfold read?
  rw [opens]
  split
  · next more marked => exact absurd rfl (unmarked '@' (by simp [(List.cons.inj marked).2]))
  · next more _ same => rw [same]
  · next other => exact absurd rfl (other rest)

theorem read?_spelling {text : String} (spelling : Spelling) {tail : List Char}
    (whole : text.toList = spelling.chars ++ tail) (opens : text.toList.head? = some '/')
    (ended : atEnd tail = true) : read? text = some spelling.spelled := by
  unfold Spelling.spelled
  rw [Spelling.chars,List.append_assoc] at whole
  cases written : spelling.name? with
  | none =>
    rw [written] at whole
    obtain ⟨rest,slash⟩ : ∃ rest, text.toList = '/' :: rest := by
      simpa [List.head?_eq_some_iff] using opens
    rw [read?_default slash (spelling.tailChars_unmarked ended (whole.symm.trans slash)),← slash,whole]
    exact readTail?_spelling spelling defaultNamespace ended
  | some name =>
    have form := spelling.nameForm name written
    have span := spanName_append form (spelling.isNameChar_ends ended)
    obtain ⟨c,rest,rfl,-⟩ := form
    rw [written] at whole
    unfold read?
    rw [whole]
    simp only [Option.elim_some,List.cons_append] at span ⊢
    simp only [span]
    exact readTail?_spelling spelling _ ended

theorem read?_form {text : String} {found : HandlerPath} (read : read? text = some found) :
    ∃ (spelling : Spelling) (tail : List Char), text.toList = spelling.chars ++ tail ∧
      text.toList.head? = some '/' ∧ atEnd tail = true ∧ found = spelling.spelled := by
  revert read
  fun_cases read? text with
  | case1 | case4 => simp
  | case2 after opens name rest present span =>
    intro read
    obtain ⟨form,rfl⟩ := spanName_form span present
    obtain ⟨spelling,tail,-,rfl,ended,rfl⟩ := readTail?_form read
    refine ⟨{ spelling with name? := some name, nameForm := ?_ },tail,?_,?_,ended,rfl⟩
    · rintro _ ⟨⟩
      exact form
    · rw [opens,Spelling.chars,List.append_assoc]
      rfl
    · rw [opens]
      rfl
  | case3 rest unmarked opens =>
    intro read
    obtain ⟨spelling,tail,absent,whole,ended,rfl⟩ := readTail?_form read
    refine ⟨spelling,tail,?_,?_,ended,?_⟩
    · rw [opens,whole,Spelling.chars,absent]
      rfl
    · rw [opens]
      rfl
    · rw [Spelling.spelled,absent]
      rfl

theorem read?_eq_some_iff {text : String} {found : HandlerPath} : read? text = some found ↔
    ∃ line tail, text.toList = line ++ tail ∧ atEnd tail = true ∧ Spells line found := by
  constructor
  · intro read
    obtain ⟨spelling,tail,whole,opens,ended,rfl⟩ := read?_form read
    refine ⟨spelling.chars,tail,whole,ended,spelling,rfl,?_,rfl⟩
    -- what stands behind the path opens with no slash
    have slashed : ∀ c ∈ tail.head?, c ≠ '/' := by
      obtain rfl | rfl := atEnd_iff.mp ended <;> simp
    rw [whole,List.head?_append,Option.or_eq_some_iff] at opens
    exact opens.resolve_right fun behind => slashed '/' behind.2 rfl
  · rintro ⟨_,tail,whole,ended,spelling,rfl,opens,rfl⟩
    exact read?_spelling spelling whole (by rw [whole,List.head?_append,opens]; rfl) ended

theorem IsNamespace.unbroken {name : List Char} (form : IsNamespace name) : '\n' ∉ name := by
  obtain ⟨c,rest,rfl,start,follows⟩ := form
  intro member
  obtain rfl | member := List.mem_cons.mp member
  · exact absurd start (by decide)
  · exact absurd (follows _ member) (by decide)

theorem IsPath.unbroken {path : List Char} (form : IsPath path) : '\n' ∉ path := by
  obtain ⟨rest,rfl,follows⟩ := form
  intro member
  exact absurd (follows _ ((List.mem_cons.mp member).resolve_left (by decide))) (by decide)

theorem IsFragment.unbroken {fragment : List Char} (form : IsFragment fragment) :
    '\n' ∉ fragment := by
  obtain ⟨mark,c,rest,rfl,marked,letter,follows⟩ := form
  intro member
  obtain member | member := List.mem_append.mp member
  · obtain rfl | rfl := marked <;> simp at member
  · obtain rfl | member := List.mem_cons.mp member
    · exact absurd letter (by decide)
    · exact absurd (follows _ member) (by decide)

namespace Spelling

variable (spelling : Spelling)

theorem unbroken : '\n' ∉ spelling.chars := by
  unfold chars tailChars fragmentChars
  simp only [List.mem_append,not_or]
  refine ⟨?_,?_,?_⟩
  · cases written : spelling.name? with
    | none => simp
    | some name => simpa using (spelling.nameForm name written).unbroken
  · cases written : spelling.path? with
    | none => simp
    | some path => exact (spelling.pathForm path written).unbroken
  · cases written : spelling.fragment? with
    | none => simp
    | some fragment => simpa using (spelling.fragmentForm fragment written).unbroken

/-- The decomposition that is written for what is spelled: the namespace in full, and no path `/`. -/
def normal : Spelling where
  name? := some (spelling.name?.getD defaultNamespace.toList)
  path? := spelling.path?.filter (· ≠ ['/'])
  fragment? := spelling.fragment?
  nameForm := by
    rintro _ ⟨⟩
    cases written : spelling.name? with
    | none => exact ⟨'d',"efault".toList,rfl,by decide,List.all_eq_true.mp (by decide)⟩
    | some name => exact spelling.nameForm name written
  pathForm path kept := spelling.pathForm path (Option.mem_filter_iff.mp kept).1
  fragmentForm := spelling.fragmentForm

theorem spelled_normal : spelling.normal.spelled = spelling.spelled := by
  have name : spelling.normal.spelled.namespace_ = spelling.spelled.namespace_ := by
    show String.ofList (spelling.name?.getD _) = spelling.name?.elim _ _
    cases spelling.name? with
    | none => exact String.ofList_toList
    | some name => rfl
  have path : spelling.normal.spelled.path = spelling.spelled.path := by
    show String.ofList ((spelling.path?.filter (· ≠ ['/'])).getD _) =
      String.ofList (spelling.path?.getD _)
    cases spelling.path? with
    | none => rfl
    | some path => by_cases bare : path = ['/'] <;> simp [Option.filter,bare]
  exact congrArg₂ (HandlerPath.mk · · spelling.spelled.fragment) name path

/-- What is spelled is written in its normal spelling. -/
theorem text_spelled : spelling.spelled.text.toList = spelling.normal.chars := by
  have name : spelling.spelled.namespace_.toList = spelling.name?.getD defaultNamespace.toList := by
    show (spelling.name?.elim defaultNamespace String.ofList).toList = _
    cases spelling.name? <;> simp
  have path : (if spelling.spelled.path == "/" then "" else spelling.spelled.path).toList =
      spelling.normal.path?.getD [] := by
    show (if String.ofList (spelling.path?.getD ['/']) == "/" then ""
      else String.ofList (spelling.path?.getD ['/'])).toList =
        (spelling.path?.filter (· ≠ ['/'])).getD []
    cases spelling.path? with
    | none => rfl
    | some path =>
      by_cases bare : path = ['/']
      · subst bare
        rfl
      · have other : String.ofList path ≠ "/" := fun same =>
          bare (by simpa using congrArg String.toList same)
        simp [Option.filter,bare,other]
  have fragment : spelling.spelled.fragment = spelling.fragment?.map String.ofList := rfl
  have parts : spelling.normal.chars = '/' :: '@' :: spelling.name?.getD defaultNamespace.toList ++
      (spelling.normal.path?.getD [] ++ spelling.fragmentChars) := rfl
  unfold text
  rw [String.toList_append,String.toList_append,String.toList_append,name,path,fragment,parts,
    fragmentChars,List.append_assoc]
  cases written : spelling.fragment? with
  | none => rfl
  | some fragment =>
    have present := (spelling.fragmentForm fragment written).ne_nil
    simp [present]

end Spelling
end HandlerPath

namespace Gateway
open HandlerPath

variable (s : Store) (text : String)

/-- The text is read as it is spelled: what its parts spell, or the fault if it has no parts. -/
def ReadsAsSpelled : Prop :=
  (∀ found, readPath s (.str text) = .ok found ↔ Spells text.toList found) ∧
  ((∀ found, ¬ Spells text.toList found) →
    readPath s (.str text) = .error (.invalidHandlerPath (Text.quote text)))

/-- The text is that of a handler path with a line break behind it. -/
def IsBroken : Prop := ∃ line found, text.toList = line ++ ['\n'] ∧ Spells line found

variable {s} {text}

theorem readPath_str : readPath s (.str text) =
    (read? text).elim (.error (.invalidHandlerPath (Text.quote text))) .ok := by
  unfold readPath
  dsimp only
  cases read? text <;> rfl

theorem readPath_ok_iff {found : HandlerPath} : readPath s (.str text) = .ok found ↔
    Spells text.toList found ∨ ∃ line, text.toList = line ++ ['\n'] ∧ Spells line found := by
  have read : readPath s (.str text) = .ok found ↔ read? text = some found := by
    rw [readPath_str]
    cases read? text <;> simp
  rw [read,read?_eq_some_iff]
  simp only [atEnd_iff]
  constructor
  · rintro ⟨line,tail,whole,rfl | rfl,spells⟩
    · exact .inl (by rwa [whole,List.append_nil])
    · exact .inr ⟨line,whole,spells⟩
  · rintro (spells | ⟨line,whole,spells⟩)
    · exact ⟨_,[],(List.append_nil _).symm,.inl rfl,spells⟩
    · exact ⟨line,_,whole,.inr rfl,spells⟩

theorem readPath_refused (refused : ∀ found, readPath s (.str text) ≠ .ok found) :
    readPath s (.str text) = .error (.invalidHandlerPath (Text.quote text)) := by
  rw [readPath_str] at refused ⊢
  cases read : read? text with
  | none => rfl
  | some found => exact absurd (by rw [read]; rfl) (refused found)

/-- No text with a line break is spelled. -/
theorem IsBroken.unspelled (broken : IsBroken text) (found : HandlerPath) :
    ¬ Spells text.toList found := by
  obtain ⟨line,_,whole,-⟩ := broken
  rintro ⟨spelling,same,-⟩
  refine spelling.unbroken ?_
  rw [← same,whole]
  exact List.mem_append_right _ (List.mem_singleton_self _)

/-- A text is read as it is spelled, and in one way only, unless it is that of a handler path with a
line break behind it: that is read as the handler path. -/
theorem readPath_spelled (s : Store) (text : String) :
    (ReadsAsSpelled s text ↔ ¬ IsBroken text) ∧
    (∀ found, readPath s (.str text) = .ok found ↔
      Spells text.toList found ∨ ∃ line, text.toList = line ++ ['\n'] ∧ Spells line found) ∧
    (∀ fault, readPath s (.str text) = .error fault ↔
      fault = .invalidHandlerPath (Text.quote text) ∧ ∀ found, readPath s (.str text) ≠ .ok found) ∧
    (∀ p q : Spelling, p.chars = text.toList → q.chars = text.toList → p = q) := by
  refine ⟨⟨?_,?_⟩,fun found => readPath_ok_iff,fun fault => ⟨?_,?_⟩,
    fun p q first second => Spelling.chars_injective (first.trans second.symm)⟩
  · rintro ⟨exact_,-⟩ broken
    obtain ⟨line,found,whole,spells⟩ := id broken
    exact broken.unspelled found ((exact_ found).mp (readPath_ok_iff.mpr (.inr ⟨line,whole,spells⟩)))
  · intro unbroken
    have plain (found : HandlerPath) : readPath s (.str text) = .ok found ↔ Spells text.toList found :=
      readPath_ok_iff.trans (or_iff_left fun ⟨line,whole,spells⟩ => unbroken ⟨line,found,whole,spells⟩)
    exact ⟨plain,fun none => readPath_refused fun found read => none found ((plain found).mp read)⟩
  · intro failed
    have refused (found : HandlerPath) : readPath s (.str text) ≠ .ok found := by
      rw [failed]
      simp
    exact ⟨Except.error.inj (failed.symm.trans (readPath_refused refused)),refused⟩
  · rintro ⟨rfl,refused⟩
    exact readPath_refused refused

theorem readPath_spelled_marked : ReadsAsSpelled Store.empty "/@local/save.x/:@go-1" ∧
    readPath Store.empty (.str "/@local/save.x/:@go-1") =
      .ok ⟨"local","/save.x/",some "@go-1"⟩ := by
  refine ⟨(readPath_spelled _ _).1.mpr ?_,by decide +kernel⟩
  rintro ⟨line,-,whole,-⟩
  have last := congrArg List.getLast? whole
  rw [List.getLast?_concat] at last
  exact absurd last (by decide)

def twoParts : Spelling where
  name? := some ['a']
  path? := some ['/','b']
  fragment? := none
  nameForm := by
    rintro _ ⟨⟩
    exact ⟨'a',[],rfl,by decide,by simp⟩
  pathForm := by
    rintro _ ⟨⟩
    exact ⟨['b'],rfl,List.all_eq_true.mp (by decide)⟩
  fragmentForm := by simp

/-- The line break behind a handler path is passed over. -/
theorem readPath_breaks : readPath Store.empty (.str "/@a/b\n") = .ok ⟨"a","/b",none⟩ ∧
    (∀ found, ¬ Spells "/@a/b\n".toList found) ∧ ¬ ReadsAsSpelled Store.empty "/@a/b\n" := by
  have broken : IsBroken "/@a/b\n" := ⟨_,_,by decide,twoParts,rfl,rfl,rfl⟩
  have read : readPath Store.empty (.str "/@a/b\n") = .ok ⟨"a","/b",none⟩ := by decide +kernel
  exact ⟨read,broken.unspelled,fun reads => broken.unspelled _ ((reads.1 _).mp read)⟩

/-- What was read is written as a text that is read as the same. -/
theorem readPath_rewritten {found : HandlerPath} (read : readPath s (.str text) = .ok found) :
    readPath s (.str found.text) = .ok found := by
  obtain ⟨spelling,rfl⟩ : ∃ spelling : Spelling, found = spelling.spelled := by
    obtain ⟨spelling,-,-,same⟩ | ⟨-,-,spelling,-,-,same⟩ := readPath_ok_iff.mp read
    · exact ⟨spelling,same⟩
    · exact ⟨spelling,same⟩
  have written := spelling.text_spelled
  exact readPath_ok_iff.mpr
    (.inl ⟨spelling.normal,written,by rw [written]; rfl,spelling.spelled_normal.symm⟩)

/-- A handler path that was read is read again from its own text, so that handler paths that were read
have the same text only if they agree in all parts. -/
theorem readPath_text {other : String} {p q : HandlerPath} (first : readPath s (.str text) = .ok p)
    (second : readPath s (.str other) = .ok q) : readPath s (.str p.text) = .ok p ∧
      (p.text = q.text ↔ p.namespace_ = q.namespace_ ∧ p.path = q.path ∧ p.fragment = q.fragment) := by
  refine ⟨readPath_rewritten first,?_⟩
  constructor
  · intro same
    have again := readPath_rewritten second
    rw [← same,readPath_rewritten first] at again
    obtain rfl := Except.ok.inj again
    exact ⟨rfl,rfl,rfl⟩
  · obtain ⟨_,_,_⟩ := p
    obtain ⟨_,_,_⟩ := q
    rintro ⟨rfl,rfl,rfl⟩
    rfl

theorem readPath_text_marked :
    readPath Store.empty (.str (HandlerPath.text ⟨"default","//a.b",some "@go-1"⟩)) =
      .ok ⟨"default","//a.b",some "@go-1"⟩ ∧
    (HandlerPath.text ⟨"default","//a.b",some "@go-1"⟩ = HandlerPath.text ⟨"_x1","/",none⟩ ↔
      "default" = "_x1" ∧ "//a.b" = "/" ∧ some "@go-1" = none) := by
  have first : readPath Store.empty (.str "//a.b:@go-1\n") = .ok ⟨"default","//a.b",some "@go-1"⟩ := by
    decide +kernel
  have second : readPath Store.empty (.str "/@_x1/") = .ok ⟨"_x1","/",none⟩ := by decide +kernel
  exact readPath_text first second

end Gateway
end PageRuntime
