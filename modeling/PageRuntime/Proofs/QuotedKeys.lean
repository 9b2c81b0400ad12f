import Mathlib.Data.List.TakeWhile
import PageRuntime.Proofs.PathText

/-! Keys between single quotes. Their two escapes are taken out by two replacements over the whole body;
on what may stand between quotes that is the same as one reading from left to right. So every text can
be a key: its quotes and backslashes are written behind a backslash, and such a key may stand behind
any path. -/
namespace PageRuntime
open Unicode

/-- What may stand between quotes: characters other than the quote and the backslash, and pairs of a
backslash and a character that is no line break. -/
inductive QuotedBody (quote : Char) : List Char → Prop
  | nil : QuotedBody quote []
  | plain {c : Char} {body : List Char} (other : c ≠ quote) (bare : c ≠ '\\')
    (rest : QuotedBody quote body) : QuotedBody quote (c :: body)
  | pair {c : Char} {body : List Char} (inLine : c ≠ '\n') (rest : QuotedBody quote body) :
    QuotedBody quote ('\\' :: c :: body)

/-- A body read from left to right: a backslash and a quote stand for the quote, two backslashes for
one, and any other pair for itself. -/
def readEscapes : List Char → List Char
  | [] => []
  | [c] => [c]
  | a :: b :: rest =>
    if a = '\\' then if b = '\'' ∨ b = '\\' then b :: readEscapes rest else a :: b :: readEscapes rest
    else a :: readEscapes (b :: rest)

/-- Backslashes doubled and quotes escaped. -/
def writeEscapes (text : List Char) : List Char :=
  text.flatMap fun c => if c = '\'' ∨ c = '\\' then ['\\',c] else [c]

/-- The accessor of a key between single quotes. -/
def singleQuoted (name : List Char) : List Char := '[' :: '\'' :: (writeEscapes name ++ ['\'',']'])

section Bodies

variable {quote : Char} {text body after : List Char}

theorem spanQuoted_body (span : spanQuoted quote text = some (body, after)) :
    QuotedBody quote body ∧ text = body ++ quote :: after := by
  fun_induction spanQuoted quote text generalizing body with
  | case1 => cases span
  | case2 => cases span
  | case3 c rest inLine ih =>
    obtain ⟨⟨inner,behind⟩,found,same⟩ := Option.map_eq_some_iff.mp span
    obtain ⟨rfl,rfl⟩ := Prod.mk.inj same
    obtain ⟨form,rfl⟩ := ih found
    exact ⟨.pair (by simpa using inLine) form,rfl⟩
  | case4 c rest _ closing =>
    obtain ⟨rfl,rfl⟩ := Prod.mk.inj (Option.some.inj span)
    exact ⟨.nil,by rw [beq_iff_eq.mp closing]; rfl⟩
  | case5 => cases span
  | case6 c rest _ other bare ih =>
    obtain ⟨⟨inner,behind⟩,found,same⟩ := Option.map_eq_some_iff.mp span
    obtain ⟨rfl,rfl⟩ := Prod.mk.inj same
    obtain ⟨form,rfl⟩ := ih found
    exact ⟨.plain (by simpa using other) (by simpa using bare) form,rfl⟩

theorem QuotedBody.span (form : QuotedBody quote body) (other : quote ≠ '\\') (after : List Char) :
    spanQuoted quote (body ++ quote :: after) = some (body, after) := by
  induction form with
  | nil =>
    rw [List.nil_append,spanQuoted]
    · simp
    · simp [other]
  | plain other bare _ ih => exact spanQuoted_plain other bare ih
  | pair inLine _ ih => exact spanQuoted_escape inLine ih

end Bodies

section Escapes

theorem dropEscapes_plain {c d : Char} (bare : d ≠ '\\') (rest : List Char) :
    dropEscapes c (d :: rest) = d :: dropEscapes c rest := by
  cases rest with
  | nil => rfl
  | cons e rest => simp [dropEscapes,bare]

theorem dropEscapes_pair (c : Char) (rest : List Char) :
    dropEscapes c ('\\' :: c :: rest) = c :: dropEscapes c rest := by
  simp [dropEscapes]

theorem dropEscapes_backslash {c : Char} {rest : List Char} (other : rest.head? ≠ some c) :
    dropEscapes c ('\\' :: rest) = '\\' :: dropEscapes c rest := by
  cases rest with
  | nil => rfl
  | cons d rest => simp_all [dropEscapes]

theorem readEscapes_plain {c : Char} (bare : c ≠ '\\') (rest : List Char) :
    readEscapes (c :: rest) = c :: readEscapes rest := by
  cases rest with
  | nil => rfl
  | cons d rest => simp [readEscapes,bare]

/-- No body begins with its quote, so a backslash before a body escapes nothing of it. -/
theorem QuotedBody.head {quote : Char} {body : List Char} (form : QuotedBody quote body)
    (other : quote ≠ '\\') : body.head? ≠ some quote := by
  cases form with
  | nil => simp
  | plain differs => simpa using differs
  | pair => simpa using other.symm

/-- Both replacements leave as many characters of a run of backslashes as the reading does, because
the quote that the first one takes away stands at the end of a run. -/
theorem unescapeSingle_eq {body : List Char} (form : QuotedBody '\'' body) :
    unescapeSingle body = readEscapes body := by
  unfold unescapeSingle
  induction form with
  | nil => rfl
  | plain other bare _ ih => rw [dropEscapes_plain bare,dropEscapes_plain bare,readEscapes_plain bare,ih]
  | @pair c body _ form ih =>
    by_cases quoted : c = '\''
    · subst quoted
      rw [dropEscapes_pair,dropEscapes_plain (by decide),ih]
      simp [readEscapes]
    by_cases doubled : c = '\\'
    · subst doubled
      rw [dropEscapes_backslash (by simp),dropEscapes_backslash (form.head (by decide)),
        dropEscapes_pair,ih]
      simp [readEscapes]
    · rw [dropEscapes_backslash (by simpa using quoted),dropEscapes_plain doubled,
        dropEscapes_backslash (by simpa using doubled),dropEscapes_plain doubled,ih]
      simp [readEscapes,quoted,doubled]

theorem writeEscapes_body {text : List Char} : QuotedBody '\'' (writeEscapes text) := by
  induction text with
  | nil => exact .nil
  | cons c text ih =>
    by_cases escaped : c = '\'' ∨ c = '\\'
    · simp only [writeEscapes,List.flatMap_cons,escaped,if_true]
      exact .pair (by rintro rfl; exact absurd escaped (by decide)) ih
    · simp only [writeEscapes,List.flatMap_cons,escaped,if_false]
      exact .plain (fun same => escaped (.inl same)) (fun same => escaped (.inr same)) ih

theorem readEscapes_writeEscapes (text : List Char) : readEscapes (writeEscapes text) = text := by
  induction text with
  | nil => rfl
  | cons c text ih =>
    rw [writeEscapes] at ih
    by_cases escaped : c = '\'' ∨ c = '\\'
    · simp [writeEscapes,readEscapes,escaped,ih]
    · simp [writeEscapes,escaped,readEscapes_plain (fun same => escaped (.inr same)),ih]

end Escapes

/-! Reading on: what stands behind an accessor, if that is another one, does not change how it is read. -/
section Behind

variable {text rest : List Char}

theorem trimBlankStart_append {c : Char} (trimmed : trimBlankStart text = c :: rest)
    (more : List Char) : trimBlankStart (text ++ more) = c :: (rest ++ more) := by
  unfold trimBlankStart at trimmed ⊢
  rw [List.dropWhile_append,trimmed]
  simp

theorem closeBracket_append (closed : closeBracket text = some rest) (more : List Char) :
    closeBracket (text ++ more) = some (rest ++ more) := by
  unfold closeBracket at closed ⊢
  split at closed
  · next trimmed =>
    cases closed
    rw [trimBlankStart_append trimmed]
    rfl
  · cases closed

theorem spanDigits_append (closed : closeBracket (text.dropWhile isDigit) = some rest)
    (more : List Char) : (text ++ more).takeWhile isDigit = text.takeWhile isDigit ∧
      closeBracket ((text ++ more).dropWhile isDigit) = some (rest ++ more) := by
  have present : text.dropWhile isDigit ≠ [] := by
    intro empty
    rw [empty] at closed
    cases closed
  have shorter : (text.takeWhile isDigit).length ≠ text.length := by
    have whole := congrArg List.length (text.takeWhile_append_dropWhile (p := isDigit))
    have positive := List.length_pos_iff.mpr present
    rw [List.length_append] at whole
    omega
  constructor
  · rw [List.takeWhile_append,if_neg shorter]
  · rw [List.dropWhile_append,if_neg (by simpa using present)]
    exact closeBracket_append closed more

/-- The integer behind its sign. -/
def readPlace (negative : Bool) (text : List Char) : Option (Int × List Char) :=
  let digits := (text.takeWhile isDigit).filterMap digitValue?
  let value : Int := Number.digitsValue digits
  if digits.isEmpty then none
  else (closeBracket (text.dropWhile isDigit)).map (if negative then -value else value, ·)

theorem readIndex_negative (trimmed : trimBlankStart text = '-' :: rest) :
    readIndex text = readPlace true rest := by
  simp [readIndex,readPlace,trimmed]

theorem readIndex_unsigned {c : Char} (trimmed : trimBlankStart text = c :: rest) (other : c ≠ '-') :
    readIndex text = readPlace false (c :: rest) := by
  simp only [readIndex,readPlace,trimmed]
  split
  · next same => exact absurd (List.cons.inj same).1 other
  · rfl

theorem readPlace_append {negative : Bool} {place : Int}
    (read : readPlace negative text = some (place, rest)) (more : List Char) :
    readPlace negative (text ++ more) = some (place, rest ++ more) := by
  unfold readPlace at read ⊢
  dsimp only at read ⊢
  split at read
  · cases read
  · next present =>
    obtain ⟨behind,closed,same⟩ := Option.map_eq_some_iff.mp read
    obtain ⟨rfl,rfl⟩ := Prod.mk.inj same
    obtain ⟨taken,dropped⟩ := spanDigits_append closed more
    rw [taken,dropped,if_neg present,Option.map_some]

theorem readIndex_append {place : Int} (read : readIndex text = some (place, rest))
    (more : List Char) : readIndex (text ++ more) = some (place, rest ++ more) := by
  cases trimmed : trimBlankStart text with
  | nil => simp [readIndex,trimmed] at read
  | cons c behind =>
    have longer := trimBlankStart_append trimmed more
    by_cases sign : c = '-'
    · subst sign
      rw [readIndex_negative trimmed] at read
      rw [readIndex_negative longer]
      exact readPlace_append read more
    · rw [readIndex_unsigned trimmed sign] at read
      rw [readIndex_unsigned longer sign]
      exact readPlace_append read more

theorem readQuotedKey_eq_some {quote : Char} {body : List Char} :
    readQuotedKey quote text = some (body, rest) ↔ ∃ inner behind, trimBlankStart text = quote :: inner ∧
      spanQuoted quote inner = some (body, behind) ∧ closeBracket behind = some rest := by
  unfold readQuotedKey
  cases trimBlankStart text with
  | nil => simp
  | cons c inner =>
    by_cases same : c = quote
    · subst same
      simp [Option.bind_eq_some_iff]
    · simp [same]

theorem readQuotedKey_append {quote : Char} {body : List Char} (other : quote ≠ '\\')
    (read : readQuotedKey quote text = some (body, rest)) (more : List Char) :
    readQuotedKey quote (text ++ more) = some (body, rest ++ more) := by
  obtain ⟨inner,behind,trimmed,span,closed⟩ := readQuotedKey_eq_some.mp read
  obtain ⟨form,rfl⟩ := spanQuoted_body span
  have longer := form.span other (behind ++ more)
  rw [← List.cons_append,← List.append_assoc] at longer
  exact readQuotedKey_eq_some.mpr
    ⟨_,_,trimBlankStart_append trimmed more,longer,closeBracket_append closed more⟩

/-- A text whose first character shown is no sign and no digit holds no index. -/
theorem readIndex_none {c : Char} (trimmed : trimBlankStart text = c :: rest) (unsigned : c ≠ '-')
    (other : isDigit c = false) : readIndex text = none := by
  rw [readIndex_unsigned trimmed unsigned]
  simp [readPlace,other]

theorem readQuotedKey_none {c quote : Char} (trimmed : trimBlankStart text = c :: rest)
    (other : c ≠ quote) : readQuotedKey quote text = none := by
  unfold readQuotedKey
  rw [trimmed]
  simp [other]

theorem readBracket_append {segment : Segment} (read : readBracket text = .found segment rest)
    (more : List Char) : readBracket (text ++ more) = .found segment (rest ++ more) := by
  revert read
  fun_cases readBracket text with
  | case1 place behind index =>
    rintro ⟨⟩
    simp [readBracket,readIndex_append index more]
  | case2 noIndex body behind key name value =>
    rintro ⟨⟩
    obtain ⟨inner,-,trimmed,-⟩ := readQuotedKey_eq_some.mp key
    have index := readIndex_none (trimBlankStart_append trimmed more) (by decide) (by decide)
    simp [readBracket,index,readQuotedKey_append (by decide) key more,value]
  | case3 => simp
  | case4 noIndex noKey body behind key =>
    rintro ⟨⟩
    obtain ⟨inner,-,trimmed,-⟩ := readQuotedKey_eq_some.mp key
    have longer := trimBlankStart_append trimmed more
    have index := readIndex_none longer (by decide) (by decide)
    have double : readQuotedKey '"' (text ++ more) = none := readQuotedKey_none longer (by decide)
    simp [readBracket,index,double,readQuotedKey_append (by decide) key more]
  | case5 => simp

theorem span_further {p : Char → Bool} (text : List Char) {more : List Char}
    (ends : ∀ c ∈ more.head?, p c = false) : (text ++ more).takeWhile p = text.takeWhile p ∧
      (text ++ more).dropWhile p = text.dropWhile p ++ more := by
  have stops : ∀ c ∈ (text.dropWhile p ++ more).head?, p c = false := by
    intro c first
    have kept := text.head?_dropWhile_not p
    cases dropped : text.dropWhile p with
    | nil => exact ends c (by simpa [dropped] using first)
    | cons d behind =>
      obtain rfl : d = c := by simpa [dropped] using first
      simpa [dropped] using kept
  have split := span_append _ (fun c => List.mem_takeWhile_imp (l := text)) stops
  rwa [← List.append_assoc,List.takeWhile_append_dropWhile] at split

theorem spanField_append {name : List Char} (span : spanField text = (name, rest)) (present : name ≠ [])
    {more : List Char} (opens : Opens more) : spanField (text ++ more) = (name, rest ++ more) := by
  revert span
  fun_cases spanField text with
  | case1 | case3 => exact fun span => absurd (Prod.mk.inj span).1.symm present
  | case2 c behind start =>
    intro span
    obtain ⟨rfl,rfl⟩ := Prod.mk.inj span
    obtain ⟨taken,dropped⟩ := span_further behind (opens.ends (p := isFieldChar) (by decide) (by decide))
    simp [spanField,start,taken,dropped]

theorem spanName_further {follows : Char → Bool} {name more : List Char}
    (span : spanName follows text = (name, rest)) (opens : Opens more) (point : follows '.' = false)
    (bracket : follows '[' = false) : spanName follows (text ++ more) = (name, rest ++ more) := by
  revert span
  fun_cases spanName follows text with
  | case1 =>
    rintro ⟨⟩
    have first := opens.ends (p := isNameStart) (by decide) (by decide)
    cases more with
    | nil => rfl
    | cons c more => simp [spanName,first c (by simp)]
  | case2 c behind start =>
    rintro ⟨⟩
    obtain ⟨taken,dropped⟩ := span_further behind (opens.ends point bracket)
    simp [spanName,start,taken,dropped]
  | case3 c behind start =>
    rintro ⟨⟩
    simp [spanName,start]

theorem readAccessor?_append {segment : Segment} (read : readAccessor? text = some (segment, rest))
    {more : List Char} (opens : Opens more) :
    readAccessor? (text ++ more) = some (segment, rest ++ more) := by
  revert read
  fun_cases readAccessor? text with
  | case1 | case2 | case5 | case6 => nofun
  | case3 c text point name behind present span =>
    rintro ⟨⟩
    have longer := spanField_append span (by simpa using present) opens
    cases name with
    | nil => exact absurd rfl present
    | cons d name => simp [readAccessor?,point,longer]
  | case4 c text point bracket segment behind found =>
    rintro ⟨⟩
    simp [readAccessor?,point,bracket,readBracket_append found more]

theorem readSegments_enough {shown : String} {length fuel more : Nat} {segments : List Segment}
    (read : readSegments shown length fuel text = .ok segments) (enough : fuel ≤ more) :
    readSegments shown length more text = .ok segments := by
  induction fuel generalizing more text segments with
  | zero =>
    cases text with
    | nil => simpa [readSegments] using read
    | cons c text => simp [readSegments] at read
  | succ fuel ih =>
    cases text with
    | nil => simpa [readSegments] using read
    | cons c text =>
      obtain ⟨more,rfl⟩ : ∃ fewer, more = fewer + 1 := Nat.exists_eq_add_one_of_ne_zero (by omega)
      obtain ⟨segment,behind,others,accessor,readOn,rfl⟩ := readSegments_cons.mp read
      exact readSegments_cons.mpr ⟨segment,behind,others,accessor,ih readOn (by omega),rfl⟩

/-- Accessors behind accessors are read as both are. -/
theorem readSegments_append {shown other : String} {length longer fuel extra : Nat} {more : List Char}
    {first second : List Segment} (opens : Opens more)
    (read : readSegments shown length fuel text = .ok first)
    (readMore : readSegments other longer extra more = .ok second) :
    readSegments other longer (fuel + extra) (text ++ more) = .ok (first ++ second) := by
  induction fuel generalizing text first with
  | zero =>
    cases text with
    | nil =>
      obtain rfl : [] = first := by simpa [readSegments] using read
      exact readSegments_enough readMore (by omega)
    | cons c text => simp [readSegments] at read
  | succ fuel ih =>
    cases text with
    | nil =>
      obtain rfl : [] = first := by simpa [readSegments] using read
      exact readSegments_enough readMore (by omega)
    | cons c text =>
      obtain ⟨segment,behind,others,accessor,readOn,rfl⟩ := readSegments_cons.mp read
      rw [Nat.add_right_comm]
      exact readSegments_cons.mpr
        ⟨segment,_,_,readAccessor?_append accessor opens,ih readOn,List.cons_append⟩

end Behind

theorem trimBlank_endsVisible (text : List Char) : EndsVisible (trimBlank text) := by
  intro c last
  rw [trimBlank,List.getLast?_reverse] at last
  have kept := List.head?_dropWhile_not isBlank (text.dropWhile isBlank).reverse
  rw [Option.mem_def.mp last] at kept
  exact kept

namespace Path

theorem bind_ok {result : Except Fault (List Segment)} {make : List Segment → Path} {path : Path} :
    (result >>= fun segments => .ok (make segments)) = .ok path ↔
      ∃ segments, result = .ok segments ∧ path = make segments := by
  cases result <;> simp [bind,Except.bind,eq_comm]

variable {shown : String} {rest more : List Char} {path : Path} {segments : List Segment}

theorem read_binding (source : trimBlank shown.toList = '@' :: rest) :
    Path.read shown = .ok path ↔ ∃ name behind others, spanName isFieldChar rest = (name, behind) ∧
      name ≠ [] ∧ readSegments (Text.quote shown) (rest.length + 1) (rest.length + 1) behind = .ok others ∧
      path = ⟨⟨.context,0⟩,.field (String.ofList name) :: others⟩ := by
  rw [Path.read,source]
  simp only [List.length_cons]
  obtain ⟨name,behind⟩ := spanName isFieldChar rest
  cases name with
  | nil => simp
  | cons c name => simp [bind_ok]

theorem read_named (source : trimBlank shown.toList = '$' :: rest) :
    Path.read shown = .ok path ↔ ∃ name behind others,
      spanName isNameChar (rest.dropWhile (· == '^')) = (name, behind) ∧
      readSegments (Text.quote shown) (rest.length + 1) (rest.length + 1) behind = .ok others ∧
      path = ⟨Root.ofName (String.ofList name) (rest.takeWhile (· == '^')).length,others⟩ := by
  rw [Path.read,source]
  simp only [List.length_cons]
  obtain ⟨name,behind⟩ := spanName isNameChar (rest.dropWhile (· == '^'))
  simp [bind_ok]

theorem read_source (read : Path.read shown = .ok path) :
    ∃ c rest, trimBlank shown.toList = c :: rest ∧ (c = '@' ∨ c = '$') := by
  unfold Path.read at read
  dsimp only at read
  split at read
  · cases read
  · next rest source => exact ⟨_,rest,source,.inl rfl⟩
  · next rest source => exact ⟨_,rest,source,.inr rfl⟩
  · cases read

/-- A path goes on with the accessors behind it. -/
theorem read_append (read : Path.read shown = .ok path) (opens : Opens more)
    (visible : EndsVisible more)
    (readMore : ∀ shown length, readSegments shown length more.length more = .ok segments) :
    Path.read (String.ofList (trimBlank shown.toList ++ more)) =
      .ok { path with segments := path.segments ++ segments } := by
  obtain ⟨c,rest,source,mark⟩ := read_source read
  have ends := (trimBlank_endsVisible shown.toList).append visible
  rw [source,List.cons_append] at ends ⊢
  have first : ∀ d ∈ (c :: (rest ++ more)).head?, isBlank d = false := by
    rintro _ ⟨⟩
    obtain rfl | rfl := mark <;> decide
  have longer : trimBlank (String.ofList (c :: (rest ++ more))).toList = c :: (rest ++ more) := by
    rw [String.toList_ofList]
    exact trimBlank_eq first ends
  have enough : rest.length + 1 + more.length = (rest ++ more).length + 1 := by
    rw [List.length_append]
    omega
  obtain rfl | rfl := mark
  · obtain ⟨name,behind,others,span,present,readRest,rfl⟩ := (read_binding source).mp read
    refine (read_binding longer).mpr ⟨name,behind ++ more,others ++ segments,?_,present,?_,rfl⟩
    · exact spanName_further span opens (by decide) (by decide)
    · exact enough ▸ readSegments_append opens readRest (readMore _ _)
  · obtain ⟨name,behind,others,span,readRest,rfl⟩ := (read_named source).mp read
    obtain ⟨taken,dropped⟩ := span_further rest (opens.ends (p := (· == '^')) (by decide) (by decide))
    refine (read_named longer).mpr ⟨name,behind ++ more,others ++ segments,?_,?_,by rw [taken]⟩
    · rw [dropped]
      exact spanName_further span opens (by decide) (by decide)
    · exact enough ▸ readSegments_append opens readRest (readMore _ _)

end Path

theorem singleQuoted_opens (name rest : List Char) : Opens (singleQuoted name ++ rest) := by
  rintro _ ⟨⟩
  exact .inr rfl

theorem singleQuoted_endsVisible (name : List Char) : EndsVisible (singleQuoted name) := by
  have closed := EndsVisible.bracket ('[' :: '\'' :: (writeEscapes name ++ ['\'']))
  simpa [singleQuoted] using closed

theorem readBracket_single {text body rest : List Char}
    (key : readQuotedKey '\'' text = some (body, rest)) :
    readBracket text = .found (.field (String.ofList (unescapeSingle body))) rest := by
  obtain ⟨inner,-,trimmed,-⟩ := readQuotedKey_eq_some.mp key
  have index := readIndex_none trimmed (by decide) (by decide)
  have double : readQuotedKey '"' text = none := readQuotedKey_none trimmed (by decide)
  simp [readBracket,index,double,key]

theorem readAccessor?_singleQuoted (name rest : List Char) :
    readAccessor? (singleQuoted name ++ rest) = some (.field (String.ofList name), rest) := by
  have trimmed := trimBlankStart_cons (show isBlank '\'' = false by decide)
    (writeEscapes name ++ '\'' :: ']' :: rest)
  have key := readQuotedKey_eq_some.mpr
    ⟨_,_,trimmed,writeEscapes_body.span (by decide) (']' :: rest),closeBracket_bracket rest⟩
  have read := readBracket_single key
  rw [unescapeSingle_eq writeEscapes_body,readEscapes_writeEscapes] at read
  simp [singleQuoted,readAccessor?,read]

theorem trimBlankStart_eq_cons {text rest : List Char} {c : Char} (shown : isBlank c = false) :
    trimBlankStart text = c :: rest ↔
      ∃ blanks, (∀ d ∈ blanks, isBlank d = true) ∧ text = blanks ++ c :: rest := by
  constructor
  · intro trimmed
    refine ⟨text.takeWhile isBlank,fun d => List.mem_takeWhile_imp,?_⟩
    rw [← trimmed,trimBlankStart,List.takeWhile_append_dropWhile]
  · rintro ⟨blanks,blank,rfl⟩
    exact (span_append _ blank (by simp [shown])).2

theorem closeBracket_eq_some {text rest : List Char} : closeBracket text = some rest ↔
    ∃ blanks, (∀ d ∈ blanks, isBlank d = true) ∧ text = blanks ++ ']' :: rest := by
  rw [← trimBlankStart_eq_cons (by decide),closeBracket]
  split
  · next trimmed => simp [trimmed]
  · next other => simpa using other rest

/-- A quoted key is a body between its quotes; blanks may stand before it and before the bracket that
closes it. -/
theorem readQuotedKey_iff {quote : Char} {text body rest : List Char} (other : quote ≠ '\\')
    (shown : isBlank quote = false) : readQuotedKey quote text = some (body, rest) ↔
      QuotedBody quote body ∧ ∃ before after, (∀ c ∈ before, isBlank c = true) ∧
        (∀ c ∈ after, isBlank c = true) ∧
        text = before ++ quote :: (body ++ quote :: (after ++ ']' :: rest)) := by
  rw [readQuotedKey_eq_some]
  constructor
  · rintro ⟨inner,behind,trimmed,span,closed⟩
    obtain ⟨form,rfl⟩ := spanQuoted_body span
    obtain ⟨before,blank,rfl⟩ := (trimBlankStart_eq_cons shown).mp trimmed
    obtain ⟨after,blankAfter,rfl⟩ := closeBracket_eq_some.mp closed
    exact ⟨form,before,after,blank,blankAfter,rfl⟩
  · rintro ⟨form,before,after,blank,blankAfter,rfl⟩
    exact ⟨_,_,(trimBlankStart_eq_cons shown).mpr ⟨before,blank,rfl⟩,form.span other _,
      closeBracket_eq_some.mpr ⟨after,blankAfter,rfl⟩⟩

/-- The key that is read between single quotes is the body read from left to right, whatever body may
stand there, and every text is such a key: with its backslashes doubled and its quotes escaped it goes
behind any path as one accessor more. -/
theorem Path.read_singleQuoted :
    (∀ text body rest, readQuotedKey '\'' text = some (body, rest) ↔
      QuotedBody '\'' body ∧ ∃ before after, (∀ c ∈ before, isBlank c = true) ∧
        (∀ c ∈ after, isBlank c = true) ∧
        text = before ++ '\'' :: (body ++ '\'' :: (after ++ ']' :: rest))) ∧
    (∀ body, QuotedBody '\'' body → unescapeSingle body = readEscapes body) ∧
    (∀ text body rest, readQuotedKey '\'' text = some (body, rest) →
      readBracket text = .found (.field (String.ofList (readEscapes body))) rest) ∧
    ∀ text path name, Path.read text = .ok path →
      Path.read (String.ofList (trimBlank text.toList ++ singleQuoted name)) =
        .ok { path with segments := path.segments ++ [.field (String.ofList name)] } := by
  refine ⟨fun _ _ _ => readQuotedKey_iff (by decide) (by decide),fun _ => unescapeSingle_eq,?_,?_⟩
  · intro text body rest key
    obtain ⟨inner,behind,-,span,-⟩ := readQuotedKey_eq_some.mp key
    rw [readBracket_single key,unescapeSingle_eq (spanQuoted_body span).1]
  · intro text path name read
    have opens := singleQuoted_opens name []
    rw [List.append_nil] at opens
    refine Path.read_append read opens (singleQuoted_endsVisible name) fun shown length => ?_
    have accessor := readAccessor?_singleQuoted name []
    rw [List.append_nil] at accessor
    exact readSegments_cons.mpr ⟨_,_,_,accessor,by simp [readSegments],rfl⟩

theorem Path.read_singleQuoted_runs :
    unescapeSingle "a\\\\\\'\\d".toList = "a\\'\\d".toList ∧
    readBracket " 'a\\\\\\'\\d' ].b".toList = .found (.field "a\\'\\d") ".b".toList ∧
    Path.read (String.ofList (trimBlank "$^local[ 0 ]\t".toList ++ singleQuoted "it's \\' ]".toList)) =
      .ok ⟨⟨.localData,1⟩,[.index 0,.field "it's \\' ]"]⟩ := by
  have key : readQuotedKey '\'' " 'a\\\\\\'\\d' ].b".toList =
      some ("a\\\\\\'\\d".toList, ".b".toList) := by decide +kernel
  have form : QuotedBody '\'' "a\\\\\\'\\d".toList :=
    ((Path.read_singleQuoted.1 _ _ _).mp key).1
  have read : Path.read "$^local[ 0 ]\t" = .ok ⟨⟨.localData,1⟩,[.index 0]⟩ := by decide +kernel
  have scanned : readEscapes "a\\\\\\'\\d".toList = "a\\'\\d".toList := by decide +kernel
  have bracket := Path.read_singleQuoted.2.2.1 _ _ _ key
  rw [scanned,String.ofList_toList] at bracket
  have longer := Path.read_singleQuoted.2.2.2 _ _ "it's \\' ]".toList read
  rw [String.ofList_toList] at longer
  exact ⟨(Path.read_singleQuoted.2.1 _ form).trans scanned,bracket,longer⟩

end PageRuntime
