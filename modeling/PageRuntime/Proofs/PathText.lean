import PageRuntime.Path.Reader
import PageRuntime.Proofs.JsonLiterals
import Mathlib.Data.List.Basic

/-! Paths read back from their text. An accessor is read from the front as it was written whatever
follows, if that is the end or another accessor: names stop there, and a bracket closes itself. -/
namespace PageRuntime
open Unicode

/-- Text at which an accessor may have ended: nothing, or another accessor. -/
def Opens (text : List Char) : Prop := ∀ c ∈ text.head?, c = '.' ∨ c = '['

theorem span_append {p : Char → Bool} {name : List Char} (rest : List Char)
    (inside : ∀ c ∈ name, p c = true) (ends : ∀ c ∈ rest.head?, p c = false) :
    (name ++ rest).takeWhile p = name ∧ (name ++ rest).dropWhile p = rest := by
  rw [List.takeWhile_append_of_pos inside,List.dropWhile_append_of_pos inside]
  cases rest with
  | nil => simp
  | cons c rest => simp [ends c (by simp)]

theorem Opens.ends {p : Char → Bool} {rest : List Char} (opens : Opens rest) (point : p '.' = false)
    (bracket : p '[' = false) : ∀ c ∈ rest.head?, p c = false := by
  intro c first
  rcases opens c first with rfl | rfl
  · exact point
  · exact bracket

theorem isBlank_visible {c : Char} (low : 0x20 < c.toNat) (high : c.toNat < 0x7F) :
    isBlank c = false := by
  simp only [isBlank,within,blankRanges,List.any_cons,List.any_nil,Bool.or_false,
    Bool.or_eq_false_iff,Bool.and_eq_false_iff,decide_eq_false_iff_not]
  omega

theorem isBlank_fieldChar {c : Char} (inside : isFieldChar c = true) : isBlank c = false := by
  simp only [isFieldChar,isFieldStart,Bool.or_eq_true,Bool.and_eq_true,decide_eq_true_eq,
    beq_iff_eq,Char.le_def,UInt32.le_iff_toNat_le] at inside
  rcases inside with (((letter | letter) | digit) | rfl) | rfl
  · exact isBlank_visible (Nat.lt_of_lt_of_le (by decide) letter.1)
      (Nat.lt_of_le_of_lt letter.2 (by decide))
  · exact isBlank_visible (Nat.lt_of_lt_of_le (by decide) letter.1)
      (Nat.lt_of_le_of_lt letter.2 (by decide))
  · exact isBlank_visible (Nat.lt_of_lt_of_le (by decide) digit.1)
      (Nat.lt_of_le_of_lt digit.2 (by decide))
  · decide
  · decide

section Index

theorem digit_bounds {c : Char} (digit : c.isDigit = true) : '0' ≤ c ∧ c ≤ '9' := by
  simp only [Char.isDigit,Bool.and_eq_true,decide_eq_true_eq] at digit
  exact digit

theorem digitValue?_digit {c : Char} (digit : c.isDigit = true) :
    digitValue? c = some (c.toNat - 48) := by
  have bounds := digit_bounds digit
  have small : c.toNat < 0x80 := Nat.lt_of_le_of_lt bounds.2 (by decide)
  simp [digitValue?,small,bounds]

theorem isDigit_toDigits {n : Nat} {c : Char} (inside : c ∈ Nat.toDigits 10 n) :
    c.isDigit = true :=
  Nat.isDigit_of_mem_toDigits (by decide) (by decide) inside

theorem digitsValue_toDigits (n : Nat) :
    Number.digitsValue ((Nat.toDigits 10 n).filterMap digitValue?) = n := by
  have values : (Nat.toDigits 10 n).filterMap digitValue? =
      (Nat.toDigits 10 n).map fun c => c.toNat - 48 := by
    rw [← List.filterMap_eq_map]
    exact List.filterMap_congr fun c inside => digitValue?_digit (isDigit_toDigits inside)
  rw [values,Number.digitsValue,List.foldl_map]
  exact Nat.ofDigitChars_toDigits (by decide) (by decide)

theorem trimBlankStart_cons {c : Char} (shown : isBlank c = false) (rest : List Char) :
    trimBlankStart (c :: rest) = c :: rest := by
  simp [trimBlankStart,shown]

theorem closeBracket_bracket (rest : List Char) : closeBracket (']' :: rest) = some rest := by
  simp [closeBracket,trimBlankStart_cons (show isBlank ']' = false by decide)]

theorem readIndex_intChars (place : Int) (rest : List Char) :
    readIndex (intChars place ++ ']' :: rest) = some (place, rest) := by
  have digits : ∀ c ∈ Nat.toDigits 10 place.natAbs, isDigit c = true := fun c inside => by
    simp [isDigit,digitValue?_digit (isDigit_toDigits inside)]
  obtain ⟨taken,dropped⟩ := span_append (']' :: rest) digits
    (by simp [show isDigit ']' = false by decide])
  have value := digitsValue_toDigits place.natAbs
  obtain ⟨first,others,same⟩ : ∃ first others, Nat.toDigits 10 place.natAbs = first :: others :=
    List.exists_cons_of_ne_nil Nat.toDigits_ne_nil
  have digit : first.isDigit = true := isDigit_toDigits (n := place.natAbs) (by simp [same])
  have shown : isBlank first = false :=
    isBlank_visible (Nat.lt_of_lt_of_le (by decide) (digit_bounds digit).1)
      (Nat.lt_of_le_of_lt (digit_bounds digit).2 (by decide))
  have unsigned : first ≠ '-' := by
    rintro rfl
    exact absurd digit (by decide)
  have present : ((first :: others).filterMap digitValue?).isEmpty = false := by
    simp [digitValue?_digit digit]
  rw [same] at value
  rw [same,List.cons_append] at taken dropped
  rcases lt_or_ge place 0 with below | above
  · have signed : -(place.natAbs : Int) = place := by omega
    rw [intChars,if_pos below,same,List.cons_append,List.cons_append,readIndex,
      trimBlankStart_cons (by decide)]
    simp only [taken,dropped,present,value,closeBracket_bracket,signed,Bool.false_eq_true,
      reduceIte,Option.map_some]
  · have signed : (place.natAbs : Int) = place := by omega
    rw [intChars,if_neg (not_lt.2 above),same,List.cons_append,readIndex,
      trimBlankStart_cons shown]
    split
    rename_i sign
    -- The only sign is a minus, which no digit is.
    split at sign
    · simp_all
    · cases sign
      simp only [taken,dropped,present,value,closeBracket_bracket,signed,Bool.false_eq_true,
        reduceIte,Option.map_some]

end Index
section Quoted

theorem spanQuoted_plain {quote c : Char} {rest body after : List Char} (other : c ≠ quote)
    (plain : c ≠ '\\') (span : spanQuoted quote rest = some (body, after)) :
    spanQuoted quote (c :: rest) = some (c :: body, after) := by
  rw [spanQuoted]
  · simp [other,plain,span]
  · simp [plain]

theorem spanQuoted_escape {quote c : Char} {rest body after : List Char} (inLine : c ≠ '\n')
    (span : spanQuoted quote rest = some (body, after)) :
    spanQuoted quote ('\\' :: c :: rest) = some ('\\' :: c :: body, after) := by
  simp [spanQuoted,inLine,span]

theorem spanQuoted_unitText {unit : Nat} {rest body after : List Char}
    (span : spanQuoted '"' rest = some (body, after)) :
    spanQuoted '"' (Json.unitText unit ++ rest) = some (Json.unitText unit ++ body, after) := by
  have digit (n : Nat) : Text.hexDigit (n % 16) ≠ '"' ∧ Text.hexDigit (n % 16) ≠ '\\' := by
    have small : n % 16 < 16 := Nat.mod_lt n (by decide)
    interval_cases n % 16 <;> decide
  exact spanQuoted_escape (by decide) (spanQuoted_plain (digit _).1 (digit _).2
    (spanQuoted_plain (digit _).1 (digit _).2 (spanQuoted_plain (digit _).1 (digit _).2
      (spanQuoted_plain (digit _).1 (digit _).2 span))))

theorem spanQuoted_units {units : List Nat} {rest body after : List Char}
    (span : spanQuoted '"' rest = some (body, after)) :
    spanQuoted '"' (units.flatMap Json.unitText ++ rest) =
      some (units.flatMap Json.unitText ++ body, after) := by
  induction units with
  | nil => exact span
  | cons unit units units_span =>
    rw [List.flatMap_cons,List.append_assoc,List.append_assoc]
    exact spanQuoted_unitText units_span

theorem spanQuoted_escaped (text rest : List Char) :
    spanQuoted '"' (text.flatMap (Json.escapeChar .plain) ++ '"' :: rest) =
      some (text.flatMap (Json.escapeChar .plain), rest) := by
  induction text with
  | nil => simp [spanQuoted]
  | cons c text span =>
    rw [List.flatMap_cons,List.append_assoc]
    rcases Json.escapeChar_cases .plain c with ⟨same,quote,backslash,-⟩ |
      ⟨letter,escaped,-,inLine,-⟩ | units
    · rw [same]
      exact spanQuoted_plain quote backslash span
    · rw [escaped]
      exact spanQuoted_escape inLine span
    · rw [units]
      exact spanQuoted_units span

theorem readBracket_quoteChars (name rest : List Char) :
    readBracket (Json.quoteChars .plain name ++ ']' :: rest) =
      .found (.field (String.ofList name)) rest := by
  have index : readIndex (Json.quoteChars .plain name ++ ']' :: rest) = none := by
    simp [readIndex,Json.quoteChars,trimBlankStart_cons (show isBlank '"' = false by decide),
      show isDigit '"' = false by decide]
  have key : readQuotedKey '"' (Json.quoteChars .plain name ++ ']' :: rest) =
      some (name.flatMap (Json.escapeChar .plain), rest) := by
    simp [readQuotedKey,Json.quoteChars,trimBlankStart_cons (show isBlank '"' = false by decide),
      spanQuoted_escaped,closeBracket_bracket]
  simp [readBracket,index,key,unescapeDouble?,Json.readQuoted_escaped]

end Quoted

theorem isPlainField_chars {name : List Char} (plain : isPlainField name = true) :
    ∀ c ∈ name, isFieldChar c = true := by
  cases name with
  | nil => simp
  | cons c name =>
    obtain ⟨start,follows⟩ : isFieldStart c = true ∧ ∀ d ∈ name, isFieldChar d = true := by
      simpa [isPlainField] using plain
    simpa [isFieldChar,start] using follows

theorem spanField_plain {name rest : List Char} (plain : isPlainField name = true)
    (opens : Opens rest) : spanField (name ++ rest) = (name, rest) := by
  cases name with
  | nil => simp [isPlainField] at plain
  | cons c name =>
    obtain ⟨start,follows⟩ : isFieldStart c = true ∧ ∀ d ∈ name, isFieldChar d = true := by
      simpa [isPlainField] using plain
    obtain ⟨taken,dropped⟩ := span_append _ follows (opens.ends (by decide) (by decide))
    simp [spanField,start,taken,dropped]

theorem Segment.opens (segments : List Segment) : Opens (segments.flatMap Segment.chars) := by
  intro c first
  cases segments with
  | nil => simp at first
  | cons segment segments =>
    have starts : segment.chars.head? = some '.' ∨ segment.chars.head? = some '[' := by
      fun_cases Segment.chars segment <;> simp
    rw [List.flatMap_cons,List.head?_append] at first
    rcases starts with starts | starts
    · exact .inl (by simpa [starts,eq_comm] using first)
    · exact .inr (by simpa [starts,eq_comm] using first)

/-- The accessor at the front of a text, with what follows it. -/
def readAccessor? (text : List Char) : Option (Segment × List Char) :=
  match text with
  | [] => none
  | c :: rest =>
    if c == '.' then
      match spanField rest with
      | ([], _) => none
      | (name, rest) => some (.field (String.ofList name),rest)
    else if c == '[' then
      match readBracket rest with
      | .found segment rest => some (segment,rest)
      | _ => none
    else none

theorem readSegments_cons {shown : String} {length fuel : Nat} {c : Char} {text : List Char}
    {segments : List Segment} :
    readSegments shown length (fuel + 1) (c :: text) = .ok segments ↔ ∃ segment behind more,
      readAccessor? (c :: text) = some (segment, behind) ∧
      readSegments shown length fuel behind = .ok more ∧ segments = segment :: more := by
  have made {segment : Segment} {result : Except Fault (List Segment)} :
      (result >>= fun more => .ok (segment :: more)) = .ok segments ↔
        ∃ more, result = .ok more ∧ segments = segment :: more := by
    cases result <;> simp [bind,Except.bind,eq_comm]
  rw [readSegments,readAccessor?]
  split
  · obtain ⟨name,behind⟩ := spanField text
    cases name with
    | nil => simp
    | cons d name => simp [made]
  · split
    · cases readBracket text with
      | found segment behind => simp [made]
      | _ => simp
    · simp

theorem readAccessor?_chars (segment : Segment) {rest : List Char} (opens : Opens rest) :
    readAccessor? (segment.chars ++ rest) = some (segment, rest) := by
  fun_cases Segment.chars segment with
  | case1 place => simp [readAccessor?,readBracket,readIndex_intChars]
  | case2 name plain =>
    have span := spanField_plain plain opens
    rw [← String.ofList_toList (s := name)]
    cases chars : name.toList with
    | nil => simp [chars,isPlainField] at plain
    | cons c others =>
      rw [chars] at span
      simp only [List.cons_append] at span ⊢
      simp [readAccessor?,span]
  | case3 name quoted => simp [readAccessor?,readBracket_quoteChars]

theorem readSegments_segment {shown : String} {length fuel : Nat} (segment : Segment)
    {rest : List Char} {segments : List Segment} (opens : Opens rest) :
    readSegments shown length (fuel + 1) (segment.chars ++ rest) = .ok segments ↔
      ∃ others, readSegments shown length fuel rest = .ok others ∧ segments = segment :: others := by
  have accessor := readAccessor?_chars segment opens
  cases chars : segment.chars ++ rest with
  | nil => simp [chars,readAccessor?] at accessor
  | cons c text =>
    rw [chars] at accessor
    simp [readSegments_cons,accessor]

theorem readSegments_chars (shown : String) (length : Nat) {fuel : Nat} (segments : List Segment)
    (enough : segments.length ≤ fuel) :
    readSegments shown length fuel (segments.flatMap Segment.chars) = .ok segments := by
  induction segments generalizing fuel with
  | nil => simp [readSegments]
  | cons segment segments read =>
    obtain ⟨less,rfl⟩ : ∃ less, fuel = less + 1 :=
      Nat.exists_eq_add_one_of_ne_zero (by simp at enough; omega)
    rw [List.flatMap_cons,readSegments_segment segment (Segment.opens segments)]
    exact ⟨segments,read (by simpa using enough),rfl⟩

theorem Segment.length_le (segments : List Segment) :
    segments.length ≤ (segments.flatMap Segment.chars).length := by
  induction segments with
  | nil => simp
  | cons segment segments shorter =>
    have one : 1 ≤ segment.chars.length := by fun_cases Segment.chars segment <;> simp
    rw [List.flatMap_cons,List.length_append,List.length_cons]
    omega

/-- What a root may be named: nothing, which is short for the global root, or an identifier, which
has letters, digits and underscores of ASCII and opens with no digit. -/
def isRootName : List Char → Bool
  | [] => true
  | c :: rest => isNameStart c && rest.all isNameChar

theorem isFieldChar_nameChar {c : Char} (inside : isNameChar c = true) : isFieldChar c = true := by
  simp only [isNameChar,isNameStart,isAsciiLetter,isAsciiDigit,Bool.or_eq_true] at inside
  simp only [isFieldChar,isFieldStart,Bool.or_eq_true]
  tauto

theorem isRootName_chars {name : List Char} (identifier : isRootName name = true) :
    ∀ c ∈ name, isNameChar c = true := by
  cases name with
  | nil => simp
  | cons c name =>
    obtain ⟨start,follows⟩ : isNameStart c = true ∧ ∀ d ∈ name, isNameChar d = true := by
      simpa [isRootName] using identifier
    simpa [isNameChar,start] using follows

/-- The name a root is written with leads to that root, and is never empty. -/
theorem RootKind.ofName_name {name : String} (identifier : isRootName name.toList = true) :
    ofName (ofName name).name = ofName name ∧ (ofName name).name.toList ≠ [] ∧
      isRootName (ofName name).name.toList = true := by
  have known : ∀ entry ∈ aliases, ofName entry.2.name = entry.2 ∧ entry.2.name.toList ≠ [] ∧
      isRootName entry.2.name.toList = true := by
    decide
  cases found : aliases.lookup name with
  | none =>
    have same : ofName name = named name := by simp [ofName,found]
    refine ⟨by simp [same,RootKind.name],?_,by simpa [same,RootKind.name] using identifier⟩
    intro empty
    obtain rfl : name = "" := by simpa [same,RootKind.name] using empty
    exact absurd found (by decide)
  | some kind =>
    obtain ⟨before,after,split,-⟩ := List.lookup_eq_some_iff.1 found
    have same : ofName name = kind := by simp [ofName,found]
    rw [same]
    exact known (name, kind) (by simp [split])

theorem spanName_rootName {name rest : List Char} (identifier : isRootName name = true)
    (present : name ≠ []) (opens : Opens rest) :
    spanName isNameChar (name ++ rest) = (name, rest) := by
  cases name with
  | nil => exact absurd rfl present
  | cons c name =>
    obtain ⟨start,follows⟩ : isNameStart c = true ∧ ∀ d ∈ name, isNameChar d = true := by
      simpa [isRootName] using identifier
    obtain ⟨taken,dropped⟩ := span_append _ follows (opens.ends (by decide) (by decide))
    simp [spanName,start,taken,dropped]

/-- Text that does not end in a blank. -/
def EndsVisible (text : List Char) : Prop := ∀ c ∈ text.getLast?, isBlank c = false

theorem EndsVisible.of_all {text : List Char} (visible : ∀ c ∈ text, isBlank c = false) :
    EndsVisible text := fun c last => visible c (List.mem_of_getLast? last)

theorem EndsVisible.append {before after : List Char} (first : EndsVisible before)
    (second : EndsVisible after) : EndsVisible (before ++ after) := by
  intro c last
  rw [Option.mem_def,List.getLast?_append,Option.or_eq_some_iff] at last
  rcases last with last | ⟨-,last⟩
  · exact second c last
  · exact first c last

theorem EndsVisible.bracket (text : List Char) : EndsVisible (text ++ [']']) := by
  intro c last
  obtain rfl : ']' = c := by simpa using last
  decide

theorem Segment.endsVisible (segment : Segment) : EndsVisible segment.chars := by
  fun_cases Segment.chars segment with
  | case1 place => exact EndsVisible.bracket ('[' :: intChars place)
  | case2 name plain =>
    refine EndsVisible.of_all fun c inside => ?_
    rcases List.mem_cons.1 inside with rfl | inside
    · decide
    · exact isBlank_fieldChar (isPlainField_chars plain c inside)
  | case3 name quoted => exact EndsVisible.bracket ('[' :: Json.quoteChars .plain name.toList)

theorem Root.endsVisible {name : String} (identifier : isRootName name.toList = true)
    (caret : Nat) : EndsVisible (Root.ofName name caret).chars := by
  obtain ⟨-,-,identifier⟩ := RootKind.ofName_name identifier
  refine EndsVisible.of_all fun c inside => ?_
  simp only [Root.chars,Root.ofName,List.mem_cons,List.mem_append,List.mem_replicate] at inside
  rcases inside with rfl | ⟨-,rfl⟩ | inside
  · decide
  · decide
  · exact isBlank_fieldChar (isFieldChar_nameChar (isRootName_chars identifier c inside))

theorem Path.endsVisible {name : String} (identifier : isRootName name.toList = true)
    (caret : Nat) (segments : List Segment) :
    EndsVisible (Path.mk (Root.ofName name caret) segments).chars := by
  refine (Root.endsVisible identifier caret).append ?_
  induction segments with
  | nil => simp [EndsVisible]
  | cons segment segments visible => exact segment.endsVisible.append visible

theorem trimBlank_eq {text : List Char} (first : ∀ c ∈ text.head?, isBlank c = false)
    (last : EndsVisible text) : trimBlank text = text := by
  have kept {text : List Char} (first : ∀ c ∈ text.head?, isBlank c = false) :
      text.dropWhile isBlank = text := by
    cases text with
    | nil => rfl
    | cons c rest => exact List.dropWhile_cons_of_neg (by simp [first c (by simp)])
  rw [trimBlank,kept first,kept (by simpa [EndsVisible] using last), List.reverse_reverse]

theorem span_carets {name : List Char} (rest : List Char) (identifier : isRootName name = true)
    (present : name ≠ []) (caret : Nat) :
    (List.replicate caret '^' ++ (name ++ rest)).takeWhile (· == '^') = List.replicate caret '^' ∧
      (List.replicate caret '^' ++ (name ++ rest)).dropWhile (· == '^') = name ++ rest := by
  refine span_append _ (by simp) fun c first => ?_
  have inside : c ∈ name := by
    rw [List.head?_append_of_ne_nil _ present] at first
    exact List.mem_of_head? first
  have follows := isRootName_chars identifier c inside
  rw [beq_eq_false_iff_ne]
  rintro rfl
  exact absurd follows (by decide)

theorem Path.read_ofName {name : String} (identifier : isRootName name.toList = true)
    (caret : Nat) (segments : List Segment) :
    Path.read (Path.text ⟨Root.ofName name caret,segments⟩) =
      .ok ⟨Root.ofName name caret,segments⟩ := by
  obtain ⟨same,present,shown⟩ := RootKind.ofName_name identifier
  have trimmed : trimBlank (Path.mk (Root.ofName name caret) segments).chars = _ :=
    trimBlank_eq (by simp [Path.chars,Root.chars,show isBlank '$' = false by decide])
      (Path.endsVisible identifier caret segments)
  obtain ⟨taken,dropped⟩ := span_carets (segments.flatMap Segment.chars) shown present caret
  have span := spanName_rootName shown present (Segment.opens segments)
  have shorter := Segment.length_le segments
  rw [Path.read,Path.text,String.toList_ofList,trimmed]
  simp only [Path.chars,Root.chars,Root.ofName,List.cons_append,List.append_assoc,taken,
    dropped,span]
  rw [readSegments_chars _ _ _ (by simp only [List.length_cons,List.length_append]; omega)]
  simp [bind,Except.bind,same]

theorem isRootName_spanName (text : List Char) :
    isRootName (spanName isNameChar text).1 = true := by
  fun_cases spanName isNameChar text with
  | case1 => rfl
  | case2 c rest start => simp [isRootName,start,List.all_takeWhile]
  | case3 => rfl

theorem Path.read_root {text : String} {path : Path} (read : Path.read text = .ok path) :
    ∃ name caret, isRootName name.toList = true ∧ path.root = Root.ofName name caret := by
  have made {segments : Except Fault (List Segment)} {make : List Segment → Path}
      (read : (segments >>= fun segments => .ok (make segments)) = .ok path) :
      ∃ segments, make segments = path := by
    cases segments with
    | error fault => simp [bind,Except.bind] at read
    | ok segments => exact ⟨segments,by simpa [bind,Except.bind] using read⟩
  revert read
  fun_cases Path.read text with
  | case1 => simp
  | case2 => simp
  | case3 =>
    intro read
    obtain ⟨segments,rfl⟩ := made read
    exact ⟨"context",0,by decide,rfl⟩
  | case4 _ _ _ rest _ carets body after span =>
    intro read
    obtain ⟨segments,rfl⟩ := made read
    refine ⟨String.ofList body,carets.length,?_,rfl⟩
    have identifier := isRootName_spanName (rest.dropWhile (· == '^'))
    rw [span] at identifier
    rwa [String.toList_ofList]
  | case5 => simp

/-- A path is read from its own text as it is. What is read from any text therefore has a normal
form, which reads as the same path. -/
theorem Path.read_text :
    (∀ name caret segments, isRootName name.toList = true →
      Path.read (Path.text ⟨Root.ofName name caret,segments⟩) =
        .ok ⟨Root.ofName name caret,segments⟩) ∧
    ∀ text path, Path.read text = .ok path → Path.read path.text = .ok path := by
  refine ⟨fun name caret segments identifier => Path.read_ofName identifier caret segments,?_⟩
  intro text ⟨root,segments⟩ read
  obtain ⟨name,caret,identifier,rfl⟩ := Path.read_root read
  exact Path.read_ofName identifier caret segments

namespace Path

/-- Keys of every kind beside one another: empty, negative, all digits, with quotes and a line
break, beyond ASCII. -/
def crowded : Path :=
  ⟨Root.ofName "data" 2,[.field "",.index (-7),.field "0-x",.field "7",
    .field "it's \"a\\b\"\n].c[",.index 0,.field "\x7fé😀"]⟩

def bound : Path := ⟨Root.ofName "context" 0,[.field "user-id",.index (-7),.field "it's"]⟩

theorem read_text_crowded :
    Path.read crowded.text = .ok crowded ∧
    Path.read " @user-id[ -0\u0667 ]['it\\'s']\n" = .ok bound ∧
    Path.read bound.text = .ok bound := by
  have reads : Path.read " @user-id[ -0\u0667 ]['it\\'s']\n" = .ok bound := by decide +kernel
  exact ⟨Path.read_text.1 "data" 2 crowded.segments (by decide),reads,Path.read_text.2 _ _ reads⟩

end Path

end PageRuntime
