import PageRuntime.Json.Quoted
import Mathlib.Tactic.IntervalCases

/-! JSON string literals read back: what the writer puts for a character, the reader takes from the
front as that character, in either alphabet. -/
namespace PageRuntime.Json

theorem hexValue?_hexDigit {n : Nat} (small : n < 16) : hexValue? (Text.hexDigit n) = some n := by
  interval_cases n <;> decide

theorem unitText_digits {unit : Nat} (small : unit < 0x10000) : ∃ a b c d,
    unitText unit = ['\\', 'u', a, b, c, d] ∧ hexUnit? a b c d = some unit := by
  refine ⟨_,_,_,_,rfl,?_⟩
  have digit (n : Nat) : hexValue? (Text.hexDigit (n % 16)) = some (n % 16) :=
    hexValue?_hexDigit (Nat.mod_lt n (by decide))
  simp only [hexUnit?,digit,Option.bind_eq_bind,Option.bind_some,Option.some.injEq]
  omega

theorem readQuoted_unit {unit : Nat} {text rest after : List Char} (small : unit < 0x10000)
    (alone : isHighUnit unit = false) (read : readQuoted none rest = some (text, after)) :
    readQuoted none (unitText unit ++ rest) = some (unitChar unit :: text, after) := by
  obtain ⟨a,b,c,d,digits,value⟩ := unitText_digits small
  simp [digits,readQuoted,value,alone,read]

theorem readQuoted_pair {first second : Nat} {text rest after : List Char}
    (firstSmall : first < 0x10000) (secondSmall : second < 0x10000)
    (high : isHighUnit first = true) (low : isLowUnit second = true)
    (read : readQuoted none rest = some (text, after)) :
    readQuoted none (unitText first ++ (unitText second ++ rest)) =
      some (Char.ofNat (0x10000 + (first - 0xD800) * 0x400 + (second - 0xDC00)) :: text,after) := by
  obtain ⟨a,b,c,d,digits,value⟩ := unitText_digits firstSmall
  obtain ⟨a',b',c',d',digits',value'⟩ := unitText_digits secondSmall
  simp [digits,digits',readQuoted,value,value',high,low,read]

/-- No character is half of a pair. -/
theorem unitChar_toNat {c : Char} (small : c.toNat < 0x10000) :
    isHighUnit c.toNat = false ∧ unitChar c.toNat = c := by
  have valid : c.toNat.isValidChar := c.valid
  have high : isHighUnit c.toNat = false := by
    simp only [isHighUnit,Bool.and_eq_false_iff,decide_eq_false_iff_not]
    omega
  have low : isLowUnit c.toNat = false := by
    simp only [isLowUnit,Bool.and_eq_false_iff,decide_eq_false_iff_not]
    omega
  exact ⟨high,by simp [unitChar,high,low,Char.ofNat_toNat]⟩

theorem readQuoted_charUnits {c : Char} {text rest after : List Char}
    (read : readQuoted none rest = some (text, after)) :
    readQuoted none ((charUnits c.toNat).flatMap unitText ++ rest) = some (c :: text, after) := by
  by_cases small : c.toNat < 0x10000
  · obtain ⟨alone,char⟩ := unitChar_toNat small
    simpa [charUnits,small,char] using readQuoted_unit small alone read
  · have valid : c.toNat.isValidChar := c.valid
    have high : isHighUnit (0xD800 + (c.toNat - 0x10000) / 0x400) = true := by
      simp only [isHighUnit,Bool.and_eq_true,decide_eq_true_eq]
      omega
    have low : isLowUnit (0xDC00 + (c.toNat - 0x10000) % 0x400) = true := by
      simp only [isLowUnit,Bool.and_eq_true,decide_eq_true_eq]
      omega
    have code : 0x10000 + (0xD800 + (c.toNat - 0x10000) / 0x400 - 0xD800) * 0x400 +
        (0xDC00 + (c.toNat - 0x10000) % 0x400 - 0xDC00) = c.toNat := by
      omega
    have pair := readQuoted_pair (by omega) (by omega) high low read
    rw [code,Char.ofNat_toNat] at pair
    simpa [charUnits,small] using pair

/-- A character is written as it is, after a backslash, or as UTF-16 units. -/
theorem escapeChar_cases (alphabet : Alphabet) (c : Char) :
    (escapeChar alphabet c = [c] ∧ c ≠ '"' ∧ c ≠ '\\' ∧ 0x20 ≤ c.toNat) ∨
    (∃ letter, escapeChar alphabet c = ['\\', letter] ∧ letter ≠ 'u' ∧ letter ≠ '\n' ∧
      simpleEscape? letter = some c) ∨
    escapeChar alphabet c = (charUnits c.toNat).flatMap unitText := by
  have ofCode {code : Nat} (same : c.toNat = code) : Char.ofNat code = c := by
    rw [← same,Char.ofNat_toNat]
  fun_cases escapeChar alphabet c with
  | case1 plain =>
    refine .inr (.inl ⟨c,rfl,?_⟩)
    obtain rfl | rfl : c = '"' ∨ c = '\\' := by simpa using plain
    all_goals decide
  | case2 _ same => exact .inr (.inl ⟨'n',rfl,by decide,by decide,by simp_all [simpleEscape?]⟩)
  | case3 _ _ same => exact .inr (.inl ⟨'r',rfl,by decide,by decide,by simp_all [simpleEscape?]⟩)
  | case4 _ _ _ same =>
    exact .inr (.inl ⟨'t',rfl,by decide,by decide,by simp_all [simpleEscape?]⟩)
  | case5 _ _ _ _ same =>
    exact .inr (.inl ⟨'b',rfl,by decide,by decide,congrArg some (ofCode (by simpa using same))⟩)
  | case6 _ _ _ _ _ same =>
    exact .inr (.inl ⟨'f',rfl,by decide,by decide,congrArg some (ofCode (by simpa using same))⟩)
  | case7 _ _ _ _ _ _ control =>
    refine .inr (.inr ?_)
    simp [charUnits,show c.toNat < 0x10000 by omega]
  | case8 => exact .inr (.inr rfl)
  | case9 plain _ _ _ _ _ visible _ =>
    refine .inl ⟨rfl,?_,?_,by omega⟩
    all_goals
      rintro rfl
      simp at plain

theorem readQuoted_escapeChar {alphabet : Alphabet} {c : Char} {text rest after : List Char}
    (read : readQuoted none rest = some (text, after)) :
    readQuoted none (escapeChar alphabet c ++ rest) = some (c :: text, after) := by
  rcases escapeChar_cases alphabet c with ⟨same,quote,backslash,visible⟩ |
    ⟨letter,escaped,unit,-,plain⟩ | units
  · rw [same,List.singleton_append,readQuoted]
    · simp [backslash,read,Nat.not_lt.2 visible]
    all_goals simp [quote,backslash]
  · simp [escaped,readQuoted,unit,plain,read]
  · rw [units]
    exact readQuoted_charUnits read

theorem readQuoted_escaped (alphabet : Alphabet) (text rest : List Char) :
    readQuoted none (text.flatMap (escapeChar alphabet) ++ '"' :: rest) = some (text, rest) := by
  induction text with
  | nil => simp [readQuoted]
  | cons c text read =>
    rw [List.flatMap_cons,List.append_assoc]
    exact readQuoted_escapeChar read

end PageRuntime.Json
