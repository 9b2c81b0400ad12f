import PageRuntime.Text.CharsetTables
import PageRuntime.Unicode.Case

/-! Octets read as text in a named character set. What stands for no character becomes the
replacement character, one for each longest broken piece. -/
namespace PageRuntime.Text
open Unicode

/-- Wide encodings give their byte order, or leave it to a mark at the start of the data. -/
inductive Charset
  | utf8
  | utf8Marked
  | ascii
  | latin1
  | utf16 (bigEndian : Option Bool)
  | utf32 (bigEndian : Option Bool)
  | table (upper : String)

namespace Charset

def replacement : Char := Char.ofNat 0xFFFD

def named : List (List String × Charset) := [
  (["cp65001", "u8", "utf", "utf8", "utf8_ucs2", "utf8_ucs4", "utf_8"], .utf8),
  (["utf_8_sig"], .utf8Marked),
  (["646", "ansi_x3.4_1968", "ansi_x3.4_1986", "ansi_x3_4_1968", "ascii", "cp367", "csascii",
    "ibm367", "iso646_us", "iso_646.irv_1991", "iso_ir_6", "us", "us_ascii"], .ascii),
  (["8859", "cp819", "csisolatin1", "ibm819", "iso8859", "iso8859_1", "iso_8859_1",
    "iso_8859_1_1987", "iso_ir_100", "l1", "latin", "latin1", "latin_1"], .latin1),
  (["u16", "utf16", "utf_16"], .utf16 none),
  (["unicodelittleunmarked", "utf_16_le", "utf_16le"], .utf16 (some false)),
  (["unicodebigunmarked", "utf_16_be", "utf_16be"], .utf16 (some true)),
  (["u32", "utf32", "utf_32"], .utf32 none),
  (["utf_32_le", "utf_32le"], .utf32 (some false)),
  (["utf_32_be", "utf_32be"], .utf32 (some true))]

/-- Small letters, digits and points, with one underscore for each run of other characters. -/
def normalName (gap : Bool) : List Char → List Char
  | [] => []
  | c :: rest =>
    if isWord c && c != '_' || c == '.' then
      (if gap then ['_'] else []) ++ (if c.toNat < 0x80 then [c.toLower] else []) ++
        normalName false rest
    else normalName true rest

def ofName? (name : String) : Option Charset :=
  let chars := name.toList.dropWhile (fun c => !(isWord c && c != '_' || c == '.'))
  let plain := String.ofList (normalName false chars)
  let dotless := String.ofList ((normalName false chars).map fun c => if c == '.' then '_' else c)
  let found (name : String) : Option Charset :=
    ((named.find? (·.1.contains name)).map (·.2)).or
      ((tables.find? (·.names.contains name)).map fun table => .table table.upper)
  (found plain).or (found dotless)

/-- How many octets follow a lead octet, and the range of the first of them. -/
def leadRule? (lead : Nat) : Option (Nat × Nat × Nat) :=
  if 0xC2 ≤ lead ∧ lead ≤ 0xDF then some (1, 0x80, 0xBF)
  else if lead = 0xE0 then some (2, 0xA0, 0xBF)
  else if lead = 0xED then some (2, 0x80, 0x9F)
  else if 0xE1 ≤ lead ∧ lead ≤ 0xEF then some (2, 0x80, 0xBF)
  else if lead = 0xF0 then some (3, 0x90, 0xBF)
  else if 0xF1 ≤ lead ∧ lead ≤ 0xF3 then some (3, 0x80, 0xBF)
  else if lead = 0xF4 then some (3, 0x80, 0x8F)
  else none

/-- Reads with `owed` octets missing from a character whose bits so far are `code`; the next one
must lie between `low` and `high`. -/
def utf8From (owed code low high : Nat) : List UInt8 → List Char
  | [] => if owed = 0 then [] else [replacement]
  | byte :: rest =>
    let b := byte.toNat
    let start : List Char :=
      if b < 0x80 then Char.ofNat b :: utf8From 0 0 0x80 0xBF rest
      else
        match leadRule? b with
        | some (owed, low, high) =>
          utf8From owed (b % (if owed = 1 then 32 else if owed = 2 then 16 else 8)) low high rest
        | none => replacement :: utf8From 0 0 0x80 0xBF rest
    if owed = 0 then start
    else if low ≤ b ∧ b ≤ high then
      let code := code * 64 + b % 64
      if owed = 1 then Char.ofNat code :: utf8From 0 0 0x80 0xBF rest
      else utf8From (owed - 1) code 0x80 0xBF rest
    else replacement :: start

def readUtf8 (data : List UInt8) : List Char := utf8From 0 0 0x80 0xBF data

def pairValue (bigEndian : Bool) (a b : UInt8) : Nat :=
  if bigEndian then a.toNat * 256 + b.toNat else b.toNat * 256 + a.toNat

/-- Reads units of two octets; `high` is the first half of a pair. -/
def utf16From (bigEndian : Bool) (high : Option Nat) : List UInt8 → List Char
  | [] => if high.isSome then [replacement] else []
  | [_] => [replacement]
  | a :: b :: rest =>
    let unit := pairValue bigEndian a b
    let start : List Char :=
      if 0xD800 ≤ unit ∧ unit < 0xDC00 then utf16From bigEndian (some unit) rest
      else if 0xDC00 ≤ unit ∧ unit < 0xE000 then replacement :: utf16From bigEndian none rest
      else Char.ofNat unit :: utf16From bigEndian none rest
    match high with
    | none => start
    | some first =>
      if 0xDC00 ≤ unit ∧ unit < 0xE000 then
        Char.ofNat (0x10000 + (first - 0xD800) * 0x400 + (unit - 0xDC00)) ::
          utf16From bigEndian none rest
      else replacement :: start

def utf32From (bigEndian : Bool) : List UInt8 → List Char
  | [] => []
  | a :: b :: c :: d :: rest =>
    let code := if bigEndian then pairValue true a b * 65536 + pairValue true c d
      else pairValue false c d * 65536 + pairValue false a b
    (if code < 0xD800 ∨ (0xE000 ≤ code ∧ code < 0x110000) then Char.ofNat code else replacement) ::
      utf32From bigEndian rest
  | _ => [replacement]

def decode : Charset → List UInt8 → List Char
  | .utf8, data => readUtf8 data
  | .utf8Marked, data => readUtf8 (if data.take 3 == [0xEF, 0xBB, 0xBF] then data.drop 3 else data)
  | .ascii, data => data.map fun b => if b < 0x80 then Char.ofNat b.toNat else replacement
  | .latin1, data => data.map fun b => Char.ofNat b.toNat
  | .utf16 (some bigEndian), data => utf16From bigEndian none data
  | .utf16 none, data =>
    if data.take 2 == [0xFF, 0xFE] then utf16From false none (data.drop 2)
    else if data.take 2 == [0xFE, 0xFF] then utf16From true none (data.drop 2)
    else utf16From false none data
  | .utf32 (some bigEndian), data => utf32From bigEndian data
  | .utf32 none, data =>
    if data.take 4 == [0xFF, 0xFE, 0, 0] then utf32From false (data.drop 4)
    else if data.take 4 == [0, 0, 0xFE, 0xFF] then utf32From true (data.drop 4)
    else utf32From false data
  | .table upper, data =>
    let chars := upper.toList.toArray
    data.map fun b =>
      if b < 0x80 then Char.ofNat b.toNat else chars.getD (b.toNat - 128) replacement

end Charset

def utf8Bytes (text : String) : List UInt8 := text.toUTF8.toList

end PageRuntime.Text
