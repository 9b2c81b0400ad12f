import PageRuntime.Number.Reading
import PageRuntime.Store

/-! Numbers that a value stands for where a number is wanted: numbers and truth values themselves,
and texts that spell one. -/
namespace PageRuntime
namespace Store

def notNumber (s : Store) (wanted : String) (v : Value) : Fault :=
  .misuse .type
    (wanted ++ " argument must be a string or a real number, not '" ++ s.typeName v ++ "'")

/-- Octets spell what their ASCII characters spell. -/
def asciiText? (data : List UInt8) : Option String :=
  if data.all (· < 0x80) then some (String.ofList (data.map fun b => Char.ofNat b.toNat)) else none

def spelled? : Value → Option (Option String)
  | .str text => some (some text)
  | .bytes data => some (asciiText? data)
  | _ => none

def floatOf (s : Store) (v : Value) : Except Fault Number.Binary64 :=
  match v with
  | .float x => .ok x
  | .bool truth => .ok (Number.Binary64.ofRatio false (if truth then 1 else 0) 1)
  | .int i =>
    match Number.Binary64.ofInt? i with
    | some x => .ok x
    | none => .error (.misuse .overflow "int too large to convert to float")
  | v =>
    match spelled? v with
    | some text =>
      match text.bind Number.readFloat? with
      | some x => .ok x
      | none => .error (.misuse .value "could not convert string to float")
    | none => .error (s.notNumber "float()" v)

def intOf (s : Store) (v : Value) : Except Fault Int :=
  match v with
  | .int i => .ok i
  | .bool truth => .ok (if truth then 1 else 0)
  | .float x =>
    match x.truncate? with
    | some i => .ok i
    | none =>
      if x.isNaN then .error (.misuse .value "cannot convert float NaN to integer")
      else .error (.misuse .overflow "cannot convert float infinity to integer")
  | v =>
    match spelled? v with
    | some text =>
      match text.bind Number.readInt? with
      | some i => .ok i
      | none => .error (.misuse .value "invalid literal for int() with base 10")
    | none => .error (s.notNumber "int()" v)

end Store
end PageRuntime
