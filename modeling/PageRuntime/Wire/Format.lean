import PageRuntime.Json.Load
import PageRuntime.Json.Writer
import PageRuntime.Text.Charset
import PageRuntime.Value.Plain
import PageRuntime.Wire.MediaType
import PageRuntime.Yaml.Load
import PageRuntime.Yaml.Writer

/-! Values on the wire: texts and octets read as JSON or YAML by their content type or by how they
begin, and values written in either format from their plain form. -/
namespace PageRuntime.Wire
open Unicode

inductive Format
  | json
  | yaml
deriving DecidableEq

def Format.ofName? (name : String) : Option Format :=
  if name == "json" then some .json else if name == "yaml" then some .yaml else none

def Format.name : Format → String
  | .json => "json"
  | .yaml => "yaml"

/-- Text that begins like an object or an array is taken for JSON. -/
def opensContainer (text : String) : Bool :=
  match trimBlankStart text.toList with
  | c :: _ => c == '{' || c == '['
  | [] => false

def detectFormat (contentType text : Option String) : Option Format :=
  if isJson contentType then some .json
  else if isYaml contentType then some .yaml
  else if text.any opensContainer then some .json
  else none

/-- The character set is the one the content type names, or UTF-8 if it names none that is known. -/
def decodeText (data : List UInt8) (contentType : Option String) : String :=
  let charset := ((charset? contentType).bind Text.Charset.ofName?).getD .utf8
  String.ofList (charset.decode data)

/-- The octet that a number in a container stands for. -/
def octetOf (s : Store) (v : Value) : Except Fault UInt8 :=
  match v with
  | .int i =>
    if 0 ≤ i ∧ i < 256 then .ok (UInt8.ofNat i.toNat)
    else .error (.misuse .value "bytes must be in range(0, 256)")
  | .bool truth => .ok (if truth then 1 else 0)
  | v =>
    .error (.misuse .type ("'" ++ s.typeName v ++ "' object cannot be interpreted as an integer"))

/-- How many zero octets a number may stand for. -/
def maxZeros : Nat := 1000000

/-- Octets, or the numbers of octets in a container; a number alone stands for as many zeros. -/
def octetsOf (s : Store) (v : Value) : Except Fault (List UInt8) :=
  match v with
  | .bytes data => .ok data
  | .bool truth => .ok (if truth then [0] else [])
  | .int i =>
    if i < 0 then .error (.misuse .value "negative count")
    else if maxZeros < i.toNat then
      .error (.misuse .overflow "cannot fit 'int' into an index-sized integer")
    else .ok (List.replicate i.toNat 0)
  | v =>
    match s.itemsOf v with
    | .ok items => items.mapM (octetOf s)
    | .error _ => .error (.misuse .type ("cannot convert '" ++ s.typeName v ++ "' object to bytes"))

/-- A text is as it is; anything else is decoded. -/
def textOf (s : Store) (contentType : Option String) : Value → Except Fault String
  | .str text => .ok text
  | v => do .ok (decodeText (← octetsOf s v) contentType)

def read (format : Format) (text : String) (s : Store) : Except Fault (Value × Store) :=
  match format with
  | .json => Json.load text s
  | .yaml => Yaml.load text s

def readText (format : Format) (text : String) : Act Value := do
  let s ← Act.store
  let (v, s) ← Act.ofExcept (read format text s)
  Act.update fun _ => s
  return v

/-- Reads data in the format that is asked for by name, or else in the one that it seems to have.
Data in no known format is its own text. -/
def deserialize (data : Value) (contentType name : Option String) : Act Value := do
  let text ← Act.ofExcept (textOf (← Act.store) contentType data)
  let format := match name with
    | some name =>
      if name.isEmpty then detectFormat contentType (some text) else Format.ofName? name
    | none => detectFormat contentType (some text)
  match format with
  | some format => readText format text
  | none => return .str text

/-- One line of JSON, or lines indented by two. -/
def jsonLayout (pretty : Bool) : Json.Layout := ⟨.full, pretty⟩

def serialize (v : Value) (name : Option String) (pretty : Bool) : Act String := do
  let plain ← Plain.ofValue v
  let s ← Act.store
  match Format.ofName? (lower (name.getD "")) with
  | some .json => Act.ofExcept (Json.write s (jsonLayout pretty) plain)
  | some .yaml => Act.ofExcept (Yaml.write s plain)
  | none => Act.fail (.unsupportedFormat (quotedName name))
where
  quotedName : Option String → String
    | some name => Text.quote name
    | none => "None"

end PageRuntime.Wire
