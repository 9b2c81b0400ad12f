import PageRuntime.Value.Numeral
import PageRuntime.Wire.Format

/-! Settings read from mappings, documents and files. Names may be written with underscores, dashes
or inner capitals; unknown names are passed over, and of two spellings of one name the later
counts. -/
namespace PageRuntime
namespace Settings
open Unicode

/-- An underscore before each capital but the first character. -/
def splitCapitals : List Char → List Char
  | [] => []
  | [c] => [c]
  | a :: b :: rest =>
    if 'A' ≤ b && b ≤ 'Z' then a :: '_' :: splitCapitals (b :: rest)
    else a :: splitCapitals (b :: rest)

def normalName (name : String) : String :=
  lower (String.ofList ((splitCapitals name.toList).map fun c => if c == '-' then '_' else c))

/-- The last value given for a field, under any spelling of its name. -/
def given? (s : Store) (d : Dict) (name : String) : Option Value :=
  (d.reverse.find? fun slot => normalName (s.display slot.label) == name).map (·.value)

def severityNamed? (name : String) : Option Severity :=
  if name == "log" then some .log else if name == "raise" then some .raise else none

/-- Severities as they are written, by the text of the action kind. -/
def writtenSeverities (s : Store) (v : Value) : Except Fault (Named String) :=
  if !s.isTrue v then .ok []
  else
    match s.mapping? v with
    | some d =>
      .ok (Named.ofList (d.map fun slot => (s.display slot.label, lower (s.display slot.value))))
    | none => .error (.misuse .member ("'" ++ s.typeName v ++ "' object has no attribute 'items'"))

def readSeverities : Named String → Except Fault (Named Severity)
  | [] => .ok []
  | (kind, text) :: rest =>
    match severityNamed? text with
    | some severity => do .ok ((kind, severity) :: (← readSeverities rest))
    | none => .error (.severity (Text.quote text) (Text.quote kind))

def ofDict (s : Store) (d : Dict) : Except Fault Settings := do
  let field (name : String) (fallback : Value) : Value := (given? s d name).getD fallback
  let fetchTimeout ← s.floatOf (field "fetch_timeout" (.float default.fetchTimeout))
  let fetchRetries ← s.intOf (field "fetch_retries" (.int default.fetchRetries))
  let fetchBackoff ← s.floatOf (field "fetch_backoff" (.float default.fetchBackoff))
  let severities ← readSeverities (← writtenSeverities s (field "action_severity" .null))
  .ok {
    hideUsageImage := field "no_usage_img" default.hideUsageImage
    hideWelcome := field "no_welcome_message" default.hideWelcome
    fetchTimeout
    fetchRetries
    fetchBackoff
    severities
    debug := field "debug" default.debug
    clientId := field "fe_client_id" default.clientId }

/-- Settings from what a document holds; an empty document holds the default ones. -/
def ofDocument (v : Value) : Act Settings := do
  let s ← Act.store
  match v, s.mapping? v with
  | .null, _ => return default
  | _, some d => Act.ofExcept (ofDict s d)
  | v, none => Act.fail (.settingsNotMapping (s.typeName v))

/-- A text is read as YAML unless it begins like JSON. -/
def ofText (text : String) : Act Settings := do
  ofDocument (← Wire.readText ((Wire.detectFormat none (some text)).getD .yaml) text)

/-- A file is read as its name's ending says, as YAML unless that is `.json`. -/
def ofFile (name : String) (data : List UInt8) : Act Settings := do
  let format := if (lower name).endsWith ".json" then Wire.Format.json else .yaml
  ofDocument (← Wire.readText format (Wire.decodeText data none))

def ofValue (v : Value) : Act Settings := do
  let s ← Act.store
  match v with
  | .null => return default
  | .str text => ofText text
  | v =>
    match s.mapping? v with
    | some d => Act.ofExcept (ofDict s d)
    | none => Act.fail (.settingsSource (s.typeName v))

/-- Settings as a mapping from which they can be read again. -/
def entries (settings : Settings) (severities : Value) : Dict :=
  [("no_usage_img", settings.hideUsageImage), ("no_welcome_message", settings.hideWelcome),
    ("fetch_timeout", .float settings.fetchTimeout), ("fetch_retries", .int settings.fetchRetries),
    ("fetch_backoff", .float settings.fetchBackoff), ("action_severity", severities),
    ("debug", settings.debug), ("fe_client_id", settings.clientId)].foldl
    (fun d (name, v) => Dict.put d name v) []

def severityEntries (settings : Settings) : Dict :=
  settings.severities.foldl (fun d (kind, severity) => Dict.put d kind (.str severity.name)) []

def toDict (settings : Settings) : Act Value := do
  let severities ← Act.make (·.newDict settings.severityEntries)
  Act.make (·.newDict (settings.entries severities))

end Settings
end PageRuntime
