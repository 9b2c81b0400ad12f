import PageRuntime.Http
import PageRuntime.Text.Url
import PageRuntime.Wire.Format

/-! The module that services `/@fetch:METHOD` calls with the arguments URL, parameters and outgoing
record. Arguments are checked when the call is made; the request goes out when its answer is
awaited. -/
namespace PageRuntime
namespace Fetch
open Unicode

variable {η : Type}

def methods : List String := ["GET", "POST", "PUT", "PATCH", "DELETE", "HEAD", "OPTIONS"]

/-- Methods whose parameters go into the query instead of a JSON body. -/
def queryMethods : List String := ["GET", "DELETE", "HEAD", "OPTIONS"]

def clientHeader : String := "X-Hibiki-FeClientId"

/-- A checked call. `init` is the outgoing record, a dictionary that is read when the request goes
out. -/
structure Plan where
  url : String
  method : String
  query : Dict
  body : Value
  init : Value

def checkMethod (fragment : Option String) : Except Fault String :=
  match fragment with
  | none => .error (.invalidMethod "None")
  | some written =>
    let method := upper written
    if methods.contains method then .ok method else .error (.invalidMethod (Text.quote written))

/-- An absolute web URL, as text. -/
def checkUrl (v : Value) : Act String := do
  let s ← Act.store
  let refuse (reason : String) (cause : Option Address) : Act String :=
    Act.failWith ⟨.invalidUrl (s.shown v) reason, cause, none⟩
  match v with
  | .str text =>
    if text.isEmpty then refuse "first argument must be the URL to fetch" none
    else
      match Text.Url.read? text with
      | none => do
        let cause ← Act.make (·.newFailure ⟨.format .url, none, none⟩)
        refuse (Fault.format .url).message (some cause)
      | some url =>
        if url.isAbsoluteWeb then return text
        else refuse "an absolute http(s) URL is required" none
  | _ => refuse "first argument must be the URL to fetch" none

/-- The text of one query parameter; nulls and functions have none. -/
def queryText? (v : Value) : Act (Option String) := do
  match v with
  | .null | .callable _ => return none
  | .str text => return some text
  | .int _ | .float _ => return some ((← Act.store).display v)
  | v => do
    let plain ← Plain.ofValue v
    return some (← Act.ofExcept (Json.write (← Act.store) ⟨.plain, false⟩ plain))

def queryOf : Dict → Dict → Act Dict
  | query, [] => return query
  | query, slot :: rest => do
    match ← queryText? slot.value with
    | some text => do
      let name := (← Act.store).display slot.label
      queryOf (query.put name (.str text)) rest
    | none => queryOf query rest

/-- Parameters and outgoing record are mappings if they are given at all. -/
def optionalMapping (s : Store) (url : String) (v : Value) : Except Fault (Option Dict) :=
  match v, s.mapping? v with
  | .null, _ => .ok none
  | _, some d => .ok (some d)
  | v, none => .error (.fetchParams url (s.typeName v))

/-- The header fields of an outgoing record, as they are now. -/
def headersOf (s : Store) (init : Value) : Value := Dict.field (s.entries init) "headers"

def putEntries (target : Value) (change : Dict → Dict) : Act Unit :=
  match target with
  | .dict a => Act.update fun s => s.putDict a (change (s.dictAt a))
  | _ => return ()

/-- Adds the client's header and what the host adds. -/
def adjust (host : Host η) (url : String) (init : Value) : Run η Unit := do
  let r := (← Step.read).runtime
  let headers := headersOf r.store init
  if r.store.isTrue r.clientId then
    putEntries headers (·.put clientHeader r.clientId)
  let extra ← host.csrfHeaders
  let added ← Act.ofExcept ((← Step.read).runtime.store.dictOrEmpty extra)
  putEntries headers (Dict.update · added)
  host.adjust url init

def plan (host : Host η) (request : Request) : Run η Plan := do
  let method ← Act.ofExcept (checkMethod request.path.fragment)
  let s := (← Step.read).runtime.store
  let arguments := (s.sequence? request.data).getD []
  let url ← checkUrl (arguments[0]?.getD .null)
  let params ← Act.ofExcept (optionalMapping s url (arguments[1]?.getD .null))
  let given ← Act.ofExcept (optionalMapping s url (arguments[2]?.getD .null))
  let init := given.getD []
  let fields ← Act.ofExcept (s.dictOrEmpty (init.field "headers"))
  let asQuery := queryMethods.contains method
  let fields := if params.isSome && !asQuery then
    fields.put "Content-Type" (.str "application/json") else fields
  let query ← if asQuery then queryOf [] (params.getD []) else pure []
  let body ←
    if params.isSome && !asQuery then
      let text ← Wire.serialize (arguments[1]?.getD .null) (some "json") false
      pure (Value.str text)
    else pure .null
  let headers ← Act.make (·.newDict fields)
  let init ← Act.make (·.newDict ((init.put "headers" headers).put "method" (.str method)))
  adjust host url init
  return ⟨url, method, query, body, init⟩

/-- What a response means: nothing, JSON, or a blob of its content type. -/
def answer (url : String) (response : HttpResponse) : Act Value := do
  if response.status < 200 || 300 ≤ response.status then
    Act.fail (.badStatus url (String.ofList (intChars response.status)))
  else if response.content.isEmpty then return .null
  else
    match Http.contentType (← Act.store) response.headers with
    | none => Act.fail (.general ("Invalid BLOB returned from '" ++ url ++ "', bad mimetype"))
    | some contentType =>
      if Wire.isJson (some contentType) then
        Wire.deserialize (.bytes response.content) (some contentType) (some "json")
      else Act.make (·.newBlob ⟨.str contentType, response.content⟩)

def perform (host : Host η) (plan : Plan) : Run η Value := do
  let r := (← Step.read).runtime
  let settings := r.settings
  let init := r.store.entries plan.init
  let timeout ← Act.ofExcept
    (r.store.floatOf ((init.field? "timeout").getD (.float settings.fetchTimeout)))
  let headers ← Act.ofExcept (r.store.dictOf (init.field "headers"))
  let response ← Http.request host plan.method plan.url
    ⟨timeout, settings.fetchRetries, settings.fetchBackoff, headers, plan.query⟩ plan.body
  match response with
  | some response => answer plan.url response
  | none => Act.fail (α := Value) (.misuse .type "cannot unpack non-iterable NoneType object")

end Fetch
end PageRuntime
