import PageRuntime.Host
import PageRuntime.Text.Charset
import PageRuntime.Unicode.Case
import PageRuntime.Value.Items
import PageRuntime.Value.Numeral
import PageRuntime.Value.Shown

/-! Requests over HTTP. A failed transport is tried again after a pause that doubles each time; what
the server answers is taken as it is, whatever its status. -/
namespace PageRuntime
namespace Http
open Unicode

variable {η : Type}

/-- How a request is made. -/
structure Options where
  timeout : Number.Binary64
  retries : Int
  backoff : Number.Binary64
  headers : Dict
  query : Dict

namespace Options

def ofDict (s : Store) (d : Dict) : Except Fault Options := do
  let number (name : String) (fallback : Number.Binary64) : Except Fault Number.Binary64 :=
    match d.field? name with
    | some v => s.floatOf v
    | none => .ok fallback
  let fields (name : String) : Except Fault Dict :=
    match d.field? name with
    | some v => s.dictOf v
    | none => .ok []
  let timeout ← number "timeout" Settings.default.fetchTimeout
  let retries ← match d.field? "retries" with
    | some v => s.intOf v
    | none => .ok 0
  let backoff ← number "backoff" Settings.default.fetchBackoff
  let headers ← fields "headers"
  let query ← fields "params"
  .ok ⟨timeout, retries, backoff, headers, query⟩

end Options

/-- Text is sent as UTF-8. -/
def contentOf : Value → Value
  | .str text => .bytes (Text.utf8Bytes text)
  | v => v

/-- Requests with content say what it is, as text unless a field says otherwise. -/
def headersFor (content : Value) (headers : Dict) : Dict :=
  if content == .null || headers.has (.text "Content-Type") then headers
  else headers.put "Content-Type" (.str "text/plain; charset=utf-8")

def lowerHeaders (s : Store) (headers : Dict) : Dict :=
  headers.foldl (fun d slot => d.put (lower (s.display slot.label)) slot.value) []

/-- The pause after so many failed attempts and one more. The factor is a number of its own, so it
must not be beyond the largest one. -/
def pauseAfter (backoff : Number.Binary64) (done : Nat) : Except Fault Number.Binary64 :=
  if done < 1024 then .ok (backoff.doubled done)
  else .error (.misuse .overflow "int too large to convert to float")

/-- Up to `remaining` attempts; the last failure is raised as it is. -/
def attempts (host : Host η) (request : HttpRequest) (backoff : Number.Binary64) :
    Nat → Nat → Run η (Option HttpResponse)
  | 0, _ => return none
  | remaining + 1, done => do
    match ← Step.attempt (host.send request) with
    | .ok response => return some response
    | .error failure =>
      if remaining == 0 then Step.raise failure
      else
        host.pause (← Act.ofExcept (pauseAfter backoff done))
        attempts host request backoff remaining (done + 1)

/-- Nothing is sent, and nothing comes back, if less than no retry is asked for. -/
def request (host : Host η) (method url : String) (options : Options) (data : Value) :
    Run η (Option HttpResponse) := do
  let content := contentOf data
  let response ← attempts host
    ⟨upper method, url, headersFor content options.headers, options.query, content,
      options.timeout, true⟩
    options.backoff (options.retries + 1).toNat 0
  let s := (← Step.read).runtime.store
  return response.map fun response => { response with headers := lowerHeaders s response.headers }

/-- The content type among header fields in small letters, unless it is blank. -/
def contentType (s : Store) (headers : Dict) : Option String :=
  match headers.field "content-type" with
  | .null => none
  | v =>
    match trimBlank (s.display v).toList with
    | [] => none
    | text => some (String.ofList text)

end Http
end PageRuntime
