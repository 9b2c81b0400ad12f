import PageRuntime.Host
import PageRuntime.Node.Text
import PageRuntime.Node.Dict

/-! The document of a page: how a payload becomes one, and the pages, components and local handlers
that its top level declares. -/
namespace PageRuntime
namespace Document

variable {η : Type}

/-- A node is a document, a mapping is the plain form of one, and a text is markup. -/
def ofPayload (host : Host η) (payload : Value) : Run η Address := do
  match payload with
  | .node a => return a
  | .str text =>
    match host.parseMarkup with
    | some parse => parse text
    | none => Act.fail (α := Address) .noParser
  | payload =>
    if payload.isMapping then Node.ofValue payload
    else
      let s := (← Step.read).runtime.store
      Act.fail (α := Address) (.badDocument (s.typeName payload))

def put (document : Option Address) : Act Unit := Step.modify fun r => { r with document }

def replace (host : Host η) (payload : Value) : Run η Unit := do
  let document ← ofPayload host payload
  put (some document)

def setPage (page : Value) : Act Unit := Step.modify fun r => { r with page }

def children (s : Store) (document : Address) : List Address := (s.nodeAt document).children

/-- The name of a page; an older spelling is `appname`. -/
def pageName (node : Node) : Value :=
  (node.attrs.field? "name").getD ((node.attrs.field? "appname").getD (.str "default"))

/-- The page of a name, else the page for all names, else the whole document if it declares no
pages. -/
def findPage? (s : Store) (document : Address) (name : Value) : Option Address :=
  let pages := (children s document).filter fun child => (s.nodeAt child).tag == .str "page"
  let named (name : Value) := pages.find? fun page => pageName (s.nodeAt page) == name
  (named name).or ((named (.str "*")).or (if pages.isEmpty then some document else none))

/-- No name, or an empty one, asks for the default page. -/
def page? (name : Value) : Act (Option Address) := do
  let r ← Step.read
  let name := if r.store.isTrue name then name else .str "default"
  return r.document.bind (findPage? r.store · name)

def currentPage? : Act (Option Address) := do page? (← Step.read).page

def declared? (tag : String) (name : Value) : Act (Option Address) := do
  let r ← Step.read
  return r.document.bind fun document =>
    (children r.store document).find? fun child =>
      let node := r.store.nodeAt child
      node.tag == .str tag && Dict.field node.attrs "name" == name

def component? (name : Value) : Act (Option Address) := declared? "define-component" name

def localHandler? (name : Value) : Act (Option Address) := declared? "define-handler" name

end Document
end PageRuntime
