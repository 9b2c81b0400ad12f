import PageRuntime.Number.Shortest
import PageRuntime.Store

/-! The text of a value in messages. `shown` quotes texts and brackets containers, and writes dots
where a container holds itself; `display` gives texts and failures as they read. -/
namespace PageRuntime
namespace Store

/-- The name of a handle: its path, and what was done to it since. -/
def handleNameWithin (s : Store) : Nat → Address → String
  | 0, _ => ""
  | fuel + 1, a =>
    match s.handleAt a with
    | .path _ path _ => path.text
    | .sub parent (.index place) =>
      s.handleNameWithin fuel parent ++ "[" ++ String.ofList (intChars place) ++ "]"
    | .sub parent (.field name) => s.handleNameWithin fuel parent ++ "." ++ name
    | .locked inner => "readonly(" ++ s.handleNameWithin fuel inner ++ ")"
    | .cell _ label => "<" ++ label ++ ">"

def handleName (s : Store) (a : Address) : String := s.handleNameWithin s.handles.size a

def scopeName (s : Store) (a : Address) : String :=
  match (s.scopeAt a).description with
  | some text => if text.isEmpty then "anonymous" else text
  | none => "anonymous"

def trailText (frames : List String) : String :=
  "<RuntimeContext frames=[" ++ ", ".intercalate (frames.map Text.quote) ++ "]>"

def intText (i : Int) : String := String.ofList (intChars i)

def failureText (s : Store) (a : Address) : String :=
  let fault := (s.failureAt a).fault
  fault.className ++ "(" ++ Text.quote fault.argument ++ ")"

def quotedOption : Option String → String
  | some text => Text.quote text
  | none => "None"

def reportText (s : Store) (report : Report) : String :=
  "ErrorReport(message=" ++ Text.quote report.message ++
    ", err=" ++ (report.failure.map s.failureText).getD "None" ++
    ", rtctx=" ++ (report.trail.map fun a => trailText (s.trailAt a)).getD "None" ++
    ", handler_path=" ++ quotedOption report.handlerPath ++
    ", block_str=" ++ quotedOption report.block ++ ")"

/-- `active` holds the containers that are being written around the value. -/
def shownWithin (s : Store) : Nat → List Value → Value → String
  | 0, _, _ => "..."
  | fuel + 1, active, v =>
    let inner := s.shownWithin fuel (v :: active)
    let entries (d : Dict) := "\x7b" ++
      ", ".intercalate (d.map fun slot => inner slot.label ++ ": " ++ inner slot.value) ++ "\x7d"
    match v with
    | .null => "None"
    | .bool true => "True"
    | .bool false => "False"
    | .int i => intText i
    | .float x => x.text
    | .str text => Text.quote text
    | .bytes data => Text.quoteBytes data
    | .list a =>
      if active.contains v then "[...]"
      else "[" ++ ", ".intercalate ((s.listAt a).map inner) ++ "]"
    | .tuple a =>
      if active.contains v then "(...)"
      else
        match s.tupleAt a with
        | [item] => "(" ++ inner item ++ ",)"
        | items => "(" ++ ", ".intercalate (items.map inner) ++ ")"
    | .dict a => if active.contains v then "\x7b...\x7d" else entries (s.dictAt a)
    | .frozen a =>
      let shown := if active.contains v then "\x7b...\x7d" else entries (s.frozenAt a)
      "mappingproxy(" ++ shown ++ ")"
    | .fset a =>
      match s.fsetAt a with
      | [] => "frozenset()"
      | items => "frozenset(\x7b" ++ ", ".intercalate (items.map inner) ++ "\x7d)"
    | .blob a =>
      let blob := s.blobAt a
      let mediaType := match blob.mediaType with
        | .str text => text
        | other => inner other
      "<Blob " ++ mediaType ++ " " ++ toString blob.data.length ++ " bytes>"
    | .node a =>
      let node := s.nodeAt a
      if node.tag == .str "#text" then "Node<#text " ++ inner node.text ++ ">"
      else
        let tag := match node.tag with
          | .str text => text
          | other => inner other
        "Node<" ++ tag ++ " attrs=[" ++
          ", ".intercalate (node.attrs.map fun slot => inner slot.label) ++
          "] children=" ++ toString node.children.length ++ ">"
    | .ref a => "LValue<" ++ s.handleName a ++ ">"
    | .scope a => "<DataEnvironment " ++ s.scopeName a ++ ">"
    | .context a => "<ContextProxy " ++ s.scopeName (s.contextAt a) ++ ">"
    | .failure a => s.failureText a
    | .report a => s.reportText (s.reportAt a)
    | .trail a => trailText (s.trailAt a)
    | .callable _ => "<function>"

/-- Chains of nested containers are no longer than the store is large. -/
def shown (s : Store) (v : Value) : String := s.shownWithin (s.size + 2) [] v

def display (s : Store) : Value → String
  | .str text => text
  | .failure a => (s.failureAt a).fault.message
  | v => s.shown v

end Store
end PageRuntime
