import PageRuntime.Value.Report

/-! Short summaries of values for the log: words for null and truth values, double quotes around
nested texts, and dots below a depth. -/
namespace PageRuntime
namespace Store

def reportLine (s : Store) : Value → Option String
  | .failure a => some (s.failureLine a)
  | .report a => some (s.reportFormat (s.reportAt a))
  | .trail a => some (trailLines (s.trailAt a))
  | _ => none

/-- `levels` counts how many levels may still be written, `nested` whether the value is inside
another. -/
def summaryWithin (s : Store) : Nat → Bool → Value → String
  | 0, _, _ => "..."
  | levels + 1, nested, v =>
    let inner := s.summaryWithin levels true
    let entries (d : Dict) := "\x7b" ++ ", ".intercalate
      (d.map fun slot => inner (.str (s.display slot.label)) ++ ": " ++ inner slot.value) ++ "\x7d"
    match v with
    | .null => "null"
    | .bool true => "true"
    | .bool false => "false"
    | .str text => if nested then "\"" ++ text ++ "\"" else text
    | .blob a =>
      let blob := s.blobAt a
      "<blob " ++ s.display blob.mediaType ++ " " ++ toString blob.data.length ++ " bytes>"
    | .node a =>
      let node := s.nodeAt a
      if node.tag == .str "#text" then "<#text " ++ s.shown node.text ++ ">"
      else "<" ++ s.display node.tag ++ ">"
    | .ref a => "<ref " ++ s.handleName a ++ ">"
    | .scope a => "<scope " ++ s.scopeName a ++ ">"
    | .context _ => "<context>"
    | .dict a => entries (s.dictAt a)
    | .frozen a => entries (s.frozenAt a)
    | .list a => "[" ++ ", ".intercalate ((s.listAt a).map inner) ++ "]"
    | .tuple a => "[" ++ ", ".intercalate ((s.tupleAt a).map inner) ++ "]"
    | v => (s.reportLine v).getD (s.shown v)

def summaryDepth : Nat := 7

def summary (s : Store) (v : Value) : String := s.summaryWithin summaryDepth false v

end Store
end PageRuntime
