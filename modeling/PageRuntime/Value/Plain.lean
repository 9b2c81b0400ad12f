import PageRuntime.Node.Dict
import PageRuntime.Reference
import PageRuntime.Text.Base64
import PageRuntime.Value.Report

/-! The plain form of a value, made of null, scalars, lists and dictionaries with text keys.
References are read through, context views are flattened, blobs become their media type and base64
text, nodes their dictionary form, failures and reports their text; scopes have no plain form and
become null. -/
namespace PageRuntime
namespace Plain

def blobForm (blob : Blob) : Dict :=
  Dict.put (Dict.put [] "mimetype" blob.mediaType)
    "data" (.str (String.ofList (Text.Base64.encode blob.data)))

/-- A list of what a step makes of the items. -/
def itemsBy (step : Value → Act Value) (values : List Value) : Act Value := do
  let values ← values.mapM step
  Act.make (·.newList values)

/-- Keys become texts; of keys with one text the last counts, at the place of the first. -/
def entriesBy (step : Value → Act Value) (d : Dict) : Act Value := do
  let plain ← d.mapM fun slot => do
    let name := (← Act.store).display slot.label
    return (name, ← step slot.value)
  Act.make (·.newDict (plain.foldl (fun d (name, value) => Dict.put d name value) []))

/-- `active` holds the mappings and sequences around the value. -/
def ofValueWithin : Nat → List Value → Value → Act Value
  | 0, _, _ => Act.fail (.misuse .recursion "maximum recursion depth exceeded")
  | fuel + 1, active, v => do
    let s ← Act.store
    let inner := ofValueWithin fuel (v :: active)
    match v with
    | .ref a => do
      let target ← Reference.get a
      ofValueWithin fuel active target
    | .blob a => Act.make (·.newDict (blobForm (s.blobAt a)))
    | .node a => Node.toDict a
    | .report a => return .str (s.reportFormat (s.reportAt a))
    | .failure a => return .str (s.failureLine a)
    | .scope _ => return .null
    | .context a => do
      let flat ← Act.make (·.newDict (s.squashedContext (s.contextAt a)))
      ofValueWithin fuel active flat
    | .dict a =>
      if active.contains v then Act.fail .cyclicPlain else entriesBy inner (s.dictAt a)
    | .frozen a =>
      if active.contains v then Act.fail .cyclicPlain else entriesBy inner (s.frozenAt a)
    | .list a =>
      if active.contains v then Act.fail .cyclicPlain else itemsBy inner (s.listAt a)
    | .tuple a =>
      if active.contains v then Act.fail .cyclicPlain else itemsBy inner (s.tupleAt a)
    | v => return v

/-- How far plain forms go down. On the way no container is met twice, and what else is met twice is
met forever; a reference to bindings or a view of them takes up to three steps. -/
def depth (s : Store) : Nat := 3 * (s.size + 1)

def ofValue (v : Value) : Act Value := do ofValueWithin (depth (← Act.store)) [] v

end Plain
end PageRuntime
