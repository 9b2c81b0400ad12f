import PageRuntime.Store

/-! Iteration over values, and dictionaries built from mappings or from pairs. -/
namespace PageRuntime
namespace Store

/-- What iterating over a value yields: the items of a container, the keys of a mapping, the
characters of a text, the numbers of bytes. -/
def itemsOf (s : Store) : Value → Except Fault (List Value)
  | .list a => .ok (s.listAt a)
  | .tuple a => .ok (s.tupleAt a)
  | .fset a => .ok (s.fsetAt a)
  | .dict a => .ok (Dict.labels (s.dictAt a))
  | .frozen a => .ok (Dict.labels (s.frozenAt a))
  | .str text => .ok (text.toList.map fun c => .str (String.singleton c))
  | .bytes data => .ok (data.map fun byte => .int byte.toNat)
  | v => .error (.misuse .type ("'" ++ s.typeName v ++ "' object is not iterable"))

def keyOf (s : Store) (v : Value) : Except Fault Key :=
  match s.key? v with
  | some key => .ok key
  | none => .error (.misuse .type ("unhashable type: '" ++ s.typeName v ++ "'"))

/-- Each item must be a pair of a key and a value; a later pair with the same key wins. -/
def dictOfPairs (s : Store) : Dict → List Value → Except Fault Dict
  | d, [] => .ok d
  | d, item :: rest => do
    match ← s.itemsOf item with
    | [label, value] =>
      let key ← s.keyOf label
      s.dictOfPairs (d.insert key label value) rest
    | _ => .error (.misuse .value "dictionary update sequence elements have length 2")

/-- A dictionary with the entries of a mapping or with the pairs that a value yields. -/
def dictOf (s : Store) (v : Value) : Except Fault Dict :=
  match s.mapping? v with
  | some d => .ok d
  | none => do s.dictOfPairs [] (← s.itemsOf v)

/-- As `dictOf`, where emptiness and null stand for no entries. -/
def dictOrEmpty (s : Store) (v : Value) : Except Fault Dict :=
  if s.isTrue v then s.dictOf v else .ok []

end Store
end PageRuntime
