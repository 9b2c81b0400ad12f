import PageRuntime.Yaml.Tag

/-! The node graph of a structured text: scalars, sequences and mappings by number, where an alias
is the number of the node it stands for. A graph comes from tokens by recursive descent. -/
namespace PageRuntime.Yaml

inductive DocNode
  | scalar (tag : Tag) (text : String)
  | sequence (tag : Tag) (items : List Nat)
  | mapping (tag : Tag) (pairs : List (Nat × Nat))

/-- The nodes met so far, the tokens left, the anchors, and what tag handles stand for. -/
structure Builder where
  tokens : List Token
  nodes : Array DocNode
  anchors : List (String × Nat)
  handles : List (String × String)

abbrev Build := StateT Builder Option

namespace Build

def head : Build (Option Token) := do return (← get).tokens.head?

def skip : Build Unit := modify fun b => { b with tokens := b.tokens.drop 1 }

def isAt (options : List Token) : Build Bool := do
  match ← head with
  | some token => return options.contains token
  | none => return false

def expect (token : Token) : Build Unit := do
  if ← isAt [token] then skip else failure

def add (node : DocNode) : Build Nat := do
  let b ← get
  set { b with nodes := b.nodes.push node }
  return b.nodes.size

def fill (number : Nat) (node : DocNode) : Build Unit :=
  modify fun b => { b with nodes := b.nodes.setIfInBounds number node }

def emptyScalar : Build Nat := add (.scalar .null "")

/-- A new node under its anchor, if it has one; anchors are not given twice. -/
def addAnchored (anchor : Option String) (node : DocNode) : Build Nat := do
  let number ← add node
  match anchor with
  | none => return number
  | some name =>
    if (← get).anchors.any (·.1 == name) then failure
    else
      modify fun b => { b with anchors := (name, number) :: b.anchors }
      return number

def anchor? : Build (Option String) := do
  match ← head with
  | some (.anchor name) =>
    skip
    return some name
  | _ => return none

/-- A tag in full; a handle must be known. -/
def tag? : Build (Option String) := do
  match ← head with
  | some (.tag handle suffix) =>
    skip
    match handle with
    | none => return some suffix
    | some handle =>
      match (← get).handles.lookup handle with
      | some expansion => return some (expansion ++ suffix)
      | none => failure
  | _ => return none

/-- Anchor and tag in either order. -/
def properties : Build (Option String × Option String) := do
  match ← anchor? with
  | some anchor => return (some anchor, ← tag?)
  | none =>
    let tag ← tag?
    return (← anchor?, tag)

end Build

/-- The tag of a collection: one that is absent or bare is the default. -/
def collectionTag (usual : Tag) : Option String → Tag
  | none => usual
  | some tag => if tag == "!" then usual else Tag.ofName tag

def scalarTag (plain : Bool) (text : String) : Option String → Tag
  | none => if plain then resolve text.toList else .text
  | some tag => if tag == "!" then resolve text.toList else Tag.ofName tag

open Build

mutual

/-- A node in a block or in a flow collection. `dashed` allows a sequence that is indented no
further than the key before it. -/
def node (block dashed : Bool) : Nat → Build Nat
  | 0 => failure
  | fuel + 1 => do
    match ← head with
    | some (.alias name) =>
      skip
      match (← get).anchors.lookup name with
      | some number => return number
      | none => failure
    | _ =>
      let (anchor, tag) ← properties
      let sequence (items : Build (List Nat)) : Build Nat := do
        let number ← addAnchored anchor (.sequence .sequence [])
        fill number (.sequence (collectionTag .sequence tag) (← items))
        return number
      let mapping (pairs : Build (List (Nat × Nat))) : Build Nat := do
        let number ← addAnchored anchor (.mapping .mapping [])
        fill number (.mapping (collectionTag .mapping tag) (← pairs))
        return number
      match ← head with
      | some (.scalar text plain) =>
        skip
        addAnchored anchor (.scalar (scalarTag plain text tag) text)
      | some .openSequence =>
        skip
        sequence (flowItems true fuel)
      | some .openMapping =>
        skip
        mapping (flowPairs true fuel)
      | found =>
        if dashed && found == some .entry then sequence (dashedItems fuel)
        else if block && found == some .sequenceStart then do
          skip
          sequence (blockItems fuel)
        else if block && found == some .mappingStart then do
          skip
          mapping (blockPairs fuel)
        else if anchor.isSome || tag.isSome then
          addAnchored anchor (.scalar (scalarTag true "" tag) "")
        else failure

def blockItems : Nat → Build (List Nat)
  | 0 => failure
  | fuel + 1 => do
    if ← isAt [.entry] then
      skip
      let item ← if ← isAt [.entry, .blockEnd] then emptyScalar else node true false fuel
      return item :: (← blockItems fuel)
    else
      expect .blockEnd
      return []

def dashedItems : Nat → Build (List Nat)
  | 0 => failure
  | fuel + 1 => do
    if ← isAt [.entry] then
      skip
      let item ← if ← isAt [.entry, .key, .value, .blockEnd] then emptyScalar
        else node true false fuel
      return item :: (← dashedItems fuel)
    else return []

def blockPairs : Nat → Build (List (Nat × Nat))
  | 0 => failure
  | fuel + 1 => do
    if ← isAt [.key] then
      skip
      let part : Build Nat := do
        if ← isAt [.key, .value, .blockEnd] then emptyScalar else node true true fuel
      let key ← part
      let value ← if ← isAt [.value] then do
          skip
          part
        else emptyScalar
      return (key, value) :: (← blockPairs fuel)
    else
      expect .blockEnd
      return []

/-- Items of a flow sequence. A key mark opens a mapping of one pair. -/
def flowItems (first : Bool) : Nat → Build (List Nat)
  | 0 => failure
  | fuel + 1 => do
    if ← isAt [.closeSequence] then
      skip
      return []
    else
      if !first then expect .separator
      if ← isAt [.key] then
        skip
        let pair ← add (.mapping .mapping [])
        let key ← if ← isAt [.value, .separator, .closeSequence] then emptyScalar
          else node false false fuel
        let value ← if ← isAt [.value] then do
            skip
            if ← isAt [.separator, .closeSequence] then emptyScalar else node false false fuel
          else emptyScalar
        fill pair (.mapping .mapping [(key, value)])
        return pair :: (← flowItems false fuel)
      else if ← isAt [.closeSequence] then
        skip
        return []
      else
        let item ← node false false fuel
        return item :: (← flowItems false fuel)

def flowPairs (first : Bool) : Nat → Build (List (Nat × Nat))
  | 0 => failure
  | fuel + 1 => do
    if ← isAt [.closeMapping] then
      skip
      return []
    else
      if !first then expect .separator
      if ← isAt [.key] then
        skip
        let key ← if ← isAt [.value, .separator, .closeMapping] then emptyScalar
          else node false false fuel
        let value ← if ← isAt [.value] then do
            skip
            if ← isAt [.separator, .closeMapping] then emptyScalar else node false false fuel
          else emptyScalar
        return (key, value) :: (← flowPairs false fuel)
      else if ← isAt [.closeMapping] then
        skip
        return []
      else
        let key ← node false false fuel
        let value ← emptyScalar
        return (key, value) :: (← flowPairs false fuel)

end

/-- Directives before a document. A version must be one of the first major version and stand once;
a tag handle is declared once. -/
def directives (versioned : Bool) (declared : List (String × String)) : Nat → Build Unit
  | 0 => failure
  | fuel + 1 => do
    match ← head with
    | some (.version major) =>
      if versioned || major != 1 then failure
      else
        skip
        directives true declared fuel
    | some (.tagHandle handle expansion) =>
      if declared.any (·.1 == handle) then failure
      else
        skip
        directives versioned ((handle, expansion) :: declared) fuel
    | some .directive =>
      skip
      directives versioned declared fuel
    | _ => modify fun b => { b with handles := declared ++ b.handles }

def isDirective : Option Token → Bool
  | some (.version _) | some (.tagHandle _ _) | some .directive => true
  | _ => false

/-- The only document of a text, or none if the text is empty. -/
def document (fuel : Nat) : Build (Option Nat) := do
  let first ← head
  if first.isNone then return none
  else
    let root ← if isDirective first || first == some .documentStart then do
        directives false [] fuel
        expect .documentStart
        let next ← head
        if next.isNone || isDirective next || next == some .documentStart ||
            next == some .documentEnd
          then emptyScalar else node true false fuel
      else node true false fuel
    modify fun b => { b with tokens := b.tokens.dropWhile (· == .documentEnd) }
    if (← get).tokens.isEmpty then return some root else failure

structure Graph where
  nodes : Array DocNode
  root : Option Nat

def defaultHandles : List (String × String) := [("!", "!"), ("!!", Tag.standard)]

def graph? (text : String) : Option Graph := do
  let tokens ← tokens? text
  let (root, built) ← (document (3 * tokens.length + 10)).run ⟨tokens, #[], [], defaultHandles⟩
  some ⟨built.nodes, root⟩

end PageRuntime.Yaml
