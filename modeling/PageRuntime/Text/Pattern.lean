import PageRuntime.Unicode.Case

/-! Search patterns: what they are and how they match. Matching tries alternatives in order and goes
back to earlier choices where a later part fails. -/
namespace PageRuntime.Text
open Unicode

inductive CharClass
  | digit
  | word
  | blank
deriving DecidableEq

def CharClass.holds : CharClass → Char → Bool
  | digit, c => isDigit c
  | word, c => isWord c
  | blank, c => isBlank c

inductive ClassItem
  | range (low high : Char)
  | named (cls : CharClass) (negated : Bool)

def ClassItem.holds : ClassItem → Char → Bool
  | range low high, c => low ≤ c && c ≤ high
  | named cls negated, c => cls.holds c != negated

inductive Pattern
  | empty
  | char (fold : Bool) (c : Char)
  | any (breaks : Bool)
  | set (fold negated : Bool) (items : List ClassItem)
  | seq (first second : Pattern)
  | alt (first second : Pattern)
  | times (body : Pattern) (least : Nat) (most : Option Nat) (greedy : Bool)
  | atomic (body : Pattern)
  | group (number : Nat) (body : Pattern)
  | backref (fold : Bool) (number : Nat)
  | textStart
  | lineStart
  | textEnd
  | lastLineEnd
  | lineEnd
  | wordEdge (negated : Bool)
  | ahead (negated : Bool) (body : Pattern)
  | behind (negated : Bool) (width : Nat) (body : Pattern)

/-- A place in the searched text, and what the groups have matched. -/
structure Spot where
  before : List Char
  rest : List Char
  groups : List (Nat × List Char)

namespace Spot

def step (spot : Spot) (c : Char) (rest : List Char) : Spot :=
  { spot with before := c :: spot.before, rest }

/-- Whether a word character stands on exactly one side. -/
def atWordEdge (spot : Spot) : Bool := spot.before.head?.any isWord != spot.rest.head?.any isWord

/-- Goes back over characters already passed. -/
def back? (spot : Spot) : Nat → Option Spot
  | 0 => some spot
  | n + 1 =>
    match spot.before with
    | [] => none
    | c :: before => back? { spot with before, rest := c :: spot.rest } n

end Spot

/-- The forms of a character that count as equal to it when case is ignored. -/
def caseForms (c : Char) : List Char := c :: (lowerChar c ++ upperChar c)

def sameChar (fold : Bool) (a b : Char) : Bool := a == b || (fold && lowerChar a == lowerChar b)

def sameText (fold : Bool) : List Char → List Char → Option (List Char)
  | [], rest => some rest
  | a :: text, b :: rest => if sameChar fold a b then sameText fold text rest else none
  | _ :: _, [] => none

namespace Pattern

/-- How much fuel the pattern itself may use up, apart from passing over text. -/
def weight : Pattern → Nat
  | seq first second | alt first second => first.weight + second.weight + 1
  | times body least _ _ => body.weight + least + 2
  | atomic body | group _ body | ahead _ body | behind _ _ body => body.weight + 1
  | _ => 1

def holdsAny (fold : Bool) (items : List ClassItem) (c : Char) : Bool :=
  items.any fun item => item.holds c || (fold && (caseForms c).any item.holds)

/-- Matches at a spot and goes on with `next`; a failure of `next` is a failure of this choice
only. -/
def run : Nat → Pattern → Spot → (Spot → Option Spot) → Option Spot
  | 0, _, _, _ => none
  | fuel + 1, pattern, spot, next =>
    let require (condition : Bool) : Option Spot := if condition then next spot else none
    match pattern with
    | empty => next spot
    | char fold c =>
      match spot.rest with
      | x :: rest => if sameChar fold c x then next (spot.step x rest) else none
      | [] => none
    | any breaks =>
      match spot.rest with
      | x :: rest => if breaks || x != '\n' then next (spot.step x rest) else none
      | [] => none
    | set fold negated items =>
      match spot.rest with
      | x :: rest => if holdsAny fold items x != negated then next (spot.step x rest) else none
      | [] => none
    | seq first second => run fuel first spot fun spot => run fuel second spot next
    | alt first second => (run fuel first spot next).or (run fuel second spot next)
    | times body least most greedy =>
      let more (_ : Unit) : Option Spot :=
        run fuel body spot fun after =>
          if least == 0 && after.rest.length == spot.rest.length then none
          else run fuel (times body (least - 1) (most.map (· - 1)) greedy) after next
      if 0 < least then more ()
      else if most == some 0 then next spot
      else if greedy then (more ()).or (next spot)
      else (next spot).or (more ())
    | atomic body => (run fuel body spot some).bind next
    | group number body =>
      run fuel body spot fun after =>
        let matched := spot.rest.take (spot.rest.length - after.rest.length)
        next { after with groups := (number, matched) :: after.groups }
    | backref fold number =>
      match spot.groups.lookup number with
      | none => none
      | some text =>
        match sameText fold text spot.rest with
        | none => none
        | some rest =>
          next { spot with
            before := (spot.rest.take text.length).reverse ++ spot.before, rest }
    | textStart => require spot.before.isEmpty
    | lineStart => require (spot.before.isEmpty || spot.before.head? == some '\n')
    | textEnd => require spot.rest.isEmpty
    | lastLineEnd => require (spot.rest.isEmpty || spot.rest == ['\n'])
    | lineEnd => require (spot.rest.isEmpty || spot.rest.head? == some '\n')
    | wordEdge negated =>
      require (!(spot.before.isEmpty && spot.rest.isEmpty) && spot.atWordEdge != negated)
    | ahead negated body => require ((run fuel body spot some).isSome != negated)
    | behind negated width body =>
      require ((((spot.back? width).bind fun back => run fuel body back fun after =>
        if after.rest.length == spot.rest.length then some after else none)).isSome != negated)

def matchesAt (pattern : Pattern) (fuel : Nat) (spot : Spot) : Bool :=
  (pattern.run fuel spot some).isSome

/-- Whether the pattern matches somewhere in what remains. -/
def searchFrom (pattern : Pattern) (fuel : Nat) (before : List Char) : List Char → Bool
  | [] => pattern.matchesAt fuel ⟨before, [], []⟩
  | c :: rest =>
    pattern.matchesAt fuel ⟨before, c :: rest, []⟩ || searchFrom pattern fuel (c :: before) rest

def search (pattern : Pattern) (text : String) : Bool :=
  let characters := text.toList
  pattern.searchFrom (pattern.weight + 2 * (characters.length + 2)) [] characters

/-- The number of characters that every match has, if there is one. -/
def width? : Pattern → Option Nat
  | char _ _ | any _ | set _ _ _ => some 1
  | seq first second => do some ((← first.width?) + (← second.width?))
  | alt first second => do
    let a ← first.width?
    let b ← second.width?
    if a == b then some a else none
  | times body least most _ => do
    let width ← body.width?
    if most == some least then some (width * least) else none
  | atomic body | group _ body => body.width?
  | backref _ _ => none
  | _ => some 0

end Pattern

end PageRuntime.Text
