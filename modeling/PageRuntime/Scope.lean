import PageRuntime.Runtime
import PageRuntime.Value.Shown

/-! Scopes: the chain from a scope to its root, the context bindings visible along it, the local
data along it, and what the roots of paths stand for seen from a scope. -/
namespace PageRuntime

namespace Store

/-- The scope and its ancestors, nearest first. Parents are older than their children, so the number
of scopes bounds the chain. -/
def chainWithin (s : Store) : Nat → Address → List Address
  | 0, _ => []
  | fuel + 1, a =>
    match (s.scopeAt a).parent with
    | none => [a]
    | some parent => a :: s.chainWithin fuel parent

def chain (s : Store) (a : Address) : List Address := s.chainWithin s.scopes.size a

def specialsOf (s : Store) (a : Address) : Dict := s.dictAt (s.scopeAt a).specials

/-- Local data of the scope and its ancestors, without the scopes that only add specials. -/
def localStack (s : Store) (a : Address) : List Value :=
  ((s.chain a).filter fun scope => !(s.scopeAt scope).onlySpecials).map fun scope =>
    (s.scopeAt scope).data

def contextStack (s : Store) (a : Address) : List Value :=
  (s.chain a).map fun scope => .dict (s.scopeAt scope).specials

/-- The nearest binding of a name; a binding may hold null. -/
def contextBinding? (s : Store) (a : Address) (key : Key) : Option Value :=
  (s.chain a).findSome? fun scope => (s.specialsOf scope).get? key

def contextKey (s : Store) (a : Address) (key : Key) : Value :=
  Value.ofOption (s.contextBinding? a key)

theorem chain_head (s : Store) {a : Address} (inside : a < s.scopes.size) :
    ∃ above, s.chain a = a :: above := by
  unfold chain
  cases size : s.scopes.size with
  | zero => exact absurd (size ▸ inside) (Nat.not_lt_zero a)
  | succ fuel =>
    unfold chainWithin
    cases (s.scopeAt a).parent with
    | none => exact ⟨_,rfl⟩
    | some parent => exact ⟨_,rfl⟩

/-- A binding of the scope itself is what its name reads as. -/
theorem contextKey_own {s : Store} {a : Address} {key : Key} {v : Value}
    (inside : a < s.scopes.size) (own : (s.specialsOf a).get? key = some v) :
    s.contextKey a key = v := by
  obtain ⟨above,chain⟩ := s.chain_head inside
  rw [contextKey,contextBinding?,chain,List.findSome?_cons,own]
  rfl

def hasContextKey (s : Store) (a : Address) (key : Key) : Bool :=
  (s.chain a).any fun scope => (s.specialsOf scope).has key

/-- All visible bindings, nearer ones over farther ones. -/
def squashedContext (s : Store) (a : Address) : Dict :=
  (s.chain a).reverse.foldl (fun merged scope => Dict.update merged (s.specialsOf scope)) []

def rootScope (s : Store) (a : Address) : Address := (s.chain a).getLast?.getD a

/-- The component data of the nearest scope that has any. -/
def componentRoot (s : Store) (a : Address) : Value :=
  Value.ofOption <| (s.chain a).findSome? fun scope =>
    match (s.scopeAt scope).component with
    | .null => none
    | component => some component

/-- The markup contexts from the root down to the scope. -/
def htmlContext (s : Store) (a : Address) : String :=
  match (s.chain a).filterMap fun scope => (s.scopeAt scope).htmlContext with
  | [] => "none"
  | parts => " | ".intercalate parts.reverse

def handlerOf? (s : Store) (a : Address) (name : String) : Option Handler :=
  (s.scopeAt a).handlers.lookup name

/-- The scope a handler bound on `a` runs in. -/
def handlerScope (s : Store) (a : Address) (handler : Handler) : Address :=
  if handler.inParent then ((s.scopeAt a).parent).getD a else a

/-- The nearest handler of a name, with the scope it runs in. -/
def handlerAndScope? (s : Store) (a : Address) (name : String) : Option (Handler × Address) :=
  (s.chain a).findSome? fun scope =>
    (s.handlerOf? scope name).map fun handler => (handler, s.handlerScope scope handler)

/-- Whether a scope stops events of a name. Soft boundaries stop what they handle, and everything
when the name is the wildcard. -/
def stops (s : Store) (a : Address) (event : String) : Bool :=
  match (s.scopeAt a).boundary with
  | .hard => true
  | .soft => event == "*" || (s.handlerOf? a event).isSome
  | .none => false

def eventBoundary? (s : Store) (a : Address) (event : String) : Option Address :=
  (s.chain a).find? (s.stops · event)

/-- The scope a number of parents up, unless that walks past the root. -/
def ancestor? (s : Store) (a : Address) (hops : Nat) : Option Address := (s.chain a)[hops]?

end Store

/-- What a scope is made with beyond its data and specials. -/
structure ScopeOptions where
  description : Option String
  handlers : Named Handler
  htmlContext : Option String
  component : Value
  boundary : Boundary

namespace ScopeOptions

def plain : ScopeOptions := ⟨none, [], none, .null, .none⟩

def described (text : String) : ScopeOptions := { plain with description := some text }

end ScopeOptions

namespace Scope

/-- A scope without a parent. -/
def makeDetached (data : Value) (options : ScopeOptions) : Act Address := do
  let specials ← Act.make fun s => (s.dicts.size, { s with dicts := s.dicts.push [] })
  Act.make (·.newScope ⟨none, data, specials, false, options.description, options.handlers,
    options.htmlContext, options.component, options.boundary⟩)

/-- The scope that everything outside the page starts from. -/
def makeRoot : Act Address := makeDetached .null (.described "root")

/-- A child keeps its parent's description unless it has its own. Its specials are a dictionary of
its own, whatever mapping they come from. -/
def makeChild (parent : Address) (data : Value) (specials : Dict) (options : ScopeOptions) :
    Act Address := do
  let above := (← Act.store).scopeAt parent
  let specials ← Act.make fun s => (s.dicts.size, { s with dicts := s.dicts.push specials })
  Act.make (·.newScope ⟨some parent, data, specials, false,
    options.description.or above.description, options.handlers, options.htmlContext,
    options.component, options.boundary⟩)

/-- A child that shares its parent's data and only adds specials. -/
def makeSpecialChild (parent : Address) (specials : Dict) (options : ScopeOptions) :
    Act Address := do
  let above := (← Act.store).scopeAt parent
  let specials ← Act.make fun s => (s.dicts.size, { s with dicts := s.dicts.push specials })
  Act.make (·.newScope ⟨some parent, above.data, specials, true,
    options.description.or above.description, options.handlers, options.htmlContext,
    options.component, options.boundary⟩)

end Scope

namespace Context

/-- A live view of the bindings visible from a scope. -/
def make (scope : Address) : Act Value := Act.make (·.newContext scope)

/-- Writes land in the scope itself, whatever its ancestors bind. -/
def set (scope : Address) (key : Key) (label value : Value) : Act Unit :=
  Act.update fun s =>
    let specials := (s.scopeAt scope).specials
    s.putDict specials ((s.dictAt specials).insert key label value)

def erase (scope : Address) (key : Key) : Act Unit :=
  Act.update fun s =>
    let specials := (s.scopeAt scope).specials
    s.putDict specials ((s.dictAt specials).erase key)

end Context

/-- What reading arrives at: a value, the bindings visible from a scope, or items that are listed
anew each time they are asked for. -/
inductive Spot
  | value (v : Value)
  | bindings (scope : Address)
  | items (values : List Value)
deriving DecidableEq

namespace Spot

def null : Spot := .value .null

/-- A spot as a value. Views of bindings and listed items become objects of their own. -/
def realize : Spot → Act Value
  | value v => return v
  | bindings scope => Context.make scope
  | items values => Act.make (·.newList values)

end Spot

namespace Runtime

/-- Faults if the runtime that a scope belongs to is gone. -/
def dataRoot (r : Runtime) (name : String) : Except Fault (Option Value) :=
  if r.alive then .ok (r.rootValue? name) else .error .released

/-- What a root stands for, seen from a scope. -/
def rootSpot (r : Runtime) (scope : Address) (root : Root) : Except Fault Spot :=
  let s := r.store
  if 1 < root.caret then .error (.invalidCaret (toString root.caret))
  else
    match root.kind with
    | .global => do .ok (.value (Value.ofOption (← r.dataRoot "global")))
    | .state => do .ok (.value (Value.ofOption (← r.dataRoot "state")))
    | .named name => do
      match ← r.dataRoot name with
      | some v => .ok (.value v)
      | none => .error (.invalidRoot name)
    | .null => .ok .null
    | .localData => .ok (.value (Value.ofOption ((s.localStack scope)[root.caret]?)))
    | .context => .ok (((s.ancestor? scope root.caret).map .bindings).getD .null)
    | .currentContext =>
      .ok (((s.ancestor? scope root.caret).map fun target =>
        .value (.dict (s.scopeAt target).specials)).getD .null)
    | .localStack => .ok (.items (s.localStack scope))
    | .contextStack => .ok (.items (s.contextStack scope))
    | .component => .ok (.value (s.componentRoot scope))

end Runtime

/-- What a root given by name and caret stands for, where the caret may be any integer. -/
def resolveRootName (scope : Address) (name : String) (caret : Int) : Act Value := do
  if caret < 0 then Act.fail (.invalidCaret (String.ofList (intChars caret)))
  else
    let spot ← Act.ofExcept ((← Step.read).rootSpot scope (Root.ofName name caret.toNat))
    spot.realize

end PageRuntime
