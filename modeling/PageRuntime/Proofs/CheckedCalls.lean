import PageRuntime.Proofs.Following
import PageRuntime.Proofs.HostSteps

/-! What is checked when a call is made. A made call has a path that reads, a module for its
namespace and a list of arguments, and the module has found what it asks of these: a local handler
that is declared, or the method, URL, parameters and outgoing record of a request. -/
namespace PageRuntime

variable {η α : Type}

namespace Fetch

theorem checkUrl_done {v : Value} {r after : Runtime} {text : String}
    (ran : checkUrl v r = (.done text,after)) :
    v = .str text ∧ after = r ∧
      ∃ url, Text.Url.read? text = some url ∧ url.isAbsoluteWeb = true := by
  rw [checkUrl,Step.bind_done (Act.store_run r)] at ran
  cases v with
  | str written =>
    dsimp only at ran
    split at ran
    · cases ran
    · cases read : Text.Url.read? written with
      | none =>
        rw [read] at ran
        cases ran
      | some url =>
        rw [read] at ran
        dsimp only at ran
        split at ran
        · next absolute =>
          cases ran
          exact ⟨rfl,rfl,url,read,absolute⟩
        · cases ran
  | _ => cases ran

/-- The checks that the plan of a fetch has passed. Parameters go into the query or into the body as
their method asks, once they are written out. -/
structure Checked (r : Runtime) (arguments : List Value) (fragment : Option String) (plan : Plan) :
    Prop where
  method : checkMethod fragment = .ok plan.method
  url : arguments[0]?.getD .null = .str plan.url
  absolute : ∃ url, Text.Url.read? plan.url = some url ∧ url.isAbsoluteWeb = true
  params : ∃ params, optionalMapping r.store plan.url (arguments[1]?.getD .null) = .ok params ∧
    (plan.method ∈ queryMethods →
      ∃ after, queryOf [] (params.getD []) r = (.done plan.query,after)) ∧
    (plan.method ∉ queryMethods → params.isSome → ∃ text after,
      Wire.serialize (arguments[1]?.getD .null) (some "json") false r = (.done text,after) ∧
        plan.body = .str text)
  init : ∃ init, optionalMapping r.store plan.url (arguments[2]?.getD .null) = .ok init

theorem outgoing_done {host : Host η} {method url : String} {query fields init : Dict} {body : Value}
    {w after : World η} {made : Plan}
    (ran : outgoing host method url query fields init body w = (.done made,after)) :
    ∃ record, made = ⟨url,method,query,body,record⟩ := by
  obtain ⟨_,_,-,ran⟩ := Step.done_of_bind ran
  obtain ⟨record,_,-,ran⟩ := Step.done_of_bind ran
  obtain ⟨_,_,-,ran⟩ := Step.done_of_bind ran
  cases ran
  exact ⟨record,rfl⟩

theorem fill_done {host : Host η} {method url : String} {params : Option Dict} {given : Value}
    {fields init : Dict} {w after : World η} {made : Plan}
    (ran : fill host method url params given fields init w = (.done made,after)) :
    made.url = url ∧ made.method = method ∧
      (method ∈ queryMethods →
        ∃ after, queryOf [] (params.getD []) w.runtime = (.done made.query,after)) ∧
      (method ∉ queryMethods → params.isSome → ∃ text after,
        Wire.serialize given (some "json") false w.runtime = (.done text,after) ∧
          made.body = .str text) := by
  rw [fill] at ran
  split at ran
  · next asQuery =>
    have asked : method ∈ queryMethods := List.contains_iff_mem.mp asQuery
    obtain ⟨query,mid,queried,ran⟩ := Step.done_of_bind ran
    obtain ⟨queried,-⟩ := Run.of_ofAct queried
    split at ran
    · next asBody => simp [asked] at asBody
    · obtain ⟨record,rfl⟩ := outgoing_done ran
      exact ⟨rfl,rfl,fun _ => ⟨_,queried⟩,fun other => absurd asked other⟩
  · next asBody =>
    have asked : method ∉ queryMethods := fun member => asBody (List.contains_iff_mem.mpr member)
    rw [Step.pure_bind] at ran
    split at ran
    · obtain ⟨text,_,written,ran⟩ := Step.done_of_bind ran
      obtain ⟨written,-⟩ := Run.of_ofAct written
      obtain ⟨record,rfl⟩ := outgoing_done ran
      exact ⟨rfl,rfl,fun member => absurd member asked,fun _ _ => ⟨text,_,written,rfl⟩⟩
    · next absent =>
      obtain ⟨record,rfl⟩ := outgoing_done ran
      exact ⟨rfl,rfl,fun member => absurd member asked,
        fun _ present => absurd (by simp [present,asked]) absent⟩

theorem plan_checked {host : Host η} {request : Request} {items : List Value} {w after : World η}
    {made : Plan} (holds : w.runtime.store.sequence? request.data = some items)
    (ran : plan host request w = (.done made,after)) :
    Checked w.runtime items request.path.fragment made := by
  rw [plan] at ran
  obtain ⟨method,_,allows,ran⟩ := Step.done_of_bind ran
  obtain ⟨allowed,rfl⟩ := Run.ofExcept_done allows
  rw [Step.bind_done (Step.read_run _)] at ran
  dsimp only at ran
  rw [holds,Option.getD_some] at ran
  obtain ⟨url,mid,checked,ran⟩ := Step.done_of_bind ran
  obtain ⟨checked,hosted⟩ := Run.of_ofAct checked
  obtain ⟨given,same,absolute⟩ := checkUrl_done checked
  obtain rfl : w = mid := (congrArg₂ World.mk same hosted).symm
  obtain ⟨params,_,maps,ran⟩ := Step.done_of_bind ran
  obtain ⟨mapped,rfl⟩ := Run.ofExcept_done maps
  obtain ⟨init,_,records,ran⟩ := Step.done_of_bind ran
  obtain ⟨recorded,rfl⟩ := Run.ofExcept_done records
  obtain ⟨fields,_,lists,ran⟩ := Step.done_of_bind ran
  obtain ⟨-,rfl⟩ := Run.ofExcept_done lists
  obtain ⟨rfl,rfl,asked,written⟩ := fill_done ran
  exact ⟨allowed,given,absolute,⟨params,mapped,asked,written⟩,init,recorded⟩

end Fetch

namespace Gateway

/-- The arguments of a call; null and emptiness stand for none. -/
def argumentItems (s : Store) (arguments : Value) : Except Fault (List Value) :=
  if s.isTrue arguments then s.itemsOf arguments else .ok []

theorem argumentList_done {arguments data : Value} {r after : Runtime}
    (ran : argumentList arguments r = (.done data,after)) :
    ∃ items, argumentItems r.store arguments = .ok items ∧ data = .list r.store.lists.size ∧
      after = { r with store := (r.store.newList items).2 } := by
  rw [argumentList,Step.bind_done (Act.store_run r)] at ran
  split at ran
  · next given =>
    obtain ⟨items,mid,listed,ran⟩ := Step.done_of_bind ran
    obtain ⟨listed,same⟩ := Act.ofExcept_done listed
    rw [same] at ran
    cases ran
    exact ⟨items,by rw [argumentItems,if_pos given,listed],rfl,rfl⟩
  · next absent =>
    cases ran
    exact ⟨[],if_neg absent,rfl,rfl⟩

theorem findLocal_done {found : HandlerPath} {r after : Runtime} {node : Address}
    (ran : findLocal found r = (.done node,after)) :
    after = r ∧ Document.localHandler? (.str (localName found)) r = (.done (some node),r) := by
  obtain ⟨declared,_,looked,ran⟩ := Step.done_of_bind ran
  cases looked
  cases declares : r.document.bind fun document =>
      (Document.children r.store document).find? fun child =>
        let node := r.store.nodeAt child
        node.tag == .str "define-handler" &&
          Dict.field node.attrs "name" == .str (localName found) with
  | none =>
    rw [declares] at ran
    cases ran
  | some here =>
    rw [declares] at ran
    cases ran
    exact ⟨rfl,congrArg (fun found => (Outcome.done found,r)) declares⟩

/-- What a module has found of a request before it is answered. -/
inductive Served (r : Runtime) (items : List Value) (request : Request) : Module → Pending → Prop
  | custom (token : Nat) : Served r items request (.custom token) (.custom token request)
  | localBlock (node : Address) (declared : Document.localHandler? (.str (localName request.path)) r =
      (.done (some node),r)) :
      Served r items request .localBlocks (.localBlock node (localName request.path) request)
  | fetch (plan : Fetch.Plan) (checked : Fetch.Checked r items request.path.fragment plan) :
      Served r items request .fetch (.fetch plan request)

theorem serve_done {host : Host η} {found : HandlerPath} {module_ : Module} {arguments : Value}
    {trail : Option Address} {isPure : Bool} {w after : World η} {pending : Pending}
    (ran : serve host found module_ arguments trail isPure w = (.done pending,after)) :
    ∃ items, argumentItems w.runtime.store arguments = .ok items ∧
      Served { w.runtime with store := (w.runtime.store.newList items).2 } items
        ⟨found,.list w.runtime.store.lists.size,trail,isPure⟩ module_ pending := by
  obtain ⟨data,mid,listed,ran⟩ := Step.done_of_bind ran
  obtain ⟨listed,-⟩ := Run.of_ofAct listed
  obtain ⟨items,given,rfl,left⟩ := argumentList_done listed
  refine ⟨items,given,?_⟩
  rw [← left]
  cases module_ with
  | custom token =>
    obtain ⟨_,_,-,ran⟩ := Step.done_of_bind ran
    cases ran
    exact .custom token
  | localBlocks =>
    obtain ⟨node,_,looked,ran⟩ := Step.done_of_bind ran
    obtain ⟨-,declared⟩ := findLocal_done (Run.of_ofAct looked).1
    cases ran
    exact .localBlock node declared
  | fetch =>
    obtain ⟨plan,_,planned,ran⟩ := Step.done_of_bind ran
    cases ran
    refine .fetch plan (Fetch.plan_checked ?_ planned)
    rw [left]
    exact congrArg some (Object.items.inj (w.runtime.store.newList_adds items).object)

/-- A call that can be made is served by the module of its namespace; any other has failed. -/
theorem start_cases (host : Host η) (path arguments : Value) (trail : Option Address) (isPure : Bool)
    (w : World η) :
    (∃ fault, start host path arguments trail isPure w = (Act.fail fault : Run η Pending) w) ∨
    ∃ found module_, readPath w.runtime.store path = .ok found ∧
      w.runtime.modules.lookup found.namespace_ = some module_ ∧
      start host path arguments trail isPure w =
        serve host found module_ arguments trail isPure w := by
  rw [start,Step.bind_done (Step.read_run w)]
  cases read : readPath w.runtime.store path with
  | error fault => exact .inl ⟨fault,rfl⟩
  | ok found =>
    rw [Step.bind_done (Run.ofAct_run (Act.ofExcept_ok found w.runtime))]
    cases routes : w.runtime.modules.lookup found.namespace_ with
    | none =>
      have unknown : moduleOf found path w.runtime =
          (Act.fail (.unknownModule found.namespace_ (w.runtime.store.display path)) : Act Module)
            w.runtime := by
        rw [moduleOf,Step.bind_done (Step.read_run w.runtime),routes]
      exact .inl ⟨_,Step.bind_raised (Run.ofAct_run (unknown.trans rfl))⟩
    | some module_ =>
      have known : moduleOf found path w.runtime = (.done module_,w.runtime) := by
        rw [moduleOf,Step.bind_done (Step.read_run w.runtime),routes]
        rfl
      exact .inr ⟨found,module_,rfl,routes,by rw [Step.bind_done (Run.ofAct_run known)]; rfl⟩

/-- What holds of a made call. -/
inductive Checked (r : Runtime) (path arguments : Value) (trail : Option Address) (isPure : Bool)
    (pending : Pending) : Prop
  | intro (found : HandlerPath) (module_ : Module) (items : List Value)
      (reads : readPath r.store path = .ok found)
      (routes : r.modules.lookup found.namespace_ = some module_)
      (lists : argumentItems r.store arguments = .ok items)
      (serves : Served { r with store := (r.store.newList items).2 } items
        ⟨found,.list r.store.lists.size,trail,isPure⟩ module_ pending)

theorem start_checked {host : Host η} {path arguments : Value} {trail : Option Address}
    {isPure : Bool} {w after : World η} {pending : Pending}
    (ran : start host path arguments trail isPure w = (.done pending,after)) :
    Checked w.runtime path arguments trail isPure pending := by
  obtain ⟨fault,refused⟩ | ⟨found,module_,reads,routes,same⟩ :=
    start_cases host path arguments trail isPure w
  · rw [refused] at ran
    cases ran
  · rw [same] at ran
    obtain ⟨items,lists,serves⟩ := serve_done ran
    exact ⟨found,module_,items,reads,routes,lists,serves⟩

end Gateway
end PageRuntime
