import PageRuntime.Store

/-! Whether a value contains itself through mappings and sequences. -/
namespace PageRuntime
namespace Store

def cyclicWithin (s : Store) : Nat → List Value → Value → Bool
  | 0, _, _ => true
  | fuel + 1, active, v =>
    if v.isMapping || v.kind == .sequence then
      active.contains v || (s.members v).any (s.cyclicWithin fuel (v :: active))
    else false

def hasCycle (s : Store) (v : Value) : Bool := s.cyclicWithin (s.size + 2) [] v

end Store
end PageRuntime
