import PageRuntime.Runtime

/-! Trails: frames that say what is being done, the innermost last. A step that fails leaves its
frame, so that the trail shows where. -/
namespace PageRuntime
namespace Trail

def make (frames : List String) : Act Address := Act.make (·.newTrail frames)

def frames (trail : Address) : Act (List String) := do return (← Act.store).trailAt trail

def change (trail : Address) (f : List String → List String) : Act Unit :=
  Act.update fun s => s.putTrail trail (f (s.trailAt trail))

def push (trail : Address) (frame : String) : Act Unit := change trail (· ++ [frame])

def pop (trail : Address) : Act Unit := change trail List.dropLast

/-- Drops the frames beyond a number of them. -/
def cut (trail : Address) (depth : Nat) : Act Unit := change trail (List.take depth)

def last? (trail : Address) : Act (Option String) := do return (← frames trail).getLast?

def copy (trail : Address) : Act Address := do make (← frames trail)

end Trail
end PageRuntime
