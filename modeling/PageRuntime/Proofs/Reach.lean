import PageRuntime.Proofs.Resolution

/-! What lies at the end of accessor steps. Steps one after another lead where all of them lead at
once, whether or not the references between them are followed on the way. -/
namespace PageRuntime

theorem Spot.walk_null (resolve : Address → Except Fault Spot) (s : Store) (keys : List Segment) :
    Spot.null.walk resolve s keys = .ok .null := by
  cases keys <;> rfl

theorem Spot.walk_cons (resolve : Address → Except Fault Spot) (s : Store) (key : Segment)
    (rest : List Segment) (spot : Spot) : spot.walk resolve s (key :: rest) =
      spot.step resolve s key >>= fun next => (Spot.value next).walk resolve s rest := by
  show (spot.step resolve s key >>= fun next => _) = _
  refine congrArg _ (funext fun next => ?_)
  cases next with
  | null => exact (Spot.walk_null resolve s rest).symm
  | _ => rfl

theorem Spot.walk_append (resolve : Address → Except Fault Spot) (s : Store)
    (keys rest : List Segment) (spot : Spot) :
    spot.walk resolve s (keys ++ rest) =
      spot.walk resolve s keys >>= fun last => last.walk resolve s rest := by
  induction keys generalizing spot with
  | nil => rfl
  | cons key keys ih =>
    rw [List.cons_append,Spot.walk_cons,Spot.walk_cons]
    cases spot.step resolve s key with
    | error fault => rfl
    | ok next => exact ih (.value next)

namespace Runtime

variable (r : Runtime)

/-- What lies at the end of accessor steps from a spot, once no reference is left to follow. -/
def reach (spot : Spot) (keys : List Segment) : Except Fault Spot := do
  (← spot.walk r.resolve r.store keys).follow r.resolve

theorem follow_settled {spot settled : Spot} (followed : spot.follow r.resolve = .ok settled) :
    settled.follow r.resolve = .ok settled := by
  have plain (b : Address) : settled ≠ .value (.ref b) := by
    rintro rfl
    unfold Spot.follow at followed
    split at followed
    · exact r.resolve_ne_ref _ _ followed
    · next other => exact other b (Except.ok.inj followed)
  exact Spot.follow_direct r.resolve plain

theorem resolve_settled {a : Address} {spot : Spot} (resolved : r.resolve a = .ok spot) :
    spot.follow r.resolve = .ok spot :=
  r.follow_settled (show (Spot.value (.ref a)).follow r.resolve = .ok spot from resolved)

theorem reach_follow (spot : Spot) (keys : List Segment) :
    r.reach spot keys = spot.follow r.resolve >>= fun settled => r.reach settled keys := by
  cases followed : spot.follow r.resolve with
  | error fault =>
    cases keys with
    | nil => exact followed
    | cons key rest =>
      unfold reach
      rw [Spot.walk_cons,Spot.step,followed]
      rfl
  | ok settled =>
    have still := r.follow_settled followed
    cases keys with
    | nil => exact followed.trans still.symm
    | cons key rest =>
      show r.reach spot (key :: rest) = r.reach settled (key :: rest)
      unfold reach
      rw [Spot.walk_cons,Spot.walk_cons,Spot.step,Spot.step,followed,still]

theorem reach_append (spot : Spot) (keys rest : List Segment) :
    r.reach spot (keys ++ rest) = r.reach spot keys >>= fun last => r.reach last rest := by
  unfold reach
  rw [Spot.walk_append]
  cases spot.walk r.resolve r.store keys with
  | error fault => rfl
  | ok last => exact r.reach_follow last rest

theorem reach_singleton {spot settled : Spot} (followed : spot.follow r.resolve = .ok settled)
    (key : Segment) :
    r.reach spot [key] = (Spot.value (r.store.member settled key)).follow r.resolve := by
  unfold reach
  rw [Spot.walk_cons,Spot.step,followed]
  rfl

theorem reach_settled {spot settled : Spot} {keys : List Segment}
    (reached : r.reach spot keys = .ok settled) : settled.follow r.resolve = .ok settled := by
  obtain ⟨last,-,followed⟩ := ok_of_bind reached
  exact r.follow_settled followed

/-- What lies below a data root, at the end of accessor steps. -/
def below (name : String) (keys : List Segment) : Except Fault Spot :=
  r.reach (.value (Value.ofOption (r.rootValue? name))) keys

end Runtime
end PageRuntime
