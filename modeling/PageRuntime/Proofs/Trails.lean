import PageRuntime.Proofs.Fresh

/-! Trails in the store. Only pushing, popping and cutting frames changes a trail that is there; all
other steps of the runtime may at most start new ones. -/
namespace PageRuntime

namespace Store

/-- The trail, if it is there, stays and gains frames at its end. -/
def Gains (trail : Address) (frames : List String) (s after : Store) : Prop :=
  trail < s.trails.size →
    trail < after.trails.size ∧ after.trailAt trail = s.trailAt trail ++ frames

/-- The trail, if it is there, stays as it is. -/
def Spares (trail : Address) (s after : Store) : Prop :=
  trail < s.trails.size → trail < after.trails.size ∧ after.trailAt trail = s.trailAt trail

variable {trail : Address} {s mid after : Store} {frames more : List String}

theorem Spares.trans (first : Spares trail s mid) (second : Spares trail mid after) :
    Spares trail s after := by
  intro present
  obtain ⟨still,same⟩ := first present
  obtain ⟨stays,alike⟩ := second still
  exact ⟨stays,alike.trans same⟩

theorem Spares.gains (first : Spares trail s mid) (second : Gains trail frames mid after) :
    Gains trail frames s after := by
  intro present
  obtain ⟨still,same⟩ := first present
  rw [← same]
  exact second still

theorem Gains.trans (first : Gains trail frames s mid) (second : Gains trail more mid after) :
    Gains trail (frames ++ more) s after := by
  intro present
  obtain ⟨still,same⟩ := first present
  obtain ⟨stays,alike⟩ := second still
  exact ⟨stays,by rw [alike,same,List.append_assoc]⟩

theorem Gains.spares (first : Gains trail frames s mid) (second : Spares trail mid after) :
    Gains trail frames s after := by
  intro present
  obtain ⟨still,same⟩ := first present
  obtain ⟨stays,alike⟩ := second still
  exact ⟨stays,alike.trans same⟩

theorem Spares.of_trails (same : after.trails = s.trails) : Spares trail s after := by
  intro present
  unfold trailAt
  rw [same]
  exact ⟨present,rfl⟩

theorem Grew.spares (grew : s.Grew after) (trail : Address) : Spares trail s after := by
  intro present
  obtain ⟨still,same⟩ := grew .trail trail present
  exact ⟨still,Object.trail.inj same⟩

theorem spares_self (trail : Address) (s : Store) : Spares trail s s := fun present => ⟨present,rfl⟩

theorem putTrail_spares {other : Address} (apart : trail ≠ other) (frames : List String) :
    Spares trail s (s.putTrail other frames) :=
  fun present => ⟨Nat.lt_of_lt_of_eq present (s.trails.size_set _ _).symm,
    s.trails.getD_set_of_ne frames [] apart⟩

/-- What a trail holds once it is written. -/
theorem putTrail_holds (present : trail < s.trails.size) (frames : List String) :
    trail < (s.putTrail trail frames).trails.size ∧
      (s.putTrail trail frames).trailAt trail = frames :=
  ⟨Nat.lt_of_lt_of_eq present (s.trails.size_set _ _).symm,s.trails.getD_set_self frames [] present⟩

end Store

namespace Runtime

/-- A trail, if it is there, stays as it is. -/
def Spares (trail : Address) (r after : Runtime) : Prop := Store.Spares trail r.store after.store

instance (trail : Address) : Std.Refl (Spares trail) := ⟨fun r => Store.spares_self trail r.store⟩

instance (trail : Address) : Trans (Spares trail) (Spares trail) (Spares trail) :=
  ⟨fun first second => Store.Spares.trans first second⟩

end Runtime

namespace World

variable {η : Type}

/-- A trail, if it is there, stays as it is. -/
def Spares (trail : Address) (w after : World η) : Prop := w.runtime.Spares trail after.runtime

instance (trail : Address) : Std.Refl (Spares (η := η) trail) :=
  ⟨fun w => Store.spares_self trail w.runtime.store⟩

instance (trail : Address) : Trans (Spares (η := η) trail) (Spares trail) (Spares trail) :=
  ⟨fun first second => Store.Spares.trans first second⟩

end World

/-- The step leaves every trail that is there as it is. -/
def Act.Untraced {α : Type} (act : Act α) : Prop :=
  ∀ trail, Step.Keeps (Runtime.Spares trail) act

namespace Act.Untraced

variable {α β : Type}

theorem of_onlyGrows {act : Act α} (only : act.OnlyGrows) : act.Untraced :=
  fun trail r => (only r).store.spares trail

theorem of_onlyData {act : Act α} (only : act.OnlyData) : act.Untraced :=
  fun _ r => .of_trails (only.trails r)

/-- A change beside the store touches no trail. -/
theorem beside {change : Runtime → Runtime} (same : ∀ r, (change r).store = r.store) :
    Untraced (Step.modify change) :=
  fun _ r => .of_trails (congrArg Store.trails (same r))

theorem bind {act : Act α} {next : α → Act β} (untraced : act.Untraced)
    (later : ∀ x, (next x).Untraced) : (act >>= next).Untraced :=
  fun trail => Step.Keeps.bind (untraced trail) fun x => later x trail

end Act.Untraced

namespace Handler

theorem setStep_untraced (scope : Address) (step : Dict) (path : Value) :
    (setStep scope step path).Untraced :=
  .bind (.of_onlyGrows (Reference.ofValue_onlyGrows _ _)) fun _ =>
    .bind (.of_onlyGrows (Block.writtenValue_onlyGrows _ _)) fun _ =>
      .of_onlyData (Reference.set_onlyData _ _)

theorem storeInto_untraced (scope : Address) (step : Dict) (v : Value) :
    (storeInto scope step v).Untraced := by
  refine .bind (.of_onlyGrows .store) fun s => ?_
  split
  · exact .bind (.of_onlyGrows (Reference.ofValue_onlyGrows _ _)) fun _ =>
      .of_onlyData (Reference.set_onlyData _ _)
  · exact .of_onlyGrows (.pure _)

end Handler
end PageRuntime
