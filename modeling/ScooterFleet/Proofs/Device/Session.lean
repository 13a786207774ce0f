import ScooterFleet.Device.Session
import ScooterFleet.Proofs.Motion.Trace

/-!
# Dispatches and ticks of a session

What a session does is said once, by the simulation that it asks for or steps; nobody above opens
`Session.dispatch` or `Session.tick`.
-/

namespace ScooterFleet
namespace Session

variable {α : Type} [Coordinate α]

theorem dispatch_eq_map (s : Session α) (destination : Position α) (trip : Option TripId) :
    s.dispatch destination trip =
      (Simulation.start? s.position destination s.battery s.profile).map fun start =>
        { s with movement := some start, trip } := by
  unfold dispatch
  cases Simulation.start? s.position destination s.battery s.profile <;> rfl

theorem dispatch_eq_ok {s s' : Session α} {destination : Position α} {trip : Option TripId}
    (h : s.dispatch destination trip = .ok s') :
    ∃ start, Simulation.start? s.position destination s.battery s.profile = .ok start ∧
      s' = { s with movement := some start, trip } := by
  rw [dispatch_eq_map] at h
  cases hs : Simulation.start? s.position destination s.battery s.profile with
  | error fault =>
    rw [hs] at h
    cases h
  | ok start =>
    rw [hs] at h
    cases h
    exact ⟨start, rfl, rfl⟩

/-- A movement from here to there begins, where the profile is sound and all is finite. -/
theorem dispatch_of_finite {s : Session α} {destination : Position α} (trip : Option TripId)
    (sound : s.profile.check = .ok ()) (position : s.position.isFinite = true)
    (there : destination.isFinite = true) (battery : Coordinate.isFinite s.battery = true) :
    s.dispatch destination trip =
      .ok { s with movement := some (.start s.position destination s.battery s.profile), trip } := by
  rw [dispatch_eq_map, Simulation.start?_of_finite sound position there battery]
  rfl

/-- The tick that gives a sample. -/
theorem tick_of_step? {s : Session α} {m m' : Simulation α} (hm : s.movement = some m)
    (h : m.step? = some m') :
    s.tick =
      let s' := { s with movement := some m' }.take m'.sample
      match m'.outcome with
      | none => ⟨s', [s'.telemetry], none⟩
      | some outcome => ⟨s'.rest, [s'.telemetry, s'.report outcome], some outcome⟩ := by
  have hnext : m.next = (some m'.sample, m') := by simp [Simulation.next, h]
  simp only [tick, hm, tickOf, hnext]
  cases m'.outcome <;> rfl

/-- The tick of a movement that had an outcome when it began. -/
theorem tick_of_outcome {s : Session α} {m : Simulation α} {o : Outcome} (hm : s.movement = some m)
    (h : m.outcome = some o) : s.tick = ⟨s.rest, [s.report o], some o⟩ := by
  have hnext : m.next = (none, m) := by
    simp [Simulation.next, Simulation.step?_eq_none_iff.mpr ⟨o, h⟩]
  simp only [tick, hm, tickOf, hnext, h]
  rfl

/-- A tick leaves the scooter and the profile. -/
theorem keeps_tick (s : Session α) :
    s.tick.session.scooter = s.scooter ∧ s.tick.session.profile = s.profile := by
  cases hm : s.movement with
  | none => simp only [tick, hm, and_self]
  | some m =>
    cases hs : m.step? with
    | none =>
      obtain ⟨o, ho⟩ := Simulation.step?_eq_none_iff.mp hs
      rw [tick_of_outcome hm ho]
      exact ⟨rfl, rfl⟩
    | some m' =>
      rw [tick_of_step? hm hs]
      cases m'.outcome <;> exact ⟨rfl, rfl⟩

/-- A tick of a movement gives one frame or two. -/
theorem frames_tick {s : Session α} (moving : s.isMoving = true) :
    ∃ frame more, s.tick.frames = frame :: more ∧ more.length ≤ 1 := by
  obtain ⟨m, hm⟩ := Option.isSome_iff_exists.mp moving
  cases hs : m.step? with
  | none =>
    obtain ⟨o, ho⟩ := Simulation.step?_eq_none_iff.mp hs
    rw [tick_of_outcome hm ho]
    exact ⟨_, _, rfl, Nat.zero_le 1⟩
  | some m' =>
    rw [tick_of_step? hm hs]
    cases m'.outcome with
    | none => exact ⟨_, _, rfl, Nat.zero_le 1⟩
    | some o => exact ⟨_, _, rfl, Nat.le_refl 1⟩

end Session
end ScooterFleet
