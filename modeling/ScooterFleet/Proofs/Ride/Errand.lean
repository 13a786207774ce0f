import ScooterFleet.Proofs.Ride.Fate

/-!
# What a device does about a trip

When a device has taken the trip's command, it is in the trip's movement; and when that is over, its
report is on its way.

* `Session.Ticks` / `ticks_of_moving` — a tick of a movement goes on with it, or ends and reports it;
* `Device.Rides`, `Device.Rests` — the device in and behind the trip's movement;
* `Tied.rides`, `Told.device` — **what a step of the device leaves of each**.
-/

namespace ScooterFleet

variable {α : Type}

section Sessions

variable [Coordinate α] {s : Session α}

namespace Session

/-- What a tick of a movement leaves. -/
inductive Ticks (s : Session α) (t : Tick α) : Prop
  | goes (unended : t.outcome = none) (moving : t.session.isMoving = true)
      (trip : t.session.trip = s.trip) (frames : t.frames = [t.session.telemetry])
  | ends {o : Outcome} (frames : List (DeviceFrame α)) (last : Session α)
      (outcome : t.outcome = some o) (rests : t.session.isMoving = false)
      (scooter : last.scooter = s.scooter)
      (trip : last.trip = s.trip) (tells : t.frames = frames ++ [last.report o])

theorem ticks_of_moving (moving : s.isMoving = true) : s.Ticks s.tick := by
  obtain ⟨m, hm⟩ := Option.isSome_iff_exists.mp moving
  cases hs : m.step? with
  | none =>
    obtain ⟨o, ho⟩ := Simulation.step?_eq_none_iff.mp hs
    rw [tick_of_outcome hm ho]
    exact .ends [] s rfl rfl rfl rfl rfl
  | some m' =>
    rw [tick_of_step? hm hs]
    cases m'.outcome with
    | none => exact .goes rfl rfl rfl rfl
    | some o =>
      exact .ends [_] (({ s with movement := some m' } : Session α).take m'.sample) rfl rfl rfl rfl rfl

end Session

/-! ### The device in and behind the movement -/

/-- The session is in the movement of this trip. -/
structure Session.OnTrip (p : MotionProfile α) (t : Ticket) (s : Session α) : Prop where
  scooter : s.scooter = t.scooter
  profile : s.profile = p
  moving : s.isMoving = true
  trip : s.trip = some t.trip

namespace Device

/-- The device is in the trip's movement, and ticks next at this time. -/
def Rides (p : MotionProfile α) (t : Ticket) (due : Millis) : Device α → Prop
  | .running s due' => s.OnTrip p t ∧ due' = due
  | .sending s _ _ due' outcome => s.OnTrip p t ∧ due' = due ∧ outcome = none
  | _ => False

/-- The device is at rest, or has gone. -/
def Rests (gone : Bool) : Device α → Prop
  | .running s _ => gone = false ∧ s.isMoving = false
  | .sending s _ _ _ _ => gone = false ∧ s.isMoving = false
  | .finished _ => gone = true
  | _ => False

end Device
end Sessions

namespace Ride

variable [Coordinate α] {p : MotionProfile α} {owned : Registration} {t : Ticket} {s : Ride α}
  {pipe : List (Dispatch α)} {flight : List (DeviceFrame α)} {gone : Bool} {c : Device.Choice}
  {x : Device α × Link α}

/-- The trip's movement is over: its report is on its way, and the device rests or has gone. -/
inductive Told (owned : Registration) (t : Ticket) (s : Ride α) : Prop
  | mk {flight : List (DeviceFrame α)} {gone : Bool} {frame : DeviceFrame α}
      (tied : Tied owned s [] flight gone) (rests : s.device.Rests gone) (mem : frame ∈ flight)
      (ends : frame.Ends t)

theorem Told.device (h : Told owned t s) (step : s.device.step s.now s.site.link c = some x) :
    Told owned t (s.afterDevice x) := by
  cases h with
  | @mk flight gone frame tied rests mem ends =>
    cases gone with
    | true =>
      cases hd : s.device with
      | finished result =>
        rw [hd] at step
        cases c <;> cases step
      | running session due | sending session frame more due outcome =>
        rw [hd] at rests
        exact absurd rests.1 nofun
      | _ =>
        rw [hd] at rests
        exact rests.elim
    | false =>
      cases c with
      | receive =>
        obtain ⟨session, due, m, rest, -, hpipe, -⟩ := tied.receive step
        cases hpipe
      | tick =>
        obtain ⟨session, due, frame, more, hd, moving, -⟩ := tied.tick step
        rw [hd] at rests
        rw [rests.2] at moving
        cases moving
      | send =>
        obtain ⟨session, frame, more, due, outcome, hd, hsent⟩ := tied.send step
        rw [hd] at rests
        cases hsent with
        | more split device htied => exact .mk htied (device ▸ ⟨rfl, rests.2⟩) mem ends
        | last split lasts device htied => exact .mk htied (device ▸ ⟨rfl, rests.2⟩) mem ends
        | gone split empty device parting htied => exact .mk (htied rfl) (device ▸ rfl) mem ends

/-- What a step of the device leaves of the trip's movement. -/
inductive Rode (p : MotionProfile α) (owned : Registration) (t : Ticket) (s s' : Ride α)
    (flight : List (DeviceFrame α)) (due : Millis) : Prop
  | sends (rides : s'.device.Rides p t due) (tied : Tied owned s' [] flight false)
  | ticks {frame : DeviceFrame α} (isDue : due ≤ s.now)
      (rides : s'.device.Rides p t (due + p.interval)) (tracks : frame.Tracks t.scooter)
      (tied : Tied owned s' [] (flight ++ [frame]) false)
  | ends (told : Told owned t s')

/-- **In the trip's movement, the device sends, ticks, or ends the movement and reports it.** -/
theorem Tied.rides (tied : Tied owned s [] flight false) {due : Millis}
    (rides : s.device.Rides p t due) (step : s.device.step s.now s.site.link c = some x) :
    Rode p owned t s (s.afterDevice x) flight due := by
  cases c with
  | receive =>
    obtain ⟨session, due, m, rest, -, hpipe, -⟩ := tied.receive step
    cases hpipe
  | tick =>
    obtain ⟨session, due', frame, more, hd, moving, hdue, hframes, hx, htied⟩ := tied.tick step
    rw [hd] at rides
    obtain ⟨on, rfl⟩ := rides
    obtain ⟨hsame, hsameProfile⟩ := session.keeps_tick
    cases Session.ticks_of_moving moving with
    | goes unended moving' trip frames =>
      rw [frames] at htied
      have hscooter := hsame.trans on.scooter
      refine .ticks hdue ?_ ?_ htied
      · show x.1.Rides p t (due' + p.interval)
        rw [hx, ← on.profile]
        exact ⟨⟨hscooter, hsameProfile, moving', trip.trans on.trip⟩, rfl, unended⟩
      · exact hscooter
    | ends frames last outcome rests scooter trip tells =>
      rw [tells] at htied
      refine .ends (.mk htied ?_ (List.mem_append_right _ (List.mem_append_right _
        (List.mem_singleton.mpr rfl))) ⟨scooter.trans on.scooter, trip.trans on.trip⟩)
      show x.1.Rests false
      rw [hx]
      exact ⟨rfl, rests⟩
  | send =>
    obtain ⟨session, frame, more, due', outcome, hd, hsent⟩ := tied.send step
    rw [hd] at rides
    obtain ⟨on, rfl, rfl⟩ := rides
    cases hsent with
    | more split device htied => exact .sends (device ▸ ⟨on, rfl, rfl⟩) htied
    | last split lasts device htied => exact .sends (device ▸ ⟨on, rfl⟩) htied
    | gone split empty => cases empty

end Ride
end ScooterFleet
