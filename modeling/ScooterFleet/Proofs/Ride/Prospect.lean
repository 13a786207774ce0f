import ScooterFleet.Proofs.Ride.Attendance
import ScooterFleet.Proofs.Ride.Errand

/-!
# Why a trip's silence ends in time

While a trip is pending, there is always something on its way that ends the silence of its device: the
trip's command, or the end of a connection whose device has gone; a tick that comes before the deadline, or
a position; or the report.

* `Ride.Prospect` — **what is on its way, and that it comes in time**;
* `Prospect.device`, `Prospect.gateway`, `Prospect.beside`, `Prospect.noticed`, `Prospect.clock` — the
  step lemmas: whoever goes on, something is on its way still.
-/

namespace ScooterFleet

/-- The idle limit is longer than an interval. -/
theorem MotionProfile.interval_lt_idleLimit {α : Type} (p : MotionProfile α) :
    p.interval < p.idleLimit := by
  have hmax : ∀ i : Nat, i < max (i * 20) 10000 := by
    intro i
    omega
  exact hmax p.interval

/-- A silence does not end when it begins. -/
theorem MotionProfile.lt_add_idleLimit {α : Type} (p : MotionProfile α) (now : Millis) :
    now < now + p.idleLimit :=
  Nat.lt_add_of_pos_right (Nat.lt_of_le_of_lt (Nat.zero_le _) p.interval_lt_idleLimit)

/-- A tick that comes so much before the end of a silence comes before the deadline. -/
theorem lt_deadline {now due deadline interval limit : Nat} (h : due + limit ≤ deadline + interval)
    (short : interval < limit) (le : now ≤ due) : now < deadline := by
  omega

namespace Ride

open Registry

variable {α : Type} [Coordinate α]

/-- What is on its way for a pending trip, of whose `ticks` positions `seen` were noticed, and that it
comes before the deadline. -/
inductive Prospect (p : MotionProfile α) (owned : Registration) (cut : Prop) (t : Ticket) (s : Ride α)
    (seen ticks : Nat) (deadline : Millis) : Prop
  /-- The trip's command; no time passes before it is taken, or the connection of its device ends. -/
  | ordered {m : Dispatch α} (attends : Attends p owned cut s [m]) (scooter : m.scooter = owned.scooter)
      (trip : m.trip = some t.trip) (destination : m.destination.isFinite = true)
      (patience : s.now + p.idleLimit ≤ deadline)
  /-- A tick.  A deadline that comes too early for it was set before a position that is not noticed
  yet. -/
  | riding {flight : List (DeviceFrame α)} {due : Millis} (tied : Tied owned s [] flight false)
      (rides : s.device.Rides p t due) (now_le : s.now ≤ due) (due_le : due ≤ s.now + p.interval)
      (patience : due + p.idleLimit ≤ deadline + p.interval ∨ seen < ticks ∨
        ∃ frame ∈ flight, frame.Tracks t.scooter)
  /-- The report. -/
  | reported (told : Told owned t s)

variable {p : MotionProfile α} {owned : Registration} {cut : Prop} {t : Ticket} {s : Ride α}
  {seen ticks : Nat} {deadline : Millis}

theorem Prospect.registered (h : Prospect p owned cut t s seen ticks deadline) :
    Registered s.registry owned := by
  cases h with
  | ordered attends => exact attends.registered
  | riding tied => exact tied.registered
  | reported told =>
    cases told with
    | mk tied => exact tied.registered

/-- The wait has noticed all positions, and its silence starts anew. -/
theorem Prospect.noticed (h : Prospect p owned cut t s seen ticks deadline) :
    Prospect p owned cut t s ticks ticks (s.now + p.idleLimit) := by
  cases h with
  | ordered attends scooter trip destination patience =>
    exact .ordered attends scooter trip destination (Nat.le_refl _)
  | riding tied rides now_le due_le patience =>
    refine .riding tied rides now_le due_le (.inl ?_)
    rw [Nat.add_right_comm]
    exact Nat.add_le_add_right due_le _
  | reported told => exact .reported told

/-- What leaves the device, the gateway and the link; positions may have been counted. -/
theorem Prospect.beside (h : Prospect p owned cut t s seen ticks deadline) {s' : Ride α} {ticks' : Nat}
    (beside : Beside owned s s') (now : s'.now = s.now)
    (commands : s'.registry.commands owned.connection = s.registry.commands owned.connection)
    (le : ticks ≤ ticks') : Prospect p owned cut t s' seen ticks' deadline := by
  have tied {pipe : List (Dispatch α)} {flight : List (DeviceFrame α)} {gone : Bool}
      (h : Tied owned s pipe flight gone) : Tied owned s' pipe flight gone := h.same beside commands
  cases h with
  | ordered attends scooter trip destination patience =>
    exact .ordered (attends.same beside now commands) scooter trip destination (now ▸ patience)
  | riding htied rides now_le due_le patience =>
    refine .riding (tied htied) (beside.device ▸ rides) (now ▸ now_le) (now ▸ due_le) ?_
    exact patience.imp_right fun fed => fed.imp_left fun lt => Nat.lt_of_lt_of_le lt le
  | reported told =>
    cases told with
    | mk htied rests mem ends => exact .reported (.mk (tied htied) (beside.device ▸ rests) mem ends)

/-- The device goes on. -/
theorem Prospect.device (h : Prospect p owned cut t s seen ticks deadline) (sound : p.check = .ok ())
    (mine : t.scooter = owned.scooter) {c : Device.Choice} {x : Device α × Link α}
    (finite : c = .receive → ∀ session ∈ s.device.session?,
      session.position.isFinite = true ∧ Coordinate.isFinite session.battery = true)
    (step : s.device.step s.now s.site.link c = some x) :
    Prospect p owned cut t (s.afterDevice x) seen ticks deadline := by
  cases h with
  | @ordered m attends scooter trip destination patience =>
    by_cases hc : c = .receive
    · subst hc
      cases attends with
      | parts why parting =>
        obtain ⟨result, hd⟩ := parting.device
        rw [hd] at step
        cases step
      | lingers tied lingers =>
        -- the trip's movement starts now, so its first tick is one interval away
        obtain ⟨session, due, m', rest, hd, hpipe, hnext⟩ := tied.receive step
        cases hpipe
        obtain ⟨hposition, hbattery⟩ := finite rfl session (by rw [hd]; rfl)
        rw [hd] at lingers
        obtain ⟨hscooter, hprofile, -⟩ := lingers
        obtain ⟨hx, htied⟩ := hnext _ (scooter.trans hscooter.symm)
          (Session.dispatch_of_finite m.trip (hprofile ▸ sound) hposition destination hbattery)
        refine .riding htied ?_ (Nat.le_add_right s.now p.interval) (Nat.le_refl _) (.inl ?_)
        · show x.1.Rides p t (s.now + p.interval)
          rw [hx]
          exact ⟨⟨hscooter.trans mine.symm, hprofile, rfl, trip⟩, by rw [← hprofile]⟩
        · rw [Nat.add_right_comm]
          exact Nat.add_le_add_right patience _
    · exact .ordered (attends.device step fun he => absurd he hc) scooter trip destination patience
  | riding tied rides now_le due_le patience =>
    cases tied.rides rides step with
    | sends rides' tied' => exact .riding tied' rides' now_le due_le patience
    | ticks isDue rides' tracks tied' =>
      refine .riding tied' rides' ?_ ?_ (.inr (.inr ⟨_, ?_, tracks⟩))
      · exact Nat.le_trans now_le (Nat.le_add_right _ _)
      · exact Nat.add_le_add_right isDue _
      · exact List.mem_append_right _ (List.mem_singleton.mpr rfl)
    | ends told => exact .reported told
  | reported told => exact .reported (told.device step)

omit [Coordinate α] in
/-- A frame that is not on its way any more did not end the trip, and was counted if it is a position. -/
theorem Tied.hears {pipe : List (Dispatch α)} {flight : List (DeviceFrame α)} {gone : Bool}
    (tied : Tied owned s pipe flight gone) (short : pipe.length ≤ 1)
    (alive : gone = true → pipe = [] ∧ flight ≠ []) (mine : t.scooter = owned.scooter)
    (waiting : Waiting s.registry t.scooter t.trip ticks) {c : Gateway.Choice}
    {x : Gateway α × Gateway.Site α} (step : s.gateway.step s.now s.wall s.site c = some x) :
    let s' : Ride α := { s with gateway := x.1, site := x.2 }
    Ended s'.registry cut t.trip ∨ ∃ ticks' flight', ticks ≤ ticks' ∧
      Waiting s'.registry t.scooter t.trip ticks' ∧ Tied owned s' pipe flight' gone ∧
      ∀ frame ∈ flight, frame ∈ flight' ∨
        ¬ frame.Ends t ∧ (frame.Tracks t.scooter → ticks < ticks') := by
  intro s'
  cases tied.gateway short alive step with
  | along tied' trips resolutions =>
    exact .inr ⟨ticks, flight, Nat.le_refl _, waiting.congr trips resolutions, tied',
      fun frame mem => .inl mem⟩
  | @applies frame rest first tied' registry =>
    rcases waiting.hears mine s.wall frame with ended | ⟨other, ticks', le, counted, waiting'⟩
    · exact .inl (registry ▸ ended)
    · refine .inr ⟨ticks', rest, le, registry ▸ waiting', tied', fun frame' mem => ?_⟩
      rw [first] at mem
      rcases List.mem_cons.mp mem with rfl | mem
      · exact .inr ⟨other, counted⟩
      · exact .inl mem

/-- The gateway goes on: it may hear the report of the trip. -/
theorem Prospect.gateway (h : Prospect p owned cut t s seen ticks deadline)
    (mine : t.scooter = owned.scooter) (waiting : Waiting s.registry t.scooter t.trip ticks)
    (noticed : seen ≤ ticks) {c : Gateway.Choice} {x : Gateway α × Gateway.Site α}
    (step : s.gateway.step s.now s.wall s.site c = some x) :
    let s' : Ride α := { s with gateway := x.1, site := x.2 }
    Ended s'.registry cut t.trip ∨ ∃ ticks', seen ≤ ticks' ∧
      Waiting s'.registry t.scooter t.trip ticks' ∧ Prospect p owned cut t s' seen ticks' deadline := by
  intro s'
  cases h with
  | ordered attends scooter trip destination patience =>
    have hholds : Holds s.registry cut owned t ticks := holds_of_waiting mine waiting
    cases attends.gateway (Nat.le_refl 1) step with
    | stays attends' holds =>
      refine (holds hholds).stands.symm.imp_right ?_
      rintro ⟨ticks', le, waiting'⟩
      exact ⟨ticks', Nat.le_trans noticed le, waiting',
        .ordered attends' scooter trip destination patience⟩
    | frees why gateway free ends => exact .inl (ends hholds)
  | riding tied rides now_le due_le patience =>
    refine (tied.hears (Nat.zero_le _) nofun mine waiting step).imp_right ?_
    rintro ⟨ticks', flight', le, waiting', tied', heard⟩
    refine ⟨ticks', Nat.le_trans noticed le, waiting', .riding tied' rides now_le due_le ?_⟩
    rcases patience with early | lt | ⟨frame, mem, tracks⟩
    · exact .inl early
    · exact .inr (.inl (Nat.lt_of_lt_of_le lt le))
    · rcases heard frame mem with mem' | ⟨-, counted⟩
      · exact .inr (.inr ⟨frame, mem', tracks⟩)
      · exact .inr (.inl (Nat.lt_of_le_of_lt noticed (counted tracks)))
  | reported told =>
    cases told with
    | @mk flight gone frame tied rests mem ends =>
      refine (tied.hears (Nat.zero_le _) (fun _ => ⟨rfl, List.ne_nil_of_mem mem⟩) mine waiting
        step).imp_right ?_
      rintro ⟨ticks', flight', le, waiting', tied', heard⟩
      rcases heard frame mem with mem' | ⟨other, -⟩
      · exact ⟨ticks', Nat.le_trans noticed le, waiting', .reported (.mk tied' rests mem' ends)⟩
      · exact absurd ends other

/-- Time passes: not beyond the next tick, which is before the deadline. -/
theorem Prospect.clock (h : Prospect p owned cut t s seen ticks deadline) (quiet : s.isReady = false)
    (noticed : seen = ticks) {now : Millis} (le : s.now ≤ now) (alarms : ∀ a ∈ s.alarms, now ≤ a) :
    now < deadline ∧ Prospect p owned cut t { s with now } seen ticks deadline := by
  cases h with
  | ordered attends =>
    rw [attends.ready] at quiet
    cases quiet
  | @riding flight due tied rides now_le due_le patience =>
    have hflight : flight = [] := by
      by_contra nonempty
      rw [tied.ready_of_flight nonempty] at quiet
      cases quiet
    subst hflight
    have hdue : now ≤ due := by
      refine alarms due (mem_alarms_of_device ?_)
      cases hd : s.device with
      | running session due' =>
        rw [hd] at rides
        obtain ⟨on, rfl⟩ := rides
        exact if_pos on.moving
      | sending session frame more due' outcome =>
        have hunsent := tied.unsent
        rw [hd] at hunsent
        cases hunsent
      | _ =>
        rw [hd] at rides
        exact rides.elim
    -- nothing is on its way up and all is noticed, so the deadline is behind the tick
    have hearly : due + p.idleLimit ≤ deadline + p.interval := by
      rcases patience with early | lt | ⟨frame, mem, -⟩
      · exact early
      · exact absurd noticed (Nat.ne_of_lt lt)
      · cases mem
    refine ⟨lt_deadline hearly p.interval_lt_idleLimit hdue,
      .riding (tied.same ⟨rfl, rfl, rfl, id⟩ rfl) rides hdue ?_ (.inl hearly)⟩
    exact Nat.le_trans due_le (Nat.add_le_add_right le _)
  | reported told =>
    cases told with
    | mk tied rests mem ends =>
      rw [tied.ready_of_flight (List.ne_nil_of_mem mem)] at quiet
      cases quiet

end Ride
end ScooterFleet
