import ScooterFleet.Proofs.Fleet.Stride
import ScooterFleet.Proofs.Ride.Vigil

/-!
# A healthy trip is waited for

From its start to its end, a rental of a device that is attached is before its wait, in it with something
on its way that comes before the deadline, or behind it.  The device may go before it hears of the trip, when
a movement of before empties its battery at that very time; then its own connection ends the trip.

* `Ride.Healthy` — the stages, and `Healthy.device`, `Healthy.gateway`, `Healthy.wake`,
  `Healthy.proceed`, `Healthy.call`, `Healthy.world`, `Healthy.clock` — how each of the parties leaves them;
* `Fares.step`, `fares_run` — the step lemma, and the run;
* `healthy_trip` — **no trip of a device that is attached is given up**;
* `healthy_trip_cut` — one whose device goes as the rental begins.
-/

namespace ScooterFleet

open Registry

variable {α : Type}

namespace Ride

variable [Coordinate α] {p : MotionProfile α} {owned : Registration} {cut : Prop} {s s' : Ride α}

/-! ### The stages -/

/-- A rental before its wait, in it, or behind it.  In the wait the deadline is not reached.  Where the
rental was interrupted, there was a cut. -/
inductive Healthy (p : MotionProfile α) (owned : Registration) (cut : Prop) (s : Ride α) : Prop
  | preparing (phase : s.rental.phase.IsPreparing) (attends : Attends p owned cut s [])
      (holds : ∀ t ∈ s.rental.ticket?, Holds s.registry cut owned t 0)
  /-- The device has gone, and the gateway after it: the rental will find nobody to send anywhere. -/
  | stranded (why : cut) (phase : s.rental.phase.IsPreparing)
      (gateway : ∃ result, s.gateway = .finished result) (free : s.registry.owner owned.scooter = none)
      (ends : ∀ t ∈ s.rental.ticket?, Ended s.registry cut t.trip)
  | listening {d : Departure α} {start : SnapshotId} {seen ticks : Nat} {deadline : Millis}
      (phase : s.rental.phase = .waiting d start (.listening seen deadline))
      (mine : d.ticket.scooter = owned.scooter)
      (waiting : Waiting s.registry d.ticket.scooter d.ticket.trip ticks) (noticed : seen ≤ ticks)
      (inTime : s.now < deadline) (prospect : Prospect p owned cut d.ticket s seen ticks deadline)
  | ended {d : Departure α} {start : SnapshotId} {wait : Wait}
      (phase : s.rental.phase = .waiting d start wait) (ended : Ended s.registry cut d.ticket.trip)
      (inTime : s.now < wait.deadline)
  | settled (phase : s.rental.phase.IsSettled cut)

/-! ### What each party leaves of them -/

/-- The device goes on. -/
theorem Healthy.device (h : Healthy p owned cut s) (sound : p.check = .ok ()) {c : Device.Choice}
    {x : Device α × Link α} {name : TripId} (finite : s.StartsFinite (.move (.device c) name))
    (step : s.device.step s.now s.site.link c = some x) : Healthy p owned cut (s.afterDevice x) := by
  cases h with
  | preparing phase attends holds => exact .preparing phase (attends.device step fun _ => rfl) holds
  | stranded why phase gateway free ends => exact .stranded why phase gateway free ends
  | listening phase mine waiting noticed inTime prospect =>
    refine .listening phase mine waiting noticed inTime (prospect.device sound mine ?_ step)
    rintro rfl
    exact finite
  | ended phase ended inTime => exact .ended phase ended inTime
  | settled phase => exact .settled phase

/-- The gateway goes on. -/
theorem Healthy.gateway (h : Healthy p owned cut s) {c : Gateway.Choice} {x : Gateway α × Gateway.Site α}
    (step : s.gateway.step s.now s.wall s.site c = some x) :
    Healthy p owned cut { s with gateway := x.1, site := x.2 } := by
  cases h with
  | preparing phase attends holds =>
    cases attends.gateway (Nat.zero_le 1) step with
    | stays attends' holds' => exact .preparing phase attends' fun t ht => holds' (holds t ht)
    | frees why gateway free ends => exact .stranded why phase gateway free fun t ht => ends (holds t ht)
  | stranded why phase gateway =>
    obtain ⟨result, hg⟩ := gateway
    rw [hg] at step
    cases c <;> cases step
  | listening phase mine waiting noticed inTime prospect =>
    rcases prospect.gateway mine waiting noticed step with ended | ⟨ticks', noticed', waiting', prospect'⟩
    · exact .ended phase ended inTime
    · exact .listening phase mine waiting' noticed' inTime prospect'
  | ended phase ended inTime => exact .ended phase (ended.gateway step) inTime
  | settled phase => exact .settled phase

/-- Others call the registry. -/
theorem Healthy.call (h : Healthy p owned cut s) {c : Call α} (spares : s.Spares owned (.call c))
    (untaken : cut → s.LeavesFree owned (.call c)) :
    Healthy p owned cut (s.withRegistry (s.registry.perform c)) := by
  obtain ⟨session, queue, undispatched, held⟩ := spares
  have beside : Beside owned s (s.withRegistry (s.registry.perform c)) :=
    ⟨rfl, rfl, rfl, fun h => registered_perform h session queue⟩
  -- nothing is ordered of the connection, so what is on its way stays as it is
  have commands (h : Registered s.registry owned) :
      (s.registry.perform c).commands owned.connection = s.registry.commands owned.connection := by
    have horders := (h.tenant.orders queue).commands
    rwa [accepted?_of_not_sends undispatched, Option.toList_none, List.append_nil] at horders
  have leaves : ∀ t ∈ s.rental.ticket?, t.scooter = owned.scooter → c.Leaves s.registry t := by
    intro t ht hscooter
    obtain ⟨givenUp, abandoned, begun⟩ := held t ht
    exact ⟨hscooter ▸ session, ⟨givenUp, abandoned⟩, begun⟩
  cases h with
  | preparing phase attends holds =>
    exact .preparing phase (attends.same beside rfl (commands attends.registered)) fun t ht =>
      (holds t ht).perform (leaves t ht (holds t ht).mine)
  | stranded why phase gateway free ends =>
    exact .stranded why phase gateway (free_perform free (untaken why phase)) fun t ht =>
      (ends t ht).perform (held t ht).2.2
  | @listening d start seen ticks deadline phase mine waiting noticed inTime prospect =>
    have hticket : d.ticket ∈ s.rental.ticket? := by
      rw [Rental.ticket?, phase]
      rfl
    rcases waiting.perform (leaves d.ticket hticket mine) with waiting' | ended
    · have hle := Nat.le_add_right ticks (if c.counts d.ticket.scooter then 1 else 0)
      exact .listening phase mine waiting' (Nat.le_trans noticed hle) inTime
        (prospect.beside beside rfl (commands prospect.registered) hle)
    · exact .ended phase ended inTime
  | @ended d start wait phase ended inTime =>
    have hticket : d.ticket ∈ s.rental.ticket? := by
      rw [Rental.ticket?, phase]
      rfl
    exact .ended phase (ended.perform (held d.ticket hticket).2.2) inTime
  | settled phase => exact .settled phase

/-- The time of day, the store and the viewers become others. -/
theorem Healthy.world (h : Healthy p owned cut s) (wall : Timestamp) (store : Store α) (hub : Hub α) :
    Healthy p owned cut { s with wall, site.kernel := ⟨{ s.registry with hub }, store⟩ } := by
  have beside : Beside owned s { s with wall, site.kernel := ⟨{ s.registry with hub }, store⟩ } :=
    ⟨rfl, rfl, rfl, fun ⟨owner, alone, number, queue⟩ => ⟨owner, alone, number, queue⟩⟩
  cases h with
  | preparing phase attends holds =>
    exact .preparing phase (attends.same beside rfl rfl) fun t ht => (holds t ht).congr rfl rfl
  | stranded why phase gateway free ends =>
    exact .stranded why phase gateway free fun t ht => (ends t ht).congr rfl rfl
  | listening phase mine waiting noticed inTime prospect =>
    exact .listening phase mine (waiting.congr rfl rfl) noticed inTime
      (prospect.beside beside rfl rfl (Nat.le_refl _))
  | ended phase ended inTime => exact .ended phase (ended.congr rfl rfl) inTime
  | settled phase => exact .settled phase

/-- Time passes. -/
theorem Healthy.clock (h : Healthy p owned cut s) (quiet : s.isReady = false) {now : Millis}
    (le : s.now ≤ now) (alarms : ∀ a ∈ s.alarms, now ≤ a) : Healthy p owned cut { s with now } := by
  -- in all stages but one the rental itself could go on, and while it listens, what it listens for is
  -- due before the deadline
  have unready {c : Rental.Choice} (hm : .rental c ∈ moves)
      (hstep : ∃ x, s.rental.step ⟨s.now, s.wall, .ofNat 0⟩ s.terms s.site.kernel c = some x) :
      False := by
    obtain ⟨x, hx⟩ := hstep
    rw [isReady_of_go hm ⟨_, by rw [go, hx]; rfl⟩] at quiet
    cases quiet
  cases h with
  | preparing phase | stranded _ phase =>
    obtain ⟨x, hx⟩ := Rental.advance_of_preparing phase
    refine (unready (c := .proceed) (by decide) ?_).elim
    rw [Rental.step, hx]
    exact ⟨_, rfl⟩
  | @listening d start seen ticks deadline phase mine waiting noticed inTime prospect =>
    have hnoticed : seen = ticks := by
      by_contra unseen
      exact unready (c := .wake .activity) (by decide)
        (Rental.wakes_of_wait phase (Wait.activity_of_waiting waiting (Ne.symm unseen)))
    obtain ⟨inTime', prospect'⟩ := prospect.clock quiet hnoticed le alarms
    exact .listening phase mine waiting noticed inTime' prospect'
  | @ended d start wait phase ended inTime =>
    exact (unready (c := .wake .signal) (by decide)
      (Rental.wakes_of_wait phase (Wait.signal_of_ended ended))).elim
  | settled phase => exact .settled phase

/-- The wait of the rental wakes up. -/
theorem Healthy.wake (h : Healthy p owned cut s) (idle : s.terms.idle = p.idleLimit) {c : Wait.Choice}
    {name : TripId} {x : Rental α × Kernel α}
    (step : s.rental.step ⟨s.now, s.wall, name⟩ s.terms s.site.kernel (.wake c) = some x) :
    Healthy p owned cut { s with rental := x.1, site.kernel := x.2 } := by
  cases h with
  | preparing phase | stranded _ phase =>
    rw [Rental.step_of_not_waiting phase.not_waiting] at step
    cases step
  | listening phase mine waiting noticed inTime prospect =>
    rw [Rental.step_of_wait phase, Option.map_eq_some_iff] at step
    obtain ⟨⟨progress, r⟩, hwait, rfl⟩ := step
    obtain ⟨rfl, rfl⟩ := Wait.step_of_waiting waiting inTime hwait
    rw [idle]
    exact .listening rfl mine waiting (Nat.le_refl _) (p.lt_add_idleLimit s.now)
      (prospect.noticed.beside ⟨rfl, rfl, rfl, id⟩ rfl rfl (Nat.le_refl _))
  | ended phase ended inTime =>
    rw [Rental.step_of_wait phase, Option.map_eq_some_iff] at step
    obtain ⟨⟨progress, r⟩, hwait, rfl⟩ := step
    obtain ⟨rfl, ⟨signal, rfl, why⟩ | ⟨wait', rfl, deadline⟩⟩ := Wait.step_of_ended ended inTime hwait
    · exact .settled fun h => Rental.outcome_arrival why h
    · refine .ended rfl ended ?_
      rw [deadline, idle]
      exact p.lt_add_idleLimit s.now
  | settled phase =>
    rw [Rental.step_of_not_waiting phase.not_waiting] at step
    cases step

/-- The state behind a step of the rental. -/
abbrev afterRental (s : Ride α) (phase : Rental.Phase α) (kernel : Kernel α) : Ride α :=
  { s with rental := { s.rental with phase }, site.kernel := kernel }

/-- The rental prepares its trip. -/
theorem healthy_of_advance (phase : s.rental.phase.IsPreparing) (attends : Attends p owned cut s [])
    (holds : ∀ t ∈ s.rental.ticket?, Holds s.registry cut owned t 0) (idle : s.terms.idle = p.idleLimit)
    (mine : s.rental.request.scooter = owned.scooter) {name : TripId} {phase' : Rental.Phase α}
    {k' : Kernel α} (spares : s.Spares owned (.move (.rental .proceed) name))
    (finite : s.StartsFinite (.move (.rental .proceed) name))
    (step : Rental.advance ⟨s.now, s.wall, name⟩ s.terms s.site.kernel s.rental.request s.rental.phase =
      some (phase', k')) : Healthy p owned cut (s.afterRental phase' k') := by
  have hregistered := attends.registered
  have beside (h : Registered (s.afterRental phase' k').registry owned) :
      Beside owned s (s.afterRental phase' k') :=
    ⟨rfl, rfl, rfl, fun _ => h⟩
  cases Rental.readies_of_advance phase step with
  | prepares preparing ticket registry =>
    have hregistry : (s.afterRental phase' k').registry = s.registry := registry
    refine .preparing preparing
      (attends.same (beside (hregistry ▸ hregistered)) rfl (by rw [hregistry])) fun t ht => ?_
    rw [hregistry]
    exact holds t (ticket ▸ ht)
  | @claims t preparing ticket granted =>
    have hperform : (s.afterRental phase' k').registry =
        s.registry.perform (.begin s.rental.request.scooter name) := by
      show k'.registry = s.site.kernel.registry.perform _
      simp only [perform, granted]
    obtain ⟨rfl, waiting⟩ := waiting_of_unused granted
      (fun _ pending hpending => spares.2 pending (Table.mem_values_of_get? hpending)) spares.1
    have hattends := attends.beside (beside (hperform ▸ registered_perform hregistered id id)) rfl
      (hperform ▸ (hregistered.tenant.orders id).commands)
    refine .preparing preparing hattends fun t ht => ?_
    obtain rfl : _ = t := Option.some.inj (ticket.symm.trans ht)
    rw [hperform]
    exact holds_of_waiting mine waiting
  | @dispatches d start before after taken =>
    have hperform : (s.afterRental phase' k').registry = s.registry.perform
        (.dispatch s.rental.request.scooter d.station.position (some d.ticket.trip)) := by
      show k'.registry = s.site.kernel.registry.perform _
      simp only [perform, taken]
    have haccepted : s.registry.accepted? owned
        (.dispatch s.rental.request.scooter d.station.position (some d.ticket.trip)) =
        some ⟨owned.scooter, d.station.position, some d.ticket.trip⟩ := by
      have htaken : s.registry.dispatch s.rental.request.scooter _ _ = .ok _ := taken
      simp only [accepted?, htaken]
      rw [mine, if_pos hregistered.owner]
    have hattends := attends.beside (beside (hperform ▸ registered_perform hregistered id id)) rfl
      (hperform ▸ (hregistered.tenant.orders id).commands)
    -- the command is on its way from now on, whether the trip is pending still or not
    rw [haccepted] at hattends
    have hheld : d.ticket ∈ s.rental.ticket? := by
      rw [Rental.ticket?, before]
      rfl
    have hholds := (holds d.ticket hheld).perform
      (Call.leaves_dispatch s.rental.request.scooter d.station.position (some d.ticket.trip) _ _)
    rw [← hperform] at hholds
    have hlater : s.now < s.now + s.terms.idle := by
      rw [idle]
      exact p.lt_add_idleLimit s.now
    have hfinite : d.station.position.isFinite = true := by
      simp only [StartsFinite, before] at finite
      exact finite
    obtain ⟨hscooter, ⟨ticks, -, waiting⟩ | ended⟩ := hholds
    · exact .listening after hscooter waiting (Nat.zero_le _) hlater
        (.ordered hattends rfl rfl hfinite (idle ▸ Nat.le_refl _))
    · exact .ended after ended hlater
  | fails settled => exact .settled (settled cut)

/-- Where the device has gone, the rental prepares its trip in vain. -/
theorem stranded_of_advance (why : cut) (phase : s.rental.phase.IsPreparing)
    (gateway : ∃ result, s.gateway = .finished result) (free : s.registry.owner owned.scooter = none)
    (ends : ∀ t ∈ s.rental.ticket?, Ended s.registry cut t.trip)
    (mine : s.rental.request.scooter = owned.scooter) {m : Rental.Moment} {phase' : Rental.Phase α}
    {k' : Kernel α} (step : Rental.advance m s.terms s.site.kernel s.rental.request s.rental.phase =
      some (phase', k')) : Healthy p owned cut (s.afterRental phase' k') := by
  rw [← mine] at free
  cases Rental.readies_of_advance phase step with
  | prepares preparing ticket registry =>
    have hregistry : (s.afterRental phase' k').registry = s.registry := registry
    refine .stranded why preparing gateway (hregistry ▸ mine ▸ free) fun t ht => ?_
    rw [hregistry]
    exact ends t (ticket ▸ ht)
  | claims preparing ticket granted => exact absurd granted (begin_ne_ok free _ _)
  | dispatches before after taken => exact absurd taken (dispatch_ne_ok free _ _ _)
  | fails settled => exact .settled (settled cut)

/-- The rental goes on before its wait or behind it. -/
theorem Healthy.proceed (h : Healthy p owned cut s) (idle : s.terms.idle = p.idleLimit)
    (mine : s.rental.request.scooter = owned.scooter) {name : TripId} {x : Rental α × Kernel α}
    (spares : s.Spares owned (.move (.rental .proceed) name))
    (finite : s.StartsFinite (.move (.rental .proceed) name))
    (step : s.rental.step ⟨s.now, s.wall, name⟩ s.terms s.site.kernel .proceed = some x) :
    Healthy p owned cut { s with rental := x.1, site.kernel := x.2 } := by
  obtain ⟨⟨phase', k'⟩, hadvance, rfl⟩ := Option.map_eq_some_iff.mp step
  show Healthy p owned cut (s.afterRental phase' k')
  cases h with
  | preparing phase attends holds =>
    exact healthy_of_advance phase attends holds idle mine spares finite hadvance
  | stranded why phase gateway free ends =>
    exact stranded_of_advance why phase gateway free ends mine hadvance
  | listening phase | ended phase =>
    rw [phase] at hadvance
    cases hadvance
  | settled phase => exact .settled (Rental.settled_of_advance phase hadvance)

/-! ### Runs -/

/-- What stays through a run, and a rental that is healthy. -/
structure Fares (p : MotionProfile α) (owned : Registration) (cut : Prop) (s : Ride α) : Prop where
  idle : s.terms.idle = p.idleLimit
  mine : s.rental.request.scooter = owned.scooter
  healthy : Healthy p owned cut s

/-- **The step lemma: whoever goes on, and however time passes, the rental is healthy.** -/
theorem Fares.step (h : Fares p owned cut s) (sound : p.check = .ok ()) {e : Event α}
    (spares : s.Spares owned e) (untaken : cut → s.LeavesFree owned e)
    (finite : s.StartsFinite e) (step : s.step e = some s') :
    Fares p owned cut s' := by
  obtain ⟨idle, mine, healthy⟩ := h
  cases e with
  | move m name =>
    cases m with
    | device c =>
      obtain ⟨x, hx, rfl⟩ := Option.map_eq_some_iff.mp step
      exact ⟨idle, mine, healthy.device sound finite hx⟩
    | gateway c =>
      obtain ⟨x, hx, rfl⟩ := Option.map_eq_some_iff.mp step
      exact ⟨idle, mine, healthy.gateway hx⟩
    | rental c =>
      obtain ⟨x, hx, rfl⟩ := Option.map_eq_some_iff.mp step
      have hrequest := (Rental.stride_of_step 0 hx).1
      refine ⟨idle, (congrArg RentalRequest.scooter hrequest).trans mine, ?_⟩
      cases c with
      | proceed => exact healthy.proceed idle mine spares finite hx
      | wake c => exact healthy.wake idle hx
  | call c =>
    cases step
    exact ⟨idle, mine, healthy.call spares untaken⟩
  | world wall store hub =>
    cases step
    exact ⟨idle, mine, healthy.world wall store hub⟩
  | clock now =>
    simp only [Ride.step] at step
    split at step
    · next passes =>
      cases step
      exact ⟨idle, mine, healthy.clock passes.1 passes.2.1 passes.2.2⟩
    · cases step

/-- The run. -/
theorem fares_run (sound : p.check = .ok ()) {events : List (Event α)} (h : Fares p owned cut s)
    (spares : ∀ x ∈ s.trail events, x.1.Spares owned x.2)
    (untaken : cut → ∀ x ∈ s.trail events, x.1.LeavesFree owned x.2)
    (finite : ∀ x ∈ s.trail events, x.1.StartsFinite x.2) (run : s.run events = some s') :
    Fares p owned cut s' := by
  induction events generalizing s with
  | nil =>
    cases run
    exact h
  | cons e events ih =>
    rw [run_cons] at run
    obtain ⟨s₁, hstep, hrun⟩ := Option.bind_eq_some_iff.mp run
    have htrail : s.trail (e :: events) = (s, e) :: s₁.trail events := by
      rw [trail, hstep]
      rfl
    rw [htrail, List.forall_mem_cons] at spares finite untaken
    exact ih (h.step sound spares.1 (fun why => (untaken why).1) finite.1 hstep) spares.2
      (fun why => (untaken why).2) finite.2 hrun

/-- The wait of a healthy rental does not give up. -/
theorem Healthy.not_expiry (h : Healthy p owned cut s) (name : TripId) :
    s.go name (.rental (.wake .expiry)) = none := by
  have of_wait {d : Departure α} {start : SnapshotId} {wait : Wait}
      (phase : s.rental.phase = .waiting d start wait) (inTime : s.now < wait.deadline) :
      s.go name (.rental (.wake .expiry)) = none := by
    simp only [go, Rental.step_of_wait phase, Wait.step, Wait.not_mayExpire inTime]
    rfl
  have of_no_wait (other : ∀ d start wait, s.rental.phase ≠ .waiting d start wait) :
      s.go name (.rental (.wake .expiry)) = none := by
    simp only [go, Rental.step_of_not_waiting other, Option.map_none]
  cases h with
  | preparing phase | stranded _ phase => exact of_no_wait phase.not_waiting
  | listening phase mine waiting noticed inTime => exact of_wait phase inTime
  | ended phase ended inTime => exact of_wait phase inTime
  | settled phase => exact of_no_wait phase.not_waiting

/-- Where a healthy rental that ends well was interrupted, there was a cut. -/
theorem Healthy.outcome (h : Healthy p owned cut s) {trip : Trip α}
    (done : s.rental.phase = .finished (.ok trip)) (interrupted : trip.outcome = .interrupted) : cut := by
  cases h with
  | settled phase =>
    rw [done] at phase
    exact phase interrupted
  | preparing phase | stranded _ phase =>
    rw [done] at phase
    exact phase.elim
  | listening phase | ended phase =>
    rw [done] at phase
    cases phase

/-- The start is healthy.  The cut is that the battery runs out with a tick that is due already. -/
theorem fares_start (now : Millis) (wall : Timestamp) (kernel : Kernel α) (buffer : Nat)
    (due : Millis) {terms : RentalTerms α} {session : Session α} {request : RentalRequest}
    (idle : terms.idle = session.profile.idleLimit) (registered : Registered kernel.registry owned)
    (empty : kernel.registry.commands owned.connection = []) (device : session.scooter = owned.scooter)
    (mine : request.scooter = owned.scooter) :
    Fares session.profile owned (session.RunsOut due now)
      (.start now wall terms kernel buffer session due owned request) := by
  have room : 0 < max buffer 1 := Nat.lt_of_lt_of_le Nat.one_pos (Nat.le_max_right buffer 1)
  have tied : Tied owned (.start now wall terms kernel buffer session due owned request) [] [] false :=
    .mk [] [] room rfl rfl registered trivial empty.symm rfl
  exact ⟨idle, mine, .preparing trivial (.lingers tied ⟨device, rfl, id⟩) nofun⟩

/-- **A healthy trip is never given up.**  A device is attached over an in-process link whose two
directions are empty, as is the queue of its commands; it is at rest or in a movement of before, and its
profile is valid, with any interval.  A rental of its scooter begins, under the idle limit that the
profile gives where no other is set.  Device, gateway and rental go on in any order, others call the
registry in between, store and viewers become any others, and time passes when none of the three can go
on, never beyond an alarm.  Nobody else removes the session, takes the slot of a device that has gone, or
makes a dispatch to it, and the trip's movement starts with what is finite.  Then, after any number of
events, the wait of the rental cannot give up; and if the rental has ended well, the trip has arrived or
its battery is empty.

There is one exception.  A movement of before may empty the battery with a tick that is due when the rental
begins.  The device may go then before it hears of the trip, and its own connection removes the session: the
trip is interrupted, though not by its silence, as long as nobody else takes the free slot before the
wait. -/
theorem healthy_trip (now : Millis) (wall : Timestamp) (kernel : Kernel α) (buffer : Nat)
    (due : Millis) {terms : RentalTerms α} {session : Session α} {request : RentalRequest}
    (idle : terms.idle = session.profile.idleLimit) (sound : session.profile.check = .ok ())
    (registered : Registered kernel.registry owned)
    (empty : kernel.registry.commands owned.connection = []) (device : session.scooter = owned.scooter)
    (mine : request.scooter = owned.scooter) {events : List (Event α)}
    (spares : ∀ x ∈ (start now wall terms kernel buffer session due owned request).trail events,
      x.1.Spares owned x.2)
    (untaken : session.RunsOut due now →
      ∀ x ∈ (start now wall terms kernel buffer session due owned request).trail events,
        x.1.LeavesFree owned x.2)
    (finite : ∀ x ∈ (start now wall terms kernel buffer session due owned request).trail events,
      x.1.StartsFinite x.2)
    (run : (start now wall terms kernel buffer session due owned request).run events = some s) :
    (∀ name, s.go name (.rental (.wake .expiry)) = none) ∧
      ∀ trip, s.rental.result? = some (.ok trip) →
        trip.outcome = .arrived ∨ trip.outcome = .batteryDepleted ∨
          trip.outcome = .interrupted ∧ session.RunsOut due now := by
  have hstart := fares_start now wall kernel buffer due idle registered empty device mine
  obtain ⟨-, -, healthy⟩ := fares_run sound hstart spares untaken finite run
  refine ⟨healthy.not_expiry, fun trip done => ?_⟩
  have hphase : s.rental.phase = .finished (.ok trip) := by
    unfold Rental.result? at done
    split at done
    · next hp => rw [hp, Option.some.inj done]
    · cases done
  cases houtcome : trip.outcome with
  | arrived => exact .inl rfl
  | batteryDepleted => exact .inr (.inl rfl)
  | interrupted => exact .inr (.inr ⟨rfl, healthy.outcome hphase houtcome⟩)

/-! ### Two rides -/

/-- A run at whose end the rental has ended well. -/
theorem exists_run_of_trip {events : List (Event α)} {trip : Trip α}
    (h : ((s.run events).bind fun s' => s'.rental.result?.bind Except.toOption) = some trip) :
    ∃ s', s.run events = some s' ∧ s'.rental.result? = some (.ok trip) := by
  obtain ⟨s', run, hresult⟩ := Option.bind_eq_some_iff.mp h
  obtain ⟨result, done, hok⟩ := Option.bind_eq_some_iff.mp hresult
  cases result with
  | error fault => cases hok
  | ok trip' =>
    cases hok
    exact ⟨s', run, done⟩

/-- A scooter on its way, outside of any trip. -/
def roamer : Session Float :=
  ⟨1, ⟨0, 0⟩, 80, .usual, some (.start ⟨0, 0⟩ ⟨0.01, 0⟩ 80 .usual), none⟩

/-- A rental of this scooter, to a station two steps from where it is. -/
def roaming : Ride Float :=
  let noon : Timestamp := ⟨2024, 5, 1, 12, 0, 0, 0, 0⟩
  let store : Store Float :=
    .seeded [⟨1, "Segway", ⟨0, 0⟩, 80, none⟩] [⟨3, "Central", true, ⟨0.0002, 0⟩⟩]
  start 0 noon ⟨0.1, 10000⟩ ⟨((Registry.create (.create 8)).claim noon 1).2, store⟩ 32 roamer 450 ⟨1, 0⟩
    ⟨1, 3, 5⟩

theorem registered_roaming : Registered roaming.registry ⟨1, 0⟩ :=
  registered_of_grant (h := []) (c := .register ⟨2024, 5, 1, 12, 0, 0, 0, 0⟩ 1) rfl

/-- The device is redirected before its first tick, and reports its arrival with the second one.  Another
device registers in between. -/
def diverted : List (Event Float) :=
  let noon : Timestamp := ⟨2024, 5, 1, 12, 0, 0, 0, 0⟩
  let moves (ms : List Move) : List (Event Float) := ms.map fun m => .move m (.ofNat 2)
  let up : List Move := [.gateway .inbound, .gateway .proceed]
  moves [.rental .proceed, .rental .proceed] ++ [.move (.rental .proceed) (.ofNat 1)] ++
    moves [.rental .proceed, .rental .proceed, .rental .proceed] ++ [.call (.register noon 2)] ++
    moves [.gateway .command, .gateway .proceed, .device .receive] ++ [.clock 450] ++
    moves ([.device .tick, .device .send] ++ up ++ [.rental (.wake .activity)]) ++ [.clock 900] ++
    moves ([.device .tick, .device .send, .device .send] ++ up ++ up ++
      [.rental (.wake .signal), .rental .proceed, .rental .proceed, .rental .proceed])

theorem healthy_trip_diverted :
    ∃ s trip, roaming.run diverted = some s ∧ s.rental.result? = some (.ok trip) ∧ s.now = 900 ∧
      (∀ name, s.go name (.rental (.wake .expiry)) = none) ∧
      (trip.outcome = .arrived ∨ trip.outcome = .batteryDepleted ∨
        trip.outcome = .interrupted ∧ roamer.RunsOut 450 0) := by
  have spares : ∀ x ∈ roaming.trail diverted, x.1.Spares ⟨1, 0⟩ x.2 := by decide +kernel
  have untaken : ∀ x ∈ roaming.trail diverted, x.1.LeavesFree ⟨1, 0⟩ x.2 := by decide +kernel
  have finite : ∀ x ∈ roaming.trail diverted, x.1.StartsFinite x.2 := by decide +kernel
  have hnow : (roaming.run diverted).map Ride.now = some 900 := by decide +kernel
  have hdone : ((roaming.run diverted).bind fun s => s.rental.result?.bind Except.toOption).isSome =
      true := by decide +kernel
  obtain ⟨trip, htrip⟩ := Option.isSome_iff_exists.mp hdone
  obtain ⟨s, run, done⟩ := exists_run_of_trip htrip
  rw [run] at hnow
  obtain ⟨patient, outcome⟩ := healthy_trip 0 ⟨2024, 5, 1, 12, 0, 0, 0, 0⟩ roaming.site.kernel 32 450
    rfl (by decide +kernel) registered_roaming rfl rfl rfl spares (fun _ => untaken) finite run
  exact ⟨s, trip, run, done, Option.some.inj hnow, patient, outcome trip done⟩

/-- A scooter on its way, outside of any trip, whose battery lasts for one tick more. -/
def fader : Session Float :=
  ⟨1, ⟨0, 0⟩, 0.1, .usual, some (.start ⟨0, 0⟩ ⟨0.01, 0⟩ 0.1 .usual), none⟩

/-- A rental of this scooter that begins when the tick is due. -/
def fading : Ride Float :=
  { roaming with now := 450, device := .running fader 450 }

/-- The rental makes its dispatch.  The device ticks, reports that its battery is empty, and goes; its
gateway hears that, and goes as well. -/
def departed : List (Event Float) :=
  let moves (ms : List Move) : List (Event Float) := ms.map fun m => .move m (.ofNat 2)
  let up : List Move := [.gateway .inbound, .gateway .proceed]
  moves [.rental .proceed, .rental .proceed] ++ [.move (.rental .proceed) (.ofNat 1)] ++
    moves ([.rental .proceed, .rental .proceed, .rental .proceed] ++
      [.device .tick, .device .send, .device .send] ++ up ++ up ++ up ++
      [.rental (.wake .signal), .rental .proceed, .rental .proceed, .rental .proceed])

/-- **The exception is real**: all is as `healthy_trip` has it, the rental ends well, and its trip was
interrupted. -/
theorem healthy_trip_cut :
    fading = start 450 roaming.wall roaming.terms roaming.site.kernel 32 fader 450 ⟨1, 0⟩ ⟨1, 3, 5⟩ ∧
      roaming.terms.idle = fader.profile.idleLimit ∧ fader.profile.check = .ok () ∧
      Registered roaming.registry ⟨1, 0⟩ ∧ roaming.registry.commands 0 = [] ∧ fader.scooter = 1 ∧
      (∀ x ∈ fading.trail departed, x.1.Spares ⟨1, 0⟩ x.2) ∧
      (∀ x ∈ fading.trail departed, x.1.LeavesFree ⟨1, 0⟩ x.2) ∧
      (∀ x ∈ fading.trail departed, x.1.StartsFinite x.2) ∧
      ∃ s trip, fading.run departed = some s ∧ s.rental.result? = some (.ok trip) ∧
        trip.outcome = .interrupted := by
  have hdone : ((fading.run departed).bind fun s =>
      s.rental.result?.bind Except.toOption).map Trip.outcome = some .interrupted := by decide +kernel
  obtain ⟨trip, htrip, houtcome⟩ := Option.map_eq_some_iff.mp hdone
  obtain ⟨s, run, done⟩ := exists_run_of_trip htrip
  exact ⟨rfl, rfl, by decide +kernel, registered_roaming, rfl, rfl, by decide +kernel,
    by decide +kernel, by decide +kernel, s, trip, run, done, houtcome⟩

end Ride
end ScooterFleet
