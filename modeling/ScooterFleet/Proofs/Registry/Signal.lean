import ScooterFleet.Kernel.Wait
import ScooterFleet.Proofs.Registry.Trip

/-!
# From the registry to the waiter

One ticket, its waiter, the clock and everybody else who calls the registry, in any order.

* `Scene` / `Scene.step` — the waiter's wake-ups between the calls of others;
* `Sends` — a call that sends the waiter a signal: a report that is taken, or a removal;
* `scene_step` — until then the trip is pending, and nothing ends the wait but its deadline;
* `resolution_reaches_waiter` — **the signal that was sent is the one that is returned**, except by a
  wake-up that sees the deadline of its silence before it sees the signal.

The exception is real (`signal_lost_at_deadline`): where several wake-ups are due at once, a listening
waiter may take any of them, and one that takes its deadline gives up a trip that has left the table.
-/

namespace ScooterFleet

/-- **A wake-up leaves the registry as it is, but for the deadline, which gives the trip up.** -/
theorem Wait.step_cases {α : Type} {now idle : Millis} {r r' : Registry α} {t : Ticket} {w : Wait}
    {c : Wait.Choice} {p : Wait.Progress α} (h : w.step now idle r t c = some (p, r')) :
    (∃ resolution, c = .signal ∧ r.resolutions.get? t.trip = some resolution ∧ r' = r ∧
        p = .done resolution.signal) ∨
      (∃ v, c = .activity ∧ r' = r ∧ p = .waiting v) ∨
      (c = .expiry ∧ w.mayExpire now r t = true ∧ r' = r.abandon t ∧ p = .done (r.lostSignal t)) := by
  cases c with
  | signal =>
    simp only [Wait.step, Option.map_eq_some_iff, Prod.mk.injEq] at h
    obtain ⟨resolution, hr, rfl, rfl⟩ := h
    exact .inl ⟨resolution, rfl, hr, rfl, rfl⟩
  | activity =>
    refine .inr (.inl ?_)
    unfold Wait.step at h
    grind
  | expiry =>
    simp only [Wait.step, Registry.giveUp] at h
    split at h
    · next hm =>
      cases h
      exact .inr (.inr ⟨rfl, hm, rfl, rfl⟩)
    · cases h

/-! ### The wait before its deadline -/

namespace Wait

open Registry

variable {α : Type} {now idle : Millis} {r r' : Registry α} {t : Ticket} {c : Choice}
  {progress : Progress α}

/-- A wait does not expire before its deadline. -/
theorem not_mayExpire {w : Wait} (inTime : now < w.deadline) : w.mayExpire now r t = false := by
  have hlate : ¬ w.deadline ≤ now := Nat.not_le.mpr inTime
  cases w with
  | listening seen deadline => exact decide_eq_false hlate
  | draining deadline =>
    have hfalse : decide (deadline ≤ now) = false := decide_eq_false hlate
    simp only [mayExpire, hfalse, Bool.false_and]

/-- While the trip is pending, a wait only notices its positions. -/
theorem step_of_waiting {seen ticks : Nat} {deadline : Millis}
    (waiting : Waiting r t.scooter t.trip ticks) (inTime : now < deadline)
    (h : (listening seen deadline).step now idle r t c = some (progress, r')) :
    progress = .waiting (.listening ticks (now + idle)) ∧ r' = r := by
  cases c with
  | signal =>
    simp only [step, waiting.silent, Option.map_none] at h
    cases h
  | activity =>
    have hticks : ticksOf r t = some ticks := by simp only [ticksOf, waiting.pending, if_true]
    have hpending : r.isPending t = true := isPending_of_get? waiting.pending
    simp only [step, hticks, hpending, if_true] at h
    split at h <;> cases h
    exact ⟨rfl, rfl⟩
  | expiry =>
    have hstays : (listening seen deadline).mayExpire now r t = false := not_mayExpire inTime
    simp only [step, hstays] at h
    cases h

/-- A position that is not noticed yet wakes the wait. -/
theorem activity_of_waiting {seen ticks : Nat} {deadline : Millis}
    (waiting : Waiting r t.scooter t.trip ticks) (unseen : ticks ≠ seen) :
    ∃ x, (listening seen deadline).step now idle r t .activity = some x := by
  have hticks : ticksOf r t = some ticks := by simp only [ticksOf, waiting.pending, if_true]
  simp only [step, hticks, if_pos unseen]
  exact ⟨_, rfl⟩

/-- A wait that has noticed all positions of a pending trip has nothing to notice. -/
theorem activity_of_noticed {ticks : Nat} {deadline : Millis}
    (waiting : Waiting r t.scooter t.trip ticks) :
    (listening ticks deadline).step now idle r t .activity = none := by
  have hticks : ticksOf r t = some ticks := by simp only [ticksOf, waiting.pending, if_true]
  have hpending : r.isPending t = true := isPending_of_get? waiting.pending
  simp only [step, hticks, hpending, ne_eq, not_true_eq_false, if_false, if_true]

/-- When the signal has been sent, a wait takes it, or goes on waiting for as long as ever. -/
theorem step_of_gone {signal : TripSignal α} {w : Wait} (gone : Gone r t.trip (some signal))
    (inTime : now < w.deadline) (h : w.step now idle r t c = some (progress, r')) :
    r' = r ∧ (progress = .done signal ∨
      ∃ w', progress = .waiting w' ∧ w'.deadline = now + idle) := by
  cases c with
  | signal =>
    simp only [step, Option.map_eq_some_iff, Prod.mk.injEq] at h
    obtain ⟨resolution, hr, rfl, rfl⟩ := h
    have hsent := gone.sent
    rw [hr, Option.map_some, Option.some.injEq] at hsent
    exact ⟨rfl, .inl (by rw [hsent])⟩
  | activity =>
    cases w with
    | draining deadline => cases h
    | listening seen deadline =>
      simp only [step] at h
      split at h
      · cases h
        exact ⟨rfl, .inr ⟨_, rfl, rfl⟩⟩
      · split at h
        · cases h
          exact ⟨rfl, .inr ⟨_, rfl, rfl⟩⟩
        · split at h <;> cases h
          exact ⟨rfl, .inr ⟨_, rfl, rfl⟩⟩
  | expiry =>
    simp only [step, not_mayExpire inTime] at h
    cases h

/-- The signal wakes the wait. -/
theorem signal_step_of_gone {signal : TripSignal α} (gone : Gone r t.trip (some signal)) (w : Wait) :
    w.step now idle r t .signal = some (.done signal, r) := by
  obtain ⟨resolution, hr, rfl⟩ := Option.map_eq_some_iff.mp gone.sent
  simp [step, hr]

end Wait

namespace Waiter

open Registry

variable {α : Type}

/-- What happens around a ticket. -/
inductive Event (α : Type) where
  /-- A call of anybody else. -/
  | call (c : Call α)
  | clock (now : Millis)
  /-- The holder of the ticket begins to wait. -/
  | start
  | wake (choice : Wait.Choice)
  deriving DecidableEq

/-- A ticket's surroundings; the waiter is there once the wait has begun. -/
structure Scene (α : Type) where
  now : Millis
  registry : Registry α
  waiter : Option (Waiter α)

/-- The ticket is its holder's alone, and the trip's name nobody else's. -/
def Event.Foreign (t : Ticket) : Event α → Prop
  | .call c => c.begun? ≠ some t.trip ∧ c ≠ .giveUp t ∧ c ≠ .abandon t
  | _ => True

namespace Scene

variable (idle : Millis) (t : Ticket)

/-- One event; none if it is not enabled. -/
def step (s : Scene α) : Event α → Option (Scene α)
  | .call c => some { s with registry := s.registry.perform c }
  | .clock now => if s.now ≤ now then some { s with now } else none
  | .start =>
    match s.waiter with
    | none => some { s with waiter := some (.waiting (.start s.now idle)) }
    | some _ => none
  | .wake choice =>
    match s.waiter with
    | none => none
    | some w => (w.step s.now idle s.registry t choice).map fun (w, registry) =>
      { s with registry, waiter := some w }

/-- Any number of events, the first one first. -/
def run (s : Scene α) : List (Event α) → Option (Scene α)
  | [] => some s
  | e :: es => (s.step idle t e).bind fun s => s.run es

/-- The wait has not ended. -/
def IsOpen (s : Scene α) : Prop := ∀ signal, s.waiter ≠ some (.finished signal)

end Scene

/-- A call that sends a ticket's waiter a signal: a report of the trip that is taken, or the removal of
the session while the trip is pending. -/
inductive Sends (r : Registry α) (t : Ticket) : Call α → TripSignal α → Prop
  | report {time : Timestamp} {report : TripReport α} (scooter : report.scooter = t.scooter)
      (own : report.trip = some t.trip) (taken : (r.tripEnded time report).1 = true) :
      Sends r t (.tripEnded time report) (.ended report)
  | removal {c : Call α} {n : Nat} (removes : c.Removes r t.scooter)
      (pending : r.trips.get? t.scooter = some ⟨t.trip, n⟩) :
      Sends r t c (.interrupted n (r.lastPosition t.scooter))

theorem Sends.pending {r : Registry α} {t : Ticket} {c : Call α} {signal : TripSignal α}
    (h : Sends r t c signal) : ∃ p, r.trips.get? t.scooter = some p ∧ p.trip = t.trip := by
  cases h with
  | @report time report scooter own taken =>
    by_cases hp : ∃ p, r.trips.get? report.scooter = some p ∧ report.trip = some p.trip
    · obtain ⟨p, hp, ht⟩ := hp
      rw [scooter] at hp
      exact ⟨p, hp, Option.some.inj (ht.symm.trans own)⟩
    · rw [tripEnded_of_stray fun p hp' ht => hp ⟨p, hp', ht⟩] at taken
      cases taken
  | removal removes pending => exact ⟨_, pending, rfl⟩

/-! ### Before the signal -/

/-- The trip is pending and its waiter waits, or the trip has left. -/
inductive Watched (t : Ticket) (s : Scene α) : Prop
  | waits (n : Nat) (waiting : Waiting s.registry t.scooter t.trip n)
      (connected : s.registry.isConnected t.scooter = true) (isOpen : s.IsOpen)
  | left (signal : Option (TripSignal α)) (gone : Gone s.registry t.trip signal)

/-- What a wake-up of a waiter leaves. -/
theorem wake_cases {now idle : Millis} {r r' : Registry α} {t : Ticket} {w : Wait} {c : Wait.Choice}
    {w' : Waiter α} (h : (Waiter.waiting w).step now idle r t c = some (w', r')) :
    (∃ resolution, c = .signal ∧ r.resolutions.get? t.trip = some resolution ∧ r' = r ∧
        w' = .finished resolution.signal) ∨
      (∃ v, c = .activity ∧ r' = r ∧ w' = .waiting v) ∨
      (c = .expiry ∧ w.mayExpire now r t = true ∧ r' = r.abandon t ∧
        w' = .finished (r.lostSignal t)) := by
  simp only [Waiter.step, Option.map_eq_some_iff, Prod.exists] at h
  obtain ⟨p, r₁, hstep, h⟩ := h
  rcases Wait.step_cases hstep with ⟨resolution, rfl, hr, rfl, rfl⟩ | ⟨v, rfl, rfl, rfl⟩ |
    ⟨rfl, hm, rfl, rfl⟩
  · cases h
    exact .inl ⟨resolution, rfl, hr, rfl, rfl⟩
  · cases h
    exact .inr (.inl ⟨v, rfl, rfl, rfl⟩)
  · cases h
    exact .inr (.inr ⟨rfl, hm, rfl, rfl⟩)

theorem gone_abandon_of_gone {r : Registry α} {t : Ticket} {signal : Option (TripSignal α)}
    (h : Gone r t.trip signal) : r.abandon t = r :=
  abandon_of_not_pending (h.not_pending t.scooter)

/-- **One event, before the signal.**  Only its deadline ends the wait for a pending trip. -/
theorem scene_step {idle : Millis} {t : Ticket} {s s' : Scene α} {e : Event α}
    (h : Watched t s) (he : e.Foreign t) (hs : s.step idle t e = some s') : Watched t s' := by
  cases e with
  | call c =>
    cases hs
    cases h with
    | waits n waiting connected isOpen =>
      rcases waiting_perform waiting he.1 with stays | ⟨signal, -, gone⟩
      · exact .waits _ stays (connected_perform (fun _ _ => connected) _ stays.pending) isOpen
      · exact .left signal gone
    | left signal gone => exact .left signal (gone_perform gone he.1)
  | clock now =>
    simp only [Scene.step] at hs
    split at hs
    · cases hs
      cases h with
      | waits n waiting connected isOpen => exact .waits n waiting connected isOpen
      | left signal gone => exact .left signal gone
    · cases hs
  | start =>
    simp only [Scene.step] at hs
    split at hs
    · cases hs
      cases h with
      | waits n waiting connected isOpen => exact .waits n waiting connected nofun
      | left signal gone => exact .left signal gone
    · cases hs
  | wake choice =>
    simp only [Scene.step] at hs
    split at hs
    · cases hs
    · next w hw =>
      simp only [Option.map_eq_some_iff, Prod.exists] at hs
      obtain ⟨w', r', hstep, rfl⟩ := hs
      cases w with
      | finished signal => cases hstep
      | waiting w =>
        rcases wake_cases hstep with ⟨res, -, hres, rfl, rfl⟩ | ⟨v, -, rfl, rfl⟩ | ⟨-, -, rfl, rfl⟩
        · cases h with
          | waits n waiting connected isOpen =>
            rw [waiting.silent] at hres
            cases hres
          | left signal gone => exact .left signal gone
        · cases h with
          | waits n waiting connected isOpen => exact .waits n waiting connected nofun
          | left signal gone => exact .left signal gone
        · cases h with
          | waits n waiting connected isOpen => exact .left none waiting.gone_of_abandon
          | left signal gone =>
            refine .left signal ?_
            rw [gone_abandon_of_gone gone]
            exact gone

theorem scene_run {idle : Millis} {t : Ticket} {s s' : Scene α} {es : List (Event α)}
    (h : Watched t s) (he : ∀ e ∈ es, e.Foreign t) (hs : s.run idle t es = some s') :
    Watched t s' := by
  induction es generalizing s with
  | nil =>
    cases hs
    exact h
  | cons e es ih =>
    simp only [Scene.run, Option.bind_eq_some_iff] at hs
    obtain ⟨s₁, hstep, hs⟩ := hs
    exact ih (scene_step h (he e (List.mem_cons_self ..)) hstep)
      (fun e' he' => he e' (List.mem_cons_of_mem _ he')) hs

/-- What is sent is what the waiter finds. -/
theorem gone_of_sends {r : Registry α} {t : Ticket} {c : Call α} {signal : TripSignal α} {n : Nat}
    (h : Waiting r t.scooter t.trip n) (connected : r.isConnected t.scooter = true)
    (sends : Sends r t c signal) : Gone (r.perform c) t.trip (some signal) := by
  cases sends with
  | @report time report scooter own taken => exact (h.gone_of_report scooter own time).2
  | removal removes pending =>
    rw [h.pending] at pending
    cases pending
    exact h.gone_of_removes connected removes

/-! ### After the signal -/

/-- How a wait stands, some events after its signal was sent in `s₁`. -/
inductive Verdict (idle : Millis) (t : Ticket) (s₁ : Scene α) (es : List (Event α))
    (signal : TripSignal α) (s : Scene α) : Prop
  /-- The wait goes on, and the signal is there to end it. -/
  | waits (punctual : .wake .expiry ∉ es) (isOpen : s.IsOpen)
      (there : ∀ w : Wait,
        w.step s.now idle s.registry t .signal = some (.done signal, s.registry))
  | returned (punctual : .wake .expiry ∉ es) (finished : s.waiter = some (.finished signal))
  /-- A waiter that was listening saw that its deadline had passed, and not the signal. -/
  | overslept (early late : List (Event α)) (s₂ : Scene α) (seen : Nat) (deadline : Millis)
      (split : es = early ++ .wake .expiry :: late) (run : s₁.run idle t early = some s₂)
      (listening : s₂.waiter = some (.waiting (.listening seen deadline)))
      (silent : deadline ≤ s₂.now)
      (finished : s.waiter =
        some (.finished (.interrupted 0 (s₂.registry.lastPosition t.scooter))))

/-- An event in front that leaves the wait open. -/
theorem Verdict.cons {idle : Millis} {t : Ticket} {s₀ s₁ s : Scene α} {e : Event α}
    {es : List (Event α)} {signal : TripSignal α} (h : Verdict idle t s₁ es signal s)
    (hs : s₀.step idle t e = some s₁) (he : e ≠ .wake .expiry) :
    Verdict idle t s₀ (e :: es) signal s := by
  have hpunctual : .wake .expiry ∉ es → .wake .expiry ∉ e :: es := fun hn hm =>
    (List.mem_cons.mp hm).elim (fun h => he h.symm) hn
  cases h with
  | waits punctual isOpen there => exact .waits (hpunctual punctual) isOpen there
  | returned punctual finished => exact .returned (hpunctual punctual) finished
  | overslept early late s₂ seen deadline split run listening silent finished =>
    refine .overslept (e :: early) late s₂ seen deadline (by rw [split]; rfl) ?_ listening silent
      finished
    rw [Scene.run, hs]
    exact run

/-- A wait that has ended stays as it is, and no wake-up comes any more. -/
theorem finished_run {idle : Millis} {t : Ticket} {s s' : Scene α} {es : List (Event α)}
    {signal : TripSignal α} (h : s.waiter = some (.finished signal))
    (hs : s.run idle t es = some s') :
    s'.waiter = some (.finished signal) ∧ ∀ c, .wake c ∉ es := by
  induction es generalizing s with
  | nil =>
    cases hs
    exact ⟨h, nofun⟩
  | cons e es ih =>
    simp only [Scene.run, Option.bind_eq_some_iff] at hs
    obtain ⟨s₁, hstep, hs⟩ := hs
    have hkeeps : s₁.waiter = some (.finished signal) ∧ ∀ c, e ≠ .wake c := by
      cases e with
      | call c =>
        cases hstep
        exact ⟨h, nofun⟩
      | clock now =>
        simp only [Scene.step] at hstep
        split at hstep
        · cases hstep
          exact ⟨h, nofun⟩
        · cases hstep
      | start => simp [Scene.step, h] at hstep
      | wake choice => simp [Scene.step, h, Waiter.step] at hstep
    obtain ⟨hfinished, hnone⟩ := ih hkeeps.1 hs
    refine ⟨hfinished, fun c hm => ?_⟩
    rcases List.mem_cons.mp hm with hm | hm
    · exact hkeeps.2 c hm.symm
    · exact hnone c hm

/-- A wait that drains sees its signal before its deadline. -/
theorem listening_of_mayExpire {now : Millis} {r : Registry α} {t : Ticket}
    {signal : TripSignal α} {w : Wait} (h : Gone r t.trip (some signal))
    (hw : w.mayExpire now r t = true) :
    ∃ seen deadline, w = .listening seen deadline ∧ deadline ≤ now := by
  obtain ⟨resolution, hr, -⟩ := Option.map_eq_some_iff.mp h.sent
  cases w with
  | listening seen deadline => exact ⟨seen, deadline, rfl, by simpa [Wait.mayExpire] using hw⟩
  | draining deadline => simp [Wait.mayExpire, hr] at hw

theorem verdict_run {idle : Millis} {t : Ticket} {s₁ s : Scene α} {es : List (Event α)}
    {signal : TripSignal α} (hs : s₁.run idle t es = some s)
    (hgone : Gone s₁.registry t.trip (some signal)) (hopen : s₁.IsOpen)
    (he : ∀ e ∈ es, e.Foreign t) : Verdict idle t s₁ es signal s := by
  induction es generalizing s₁ with
  | nil =>
    cases hs
    exact .waits List.not_mem_nil hopen (Wait.signal_step_of_gone hgone)
  | cons e es ih =>
    simp only [Scene.run, Option.bind_eq_some_iff] at hs
    obtain ⟨s₂, hstep, hs⟩ := hs
    have hes : ∀ e ∈ es, e.Foreign t := fun e' he' => he e' (List.mem_cons_of_mem _ he')
    have hstep' := hstep
    cases e with
    | call c =>
      cases hstep
      have hc : (Event.call c).Foreign t := he _ (List.mem_cons_self ..)
      exact (ih hs (gone_perform hgone hc.1) hopen hes).cons hstep' nofun
    | clock now =>
      simp only [Scene.step] at hstep
      split at hstep
      · cases hstep
        exact (ih hs hgone hopen hes).cons hstep' nofun
      · cases hstep
    | start =>
      simp only [Scene.step] at hstep
      split at hstep
      · cases hstep
        exact (ih hs hgone nofun hes).cons hstep' nofun
      · cases hstep
    | wake choice =>
      simp only [Scene.step] at hstep
      split at hstep
      · cases hstep
      · next w hw =>
        simp only [Option.map_eq_some_iff, Prod.exists] at hstep
        obtain ⟨w', r', hwake, rfl⟩ := hstep
        cases w with
        | finished _ => cases hwake
        | waiting w =>
          rcases wake_cases hwake with
            ⟨res, rfl, hres, rfl, rfl⟩ | ⟨v, rfl, rfl, rfl⟩ | ⟨rfl, hexpire, rfl, rfl⟩
          · have hsame : res.signal = signal := by
              have hsent := hgone.sent
              rw [hres] at hsent
              exact Option.some.inj hsent
            obtain ⟨hfinished, hnone⟩ := finished_run rfl hs
            refine .returned ?_ (by rw [hfinished, hsame])
            simp [hnone]
          · exact (ih hs hgone nofun hes).cons hstep' (by simp)
          · obtain ⟨seen, deadline, rfl, hsilent⟩ := listening_of_mayExpire hgone hexpire
            obtain ⟨hfinished, -⟩ := finished_run rfl hs
            refine .overslept [] es s₁ seen deadline rfl rfl hw hsilent ?_
            rw [hfinished, lostSignal_of_not_pending (hgone.not_pending t.scooter)]

/-- **The signal that is sent is the signal that is returned, unless the waiter oversleeps.**  A trip
begins under a new name; others call what they like, and at some point one of them sends a signal.
Whatever happens then, the wait ends with this signal, or is ready to; a wake-up that takes the
deadline instead is the only way out, and what that one returns counts no positions. -/
theorem resolution_reaches_waiter {hub : Hub α} {before : List (Call α)} {t : Ticket}
    {r : Registry α} (new : t.trip ∉ named before)
    (granted : (after hub before).begin t.scooter t.trip = .ok (t, r)) (now idle : Millis)
    {es es' : List (Event α)} {c : Call α} {signal : TripSignal α} {s₁ s₂ s : Scene α}
    (foreign : ∀ e ∈ es ++ .call c :: es', e.Foreign t)
    (first : (Scene.mk now r none).run idle t es = some s₁) (sends : Sends s₁.registry t c signal)
    (sending : s₁.step idle t (.call c) = some s₂) (rest : s₂.run idle t es' = some s) :
    Verdict idle t s₂ es' signal s := by
  have hr : r = after hub (before ++ [.begin t.scooter t.trip]) := by
    rw [after_snoc]
    simp only [perform, granted]
  have hstart : Watched t (Scene.mk now r none) := by
    have hwaiting := waiting_of_begin granted new
    rw [← hr] at hwaiting
    have hopen : Scene.IsOpen (Scene.mk now r none) := by
      intro signal h
      cases h
    refine .waits 0 hwaiting ?_ hopen
    rw [hr] at hwaiting ⊢
    exact connected_of_pending hub _ _ _ hwaiting.pending
  have hforeign : ∀ e ∈ es, e.Foreign t := fun e he => foreign e (List.mem_append_left _ he)
  have hc : (Event.call c).Foreign t := foreign _ (by simp)
  cases scene_run hstart hforeign first with
  | left _ gone =>
    obtain ⟨p, hp, ht⟩ := sends.pending
    exact absurd ht (gone.absent _ p hp)
  | waits n waiting connected isOpen =>
    cases sending
    have hgone := gone_of_sends waiting connected sends
    exact verdict_run rest hgone isOpen fun e he => foreign e (by simp [he])

/-- A report that comes in time: the position before it is noticed first. -/
theorem resolution_reaches_waiter_inTime :
    let noon : Timestamp := ⟨2024, 5, 1, 12, 0, 0, 0, 0⟩
    let report : TripReport Int := ⟨1, ⟨3, 4⟩, 80, .arrived, some (.ofNat 7)⟩
    let r := after (.create 8) [.register noon 1, .begin 1 (.ofNat 7)]
    ∃ s₁ s₂ s : Scene Int,
      (Scene.mk 0 r none).run 50 ⟨1, .ofNat 7⟩
        [.start, .call (.telemetry noon ⟨1, ⟨2, 2⟩⟩)] = some s₁ ∧
      s₁.step 50 ⟨1, .ofNat 7⟩ (.call (.tripEnded noon report)) = some s₂ ∧
      s₂.run 50 ⟨1, .ofNat 7⟩ [.clock 50, .wake .activity, .wake .signal] = some s ∧
      Verdict 50 ⟨1, .ofNat 7⟩ s₂ [.clock 50, .wake .activity, .wake .signal] (.ended report) s := by
  intro noon report r
  refine ⟨_, _, _, rfl, rfl, rfl, ?_⟩
  have new : (Uuid.ofNat 7) ∉ named [(Call.register noon 1 : Call Int)] := by decide
  have foreign : ∀ e ∈ [Event.start, .call (.telemetry noon ⟨1, ⟨2, 2⟩⟩)] ++
      .call (.tripEnded noon report) :: [.clock 50, .wake .activity, .wake .signal],
      e.Foreign ⟨1, .ofNat 7⟩ := by
    simp [Event.Foreign, Call.begun?]
  have granted : (after (.create 8) [.register noon 1]).begin 1 (.ofNat 7) = .ok (⟨1, .ofNat 7⟩, r) :=
    rfl
  exact resolution_reaches_waiter new granted 0 50 foreign rfl (.report rfl rfl rfl) rfl rfl

/-- A report that is taken, and a waiter that sees its deadline first. -/
theorem signal_lost_at_deadline :
    let noon : Timestamp := ⟨2024, 5, 1, 12, 0, 0, 0, 0⟩
    let report : TripReport Int := ⟨1, ⟨3, 4⟩, 80, .arrived, some (.ofNat 7)⟩
    let r := after (.create 8) [.register noon 1, .begin 1 (.ofNat 7)]
    (r.tripEnded noon report).1 = true ∧
      ((Scene.mk 0 r none).run 50 ⟨1, .ofNat 7⟩
        [.start, .clock 50, .call (.tripEnded noon report), .wake .expiry]).map Scene.waiter =
        some (some (.finished (.interrupted 0 (some ⟨3, 4⟩)))) :=
  ⟨rfl, rfl⟩

end Waiter
end ScooterFleet
