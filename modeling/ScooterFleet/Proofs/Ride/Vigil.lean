import ScooterFleet.Proofs.Registry.Signal
import ScooterFleet.Proofs.Ride.Prospect
import ScooterFleet.Proofs.Store.Records

/-!
# Before, in and behind the wait

A rental prepares its trip, waits for its end, and settles what is left to do.

* `Rental.Readies` / `readies_of_advance` — what a rental does before it waits; it can always go on;
* `Rental.step_of_wait` — a rental in its wait does what the wait does;
* `settled_of_advance` — behind its wait, the outcome stays;
* `Wait.step_of_ended` — **a wait for a signal that has come** finds it.
-/

namespace ScooterFleet

open Registry

variable {α : Type}

/-! ### Rentals before and behind the wait -/

namespace Rental

/-- Behind a wait that found its signal, or without a wait.  An interruption stems from a cut. -/
def Phase.IsSettled (cut : Prop) : Phase α → Prop
  | .closing _ _ a | .docking _ _ _ a | .ordering _ _ _ a => a.outcome = .interrupted → cut
  | .releasing _ _ => True
  | .finished (.ok trip) => trip.outcome = .interrupted → cut
  | .finished (.error _) => True
  | _ => False

variable {p p' : Phase α} {cut : Prop}

theorem Phase.IsPreparing.not_waiting (h : p.IsPreparing) (d : Departure α) (start : SnapshotId)
    (wait : Wait) : p ≠ .waiting d start wait := by
  rintro rfl
  exact h

theorem Phase.IsSettled.not_waiting (h : p.IsSettled cut) (d : Departure α) (start : SnapshotId)
    (wait : Wait) : p ≠ .waiting d start wait := by
  rintro rfl
  exact h

variable [Coordinate α] {m : Moment} {terms : RentalTerms α} {k k' : Kernel α} {request : RentalRequest}

/-- What a rental does before it waits. -/
inductive Readies (m : Moment) (terms : RentalTerms α) (k : Kernel α) (request : RentalRequest)
    (p p' : Phase α) (k' : Kernel α) : Prop
  | prepares (preparing : p'.IsPreparing)
      (ticket : (⟨request, p'⟩ : Rental α).ticket? = (⟨request, p⟩ : Rental α).ticket?)
      (registry : k'.registry = k.registry)
  | claims {t : Ticket} (preparing : p'.IsPreparing) (ticket : (⟨request, p'⟩ : Rental α).ticket? = some t)
      (granted : k.registry.begin request.scooter m.fresh = .ok (t, k'.registry))
  | dispatches {d : Departure α} {start : SnapshotId} (before : p = .dispatching d start)
      (after : p' = .waiting d start (.start m.now terms.idle))
      (taken : k.registry.dispatch request.scooter d.station.position (some d.ticket.trip) =
        .ok k'.registry)
  | fails (settled : ∀ cut, p'.IsSettled cut)

theorem readies_of_advance (preparing : p.IsPreparing) (h : advance m terms k request p = some (p', k')) :
    Readies m terms k request p p' k' := by
  cases p with
  | checking =>
    simp only [advance] at h
    split at h
    · cases h
      exact .fails fun _ => trivial
    · next scooter k₁ hcall =>
      split at h <;> cases h
      · exact .prepares trivial rfl (Kernel.registry_of_call hcall)
      · exact .fails fun _ => trivial
  | locating scooter =>
    simp only [advance] at h
    split at h <;> cases h
    · exact .fails fun _ => trivial
    · next station hcall => exact .prepares trivial rfl (Kernel.registry_of_call hcall)
  | claiming scooter station =>
    simp only [advance] at h
    split at h <;> cases h
    · exact .fails fun _ => trivial
    · next ticket registry hbegin => exact .claims trivial rfl hbegin
  | observing scooter station ticket =>
    cases h
    exact .prepares trivial rfl rfl
  | opening d =>
    simp only [advance] at h
    split at h <;> cases h
    · exact .fails fun _ => trivial
    · next snapshot hcall => exact .prepares trivial rfl (Kernel.registry_of_call hcall)
  | dispatching d start =>
    simp only [advance] at h
    split at h <;> cases h
    · exact .fails fun _ => trivial
    · next registry hdispatch => exact .dispatches rfl rfl hdispatch
  | _ => exact preparing.elim

/-- Before it waits, a rental can always go on. -/
theorem advance_of_preparing (preparing : p.IsPreparing) : ∃ x, advance m terms k request p = some x := by
  cases p with
  | checking =>
    simp only [advance]
    split
    · exact ⟨_, rfl⟩
    · split <;> exact ⟨_, rfl⟩
  | observing scooter station ticket => exact ⟨_, rfl⟩
  | locating | claiming | opening | dispatching =>
    simp only [advance]
    split <;> exact ⟨_, rfl⟩
  | _ => exact preparing.elim

/-- Behind the wait, the outcome stays. -/
theorem settled_of_advance (settled : p.IsSettled cut)
    (h : advance m terms k request p = some (p', k')) : p'.IsSettled cut := by
  cases p with
  | closing d start a =>
    simp only [advance] at h
    split at h <;> cases h
    · exact trivial
    · exact settled
  | docking d start finish a =>
    simp only [advance] at h
    split at h <;> cases h
    · exact trivial
    · exact settled
  | ordering d start finish a =>
    simp only [advance] at h
    split at h <;> cases h
    · exact trivial
    · exact settled
  | releasing ticket fault =>
    cases h
    exact trivial
  | finished result => cases h
  | _ => exact settled.elim

/-- A wake-up of a rental is one of its wait. -/
theorem step_of_wait {r : Rental α} {d : Departure α} {start : SnapshotId} {wait : Wait}
    (h : r.phase = .waiting d start wait) (c : Wait.Choice) :
    r.step m terms k (.wake c) =
      (wait.step m.now terms.idle k.registry d.ticket c).map fun (progress, registry) =>
        match progress with
        | .waiting wait => ({ r with phase := .waiting d start wait }, { k with registry })
        | .done signal =>
          ({ r with phase := .closing d start (arrival terms d signal) }, { k with registry }) := by
  simp only [step, h]
  split <;> next hstep =>
    rw [hstep]
    rfl

/-- A rental that does not wait does not wake up. -/
theorem step_of_not_waiting {r : Rental α}
    (h : ∀ d start wait, r.phase ≠ .waiting d start wait) (c : Wait.Choice) :
    r.step m terms k (.wake c) = none := by
  cases hphase : r.phase with
  | waiting d start wait => exact absurd hphase (h d start wait)
  | _ => simp only [step, hphase]

/-- A rental wakes up where its wait does. -/
theorem wakes_of_wait {r : Rental α} {d : Departure α} {start : SnapshotId} {wait : Wait}
    {c : Wait.Choice} (h : r.phase = .waiting d start wait)
    (wakes : ∃ x, wait.step m.now terms.idle k.registry d.ticket c = some x) :
    ∃ x, r.step m terms k (.wake c) = some x := by
  obtain ⟨x, hx⟩ := wakes
  rw [step_of_wait h, hx]
  exact ⟨_, rfl⟩

end Rental

/-! ### The wait for a signal -/

namespace Wait

variable {now idle : Millis} {r r' : Registry α} {t : Ticket} {c : Choice} {progress : Progress α}
  {cut : Prop}

/-- When the signal has come, a wait takes it, or goes on waiting for as long as ever. -/
theorem step_of_ended {w : Wait} (ended : Ended r cut t.trip) (inTime : now < w.deadline)
    (h : w.step now idle r t c = some (progress, r')) :
    r' = r ∧ ((∃ signal, progress = .done signal ∧ ((∃ report, signal = .ended report) ∨ cut)) ∨
      ∃ w', progress = .waiting w' ∧ w'.deadline = now + idle) := by
  obtain ⟨signal, gone, why⟩ := ended
  obtain ⟨hr, hdone | hwaits⟩ := step_of_gone gone inTime h
  · exact ⟨hr, .inl ⟨signal, hdone, why⟩⟩
  · exact ⟨hr, .inr hwaits⟩

/-- The signal wakes the wait. -/
theorem signal_of_ended {w : Wait} (ended : Ended r cut t.trip) :
    ∃ x, w.step now idle r t .signal = some x := by
  obtain ⟨signal, gone, -⟩ := ended
  exact ⟨_, signal_step_of_gone gone w⟩

end Wait

/-- A trip whose signal is a report was not interrupted. -/
theorem Rental.outcome_arrival [Coordinate α] {terms : RentalTerms α} {d : Departure α} {signal : TripSignal α}
    {cut : Prop} (why : (∃ report, signal = .ended report) ∨ cut)
    (h : (Rental.arrival terms d signal).outcome = .interrupted) : cut := by
  rcases why with ⟨report, rfl⟩ | why
  · have hended : TripOutcome.ofOutcome report.outcome = .interrupted := h
    cases ho : report.outcome <;> rw [ho] at hended <;> cases hended
  · exact why

end ScooterFleet
