import ScooterFleet.Proofs.Registry.Trip
import ScooterFleet.Proofs.Ride.Pair

/-!
# What becomes of a trip

While the session of its scooter stays and nobody else has its ticket, a pending trip leaves the table by
its report only.  The session's own connection may go, and take the session with it: then the trip is
interrupted.  When that may happen is said elsewhere; here it is any proposition `cut`.

* `Ended` — the trip has left the table, and its waiter finds its report, or there was a cut;
* `Waiting.perform`, `Waiting.hears` — what one call, and one frame of the trip's own device, leave of a
  pending trip;
* `Holds` — the trip is pending, or has ended so;
* `Holds.run_own`, `Holds.freed` — **what the trip's own connection leaves of it**, while it serves and when
  it goes;
* `free_perform`, `dispatch_ne_ok`, `begin_ne_ok` — a slot that is free then.
-/

namespace ScooterFleet

variable {α : Type}

/-- A position of this scooter. -/
def DeviceFrame.Tracks (id : ScooterId) : DeviceFrame α → Prop
  | .telemetry m => m.scooter = id
  | _ => False

/-- The report that ends this trip. -/
def DeviceFrame.Ends (t : Ticket) : DeviceFrame α → Prop
  | .tripEnded report => report.scooter = t.scooter ∧ report.trip = some t.trip
  | _ => False

namespace Registry

variable {r r' : Registry α} {owned : Registration} {t : Ticket} {c : Call α} {n : Nat} {cut : Prop}
  {trip : TripId}

/-! ### A trip that has ended -/

/-- The trip has left the table, and its signal waits for whoever waits: its report, or any other one if
there was a cut. -/
def Ended (r : Registry α) (cut : Prop) (trip : TripId) : Prop :=
  ∃ signal, Gone r trip (some signal) ∧ ((∃ report, signal = .ended report) ∨ cut)

theorem ended_of_report {report : TripReport α} (gone : Gone r trip (some (.ended report))) :
    Ended r cut trip :=
  ⟨_, gone, .inl ⟨report, rfl⟩⟩

theorem ended_of_cut {signal : TripSignal α} (gone : Gone r trip (some signal)) (why : cut) :
    Ended r cut trip :=
  ⟨signal, gone, .inr why⟩

theorem Ended.perform (h : Ended r cut trip) (hc : c.begun? ≠ some trip) :
    Ended (r.perform c) cut trip := by
  obtain ⟨signal, gone, why⟩ := h
  exact ⟨signal, gone_perform gone hc, why⟩

theorem Ended.run {calls : List (Call α)} (h : Ended r cut trip) (hc : ∀ c ∈ calls, c.begun? = none) :
    Ended (r.run calls) cut trip := by
  induction calls generalizing r with
  | nil => exact h
  | cons c calls ih =>
    rw [List.forall_mem_cons] at hc
    exact ih (h.perform (by rw [hc.1]; nofun)) hc.2

theorem Ended.congr (h : Ended r cut trip) (trips : r'.trips = r.trips)
    (resolutions : r'.resolutions = r.resolutions) : Ended r' cut trip := by
  obtain ⟨signal, gone, why⟩ := h
  exact ⟨signal, ⟨trips ▸ gone.absent, resolutions ▸ gone.sent⟩, why⟩

/-- The steps of a gateway begin no trips. -/
theorem begun?_of_conduct {g g' : Gateway α} {calls : List (Call α)}
    (h : Gateway.Conduct r g g' calls) : ∀ c ∈ calls, c.begun? = none := by
  cases h with
  | outside | idles => exact List.forall_mem_nil _
  | @claims _ _ c _ before grant =>
    refine List.forall_mem_singleton.mpr ?_
    cases c with
    | begin id trip => cases grant
    | _ => rfl
  | @serves _ _ c _ before after own =>
    refine List.forall_mem_singleton.mpr ?_
    cases c with
    | begin id trip => exact own.elim
    | _ => rfl
  | frees => exact List.forall_mem_cons.mpr ⟨rfl, List.forall_mem_singleton.mpr rfl⟩

/-- A trip that has ended does not come back by what a gateway does. -/
theorem Ended.gateway {s : Gateway.Site α} {g : Gateway α} {now : Millis} {wall : Timestamp}
    {c : Gateway.Choice} {x : Gateway α × Gateway.Site α} (h : Ended s.kernel.registry cut trip)
    (step : g.step now wall s c = some x) : Ended x.2.kernel.registry cut trip := by
  obtain ⟨calls, conduct, registry⟩ := Gateway.conduct_of_step step
  rw [registry]
  exact h.run (begun?_of_conduct conduct)

/-! ### A trip that is pending -/

/-- A call that takes the trip out of the table by its report only. -/
structure Call.Leaves (r : Registry α) (t : Ticket) (c : Call α) : Prop where
  session : ¬ c.Removes r t.scooter
  held : c ≠ .giveUp t ∧ c ≠ .abandon t
  begun : c.begun? ≠ some t.trip

theorem Call.leaves_of_own (own : c.IsOwn owned) (r : Registry α) (t : Ticket) : c.Leaves r t := by
  cases c with
  | take | telemetry | tripEnded => exact ⟨id, ⟨nofun, nofun⟩, nofun⟩
  | _ => exact own.elim

theorem Call.leaves_dispatch (id : ScooterId) (destination : Position α) (trip : Option TripId)
    (r : Registry α) (t : Ticket) : (Call.dispatch id destination trip).Leaves r t :=
  ⟨fun removes => removes, ⟨nofun, nofun⟩, nofun⟩

/-- The trip stays, with its position counted, or its report has come. -/
theorem Waiting.perform (h : Waiting r t.scooter t.trip n) (leaves : c.Leaves r t) :
    Waiting (r.perform c) t.scooter t.trip (n + if c.counts t.scooter then 1 else 0) ∨
      Ended (r.perform c) cut t.trip := by
  rcases waiting_perform h leaves.begun with waiting | ⟨signal, departure, gone⟩
  · exact .inl waiting
  · cases departure with
    | reported scooter own taken => exact .inr (ended_of_report gone)
    | removed removes => exact absurd removes leaves.session
    | abandoned own yields =>
      rcases own with own | own
      · exact absurd own leaves.held.1
      · exact absurd own leaves.held.2

/-- What does not touch the tables of trips. -/
theorem Waiting.congr {id : ScooterId} (h : Waiting r id trip n) (trips : r'.trips = r.trips)
    (resolutions : r'.resolutions = r.resolutions) : Waiting r' id trip n :=
  ⟨trips ▸ h.pending, trips ▸ h.only, resolutions ▸ h.silent⟩

/-- **What the trip's own gateway hears ends the trip, or counts.** -/
theorem Waiting.hears (h : Waiting r t.scooter t.trip n) (mine : t.scooter = owned.scooter)
    (wall : Timestamp) (frame : DeviceFrame α) :
    Ended (Gateway.apply wall owned r frame) cut t.trip ∨
      ¬ frame.Ends t ∧ ∃ n', n ≤ n' ∧ (frame.Tracks t.scooter → n < n') ∧
        Waiting (Gateway.apply wall owned r frame) t.scooter t.trip n' := by
  cases frame with
  | hello scooter => exact .inr ⟨id, n, Nat.le_refl n, False.elim, h⟩
  | telemetry m =>
    simp only [Gateway.apply]
    split
    · next hm =>
      have own : (Call.telemetry wall m).IsOwn owned := hm
      have hcounts : (Call.telemetry wall m).counts t.scooter = true :=
        decide_eq_true (hm.trans mine.symm)
      rcases h.perform (Call.leaves_of_own own r t) with waiting | ended
      · rw [if_pos hcounts] at waiting
        exact .inr ⟨id, n + 1, Nat.le_succ n, fun _ => Nat.lt_succ_self n, waiting⟩
      · exact .inl ended
    · next hm => exact .inr ⟨id, n, Nat.le_refl n, fun tracks => absurd (Eq.trans tracks mine) hm, h⟩
  | tripEnded report =>
    simp only [Gateway.apply]
    split
    · next hm =>
      by_cases ends : report.trip = some t.trip
      · exact .inl (ended_of_report (h.gone_of_report (hm.trans mine.symm) ends wall).2)
      · have own : (Call.tripEnded wall report).IsOwn owned := hm
        rcases h.perform (Call.leaves_of_own own r t) with waiting | ended
        · exact .inr ⟨fun both => ends both.2, n, Nat.le_refl n, False.elim, waiting⟩
        · exact .inl ended
    · next hm =>
      exact .inr ⟨fun ends => hm (ends.1.trans mine), n, Nat.le_refl n, False.elim, h⟩

/-! ### A trip in either state -/

/-- The trip of a ticket is this scooter's; it is pending with so many positions or more, or has ended. -/
structure Holds (r : Registry α) (cut : Prop) (owned : Registration) (t : Ticket) (ticks : Nat) :
    Prop where
  mine : t.scooter = owned.scooter
  stands : (∃ n, ticks ≤ n ∧ Waiting r t.scooter t.trip n) ∨ Ended r cut t.trip

variable {ticks : Nat}

theorem holds_of_waiting (mine : t.scooter = owned.scooter)
    (waiting : Waiting r t.scooter t.trip ticks) : Holds r cut owned t ticks :=
  ⟨mine, .inl ⟨ticks, Nat.le_refl ticks, waiting⟩⟩

theorem Holds.congr (h : Holds r cut owned t ticks) (trips : r'.trips = r.trips)
    (resolutions : r'.resolutions = r.resolutions) : Holds r' cut owned t ticks := by
  obtain ⟨mine, ⟨n, le, waiting⟩ | ended⟩ := h
  · exact ⟨mine, .inl ⟨n, le, waiting.congr trips resolutions⟩⟩
  · exact ⟨mine, .inr (ended.congr trips resolutions)⟩

theorem Holds.perform (h : Holds r cut owned t ticks) (leaves : c.Leaves r t) :
    Holds (r.perform c) cut owned t ticks := by
  obtain ⟨mine, ⟨n, le, waiting⟩ | ended⟩ := h
  · refine ⟨mine, (waiting.perform leaves).imp_left fun waiting' => ⟨_, ?_, waiting'⟩⟩
    exact Nat.le_trans le (Nat.le_add_right n _)
  · exact ⟨mine, .inr (ended.perform leaves.begun)⟩

/-- While it serves, the trip's own connection leaves it pending, or ends it with its report. -/
theorem Holds.run_own (h : Holds r cut owned t ticks) {calls : List (Call α)}
    (own : ∀ c ∈ calls, c.IsOwn owned) : Holds (r.run calls) cut owned t ticks := by
  induction calls generalizing r with
  | nil => exact h
  | cons c calls ih =>
    rw [List.forall_mem_cons] at own
    exact ih (h.perform (Call.leaves_of_own own.1 r t)) own.2

/-- **When the trip's own connection goes, the trip has ended.** -/
theorem Holds.freed (h : Holds r cut owned t ticks) (registered : Registered r owned) (why : cut) :
    Ended (r.run [.release owned, .dropQueue owned.connection]) cut t.trip := by
  obtain ⟨mine, ⟨n, -, waiting⟩ | ended⟩ := h
  · have owns : r.owns owned = true := owns_iff.mpr registered.owner
    have connected : r.isConnected t.scooter = true :=
      mine ▸ isConnected_iff_owner.mpr ⟨owned, registered.owner⟩
    have removes : (Call.release owned : Call α).Removes r t.scooter := ⟨mine.symm, owns⟩
    have gone := waiting.gone_of_removes connected removes
    have drops : (Call.dropQueue owned.connection : Call α).begun? ≠ some t.trip := nofun
    exact (ended_of_cut gone why).perform drops
  · exact ended.run (List.forall_mem_cons.mpr ⟨rfl, List.forall_mem_singleton.mpr rfl⟩)

/-! ### A slot that is free -/

/-- Unless somebody takes it, a free slot stays free. -/
theorem free_perform {id : ScooterId} (free : r.owner id = none)
    (untaken : ∀ g ∈ r.granted? c, g.scooter ≠ id) : (r.perform c).owner id = none := by
  rw [Option.eq_none_iff_forall_ne_some]
  intro g hg
  rcases owner_perform_iff.mp hg with ⟨grant, hid⟩ | ⟨hold, -⟩
  · exact untaken g grant hid
  · rw [free] at hold
    cases hold

/-- Nobody is sent a command there. -/
theorem dispatch_ne_ok {id : ScooterId} (free : r.owner id = none) (destination : Position α)
    (trip : Option TripId) (r' : Registry α) : r.dispatch id destination trip ≠ .ok r' := by
  have hs : r.sessions.get? id = none := Option.map_eq_none_iff.mp free
  simp [dispatch, hs]

/-- No trip begins there. -/
theorem begin_ne_ok {id : ScooterId} (free : r.owner id = none) (trip : TripId)
    (x : Ticket × Registry α) : r.begin id trip ≠ .ok x := by
  have hs : r.sessions.get? id = none := Option.map_eq_none_iff.mp free
  have hconnected : r.isConnected id = false := by simp [isConnected, Table.contains, hs]
  simp [begin, hconnected]

end Registry
end ScooterFleet
