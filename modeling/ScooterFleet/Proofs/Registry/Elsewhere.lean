import ScooterFleet.Proofs.Registry.Slot

/-!
# What a call leaves of everybody else

A registry is kept scooter by scooter.  What becomes of one scooter's trip depends on the sessions and on
this trip, and of what is known of a scooter, on nothing but the calls that see it.

* `trips_perform` — what a call makes of the trip of each scooter;
* `slots_perform` — what a call makes of the sessions depends on the sessions only;
* `Elsewhere` / `Elsewhere.perform` — two registries that agree but for one scooter still do so after
  any call;
* `sansQueues_perform` — which commands are waiting makes no difference to anything else.
-/

namespace ScooterFleet
namespace Registry

variable {α : Type}

/-! ### Trips -/

/-- What a call makes of the trip of this scooter. -/
def Call.tripBehind (r : Registry α) (id : ScooterId) (p : Option PendingTrip) :
    Call α → Option PendingTrip
  | .unregister id' => if id' = id ∧ r.isConnected id = true then none else p
  | .release g => if g.scooter = id ∧ r.owns g = true then none else p
  | .telemetry _ m => if m.scooter = id then p.map fun p => { p with ticks := p.ticks + 1 } else p
  | .tripEnded _ report =>
    if report.scooter = id then p.filter fun p => report.trip ≠ some p.trip else p
  | .begin id' trip => if id' = id ∧ r.isConnected id = true then p.or (some ⟨trip, 0⟩) else p
  | .giveUp t | .abandon t => if t.scooter = id then p.filter fun p => p.trip ≠ t.trip else p
  | _ => p

theorem trips_interrupt (r : Registry α) (id id' : ScooterId) :
    (r.interrupt id).trips.get? id' = if id = id' then none else r.trips.get? id' := by
  cases hp : r.trips.get? id with
  | none =>
    rw [interrupt_of_none hp]
    split
    · next hid => exact hid ▸ hp
    · rfl
  | some p =>
    rw [interrupt_of_pending hp]
    exact Table.get?_erase r.trips id id'

theorem trips_unregister (r : Registry α) (id id' : ScooterId) :
    (r.unregister id).trips.get? id' =
      if id = id' ∧ r.isConnected id' = true then none else r.trips.get? id' := by
  cases hs : r.sessions.get? id with
  | none =>
    rw [unregister_of_free hs, if_neg]
    rintro ⟨rfl, hc⟩
    obtain ⟨slot, hslot⟩ := isConnected_iff.mp hc
    rw [hs] at hslot
    cases hslot
  | some slot =>
    rw [unregister_of_session hs, trips_interrupt]
    by_cases hid : id = id'
    · subst hid
      rw [if_pos rfl, if_pos ⟨rfl, isConnected_iff.mpr ⟨slot, hs⟩⟩]
    · rw [if_neg hid, if_neg fun h => hid h.1]
      rfl

theorem trips_abandon (r : Registry α) (t : Ticket) (id : ScooterId) :
    (r.abandon t).trips.get? id =
      if t.scooter = id then (r.trips.get? id).filter fun p => p.trip ≠ t.trip
      else r.trips.get? id := by
  obtain ⟨id', trip⟩ := t
  by_cases hid : id' = id
  · subst hid
    rw [if_pos rfl]
    cases hp : r.trips.get? id' with
    | none =>
      have hn : r.isPending ⟨id', trip⟩ = false := by simp [isPending, hp]
      rw [abandon_of_not_pending hn, hp]
      rfl
    | some p =>
      by_cases ht : p.trip = trip
      · have hpending : r.isPending ⟨id', trip⟩ = true := isPending_iff.mpr ⟨p, hp, ht⟩
        rw [abandon, if_pos hpending, Option.filter_some, if_neg (by simpa using ht)]
        exact Table.get?_erase_self r.trips id'
      · have hn : r.isPending ⟨id', trip⟩ = false := by simp [isPending, hp, ht]
        rw [abandon_of_not_pending hn, hp, Option.filter_some, if_pos (by simpa using ht)]
  · rw [if_neg hid]
    rcases abandon_cases r ⟨id', trip⟩ with h | ⟨-, h⟩
    · rw [h]
    · rw [h]
      exact Table.get?_erase_of_ne r.trips hid

theorem trips_begin (r : Registry α) (id id' : ScooterId) (trip : TripId) :
    (r.perform (.begin id trip)).trips.get? id' =
      if id = id' ∧ r.isConnected id' = true then (r.trips.get? id').or (some ⟨trip, 0⟩)
      else r.trips.get? id' := by
  by_cases hid : id = id'
  · subst hid
    cases hc : r.isConnected id with
    | false =>
      rw [if_neg fun h => Bool.false_ne_true h.2]
      simp [perform, begin, hc]
    | true =>
      rw [if_pos ⟨rfl, rfl⟩]
      cases hp : r.trips.get? id with
      | none =>
        have hfree : r.hasTrip id = false := hasTrip_eq_false_iff.mpr hp
        simp [perform, begin, hc, hfree]
      | some p =>
        have htaken : r.hasTrip id = true := by simp [hasTrip, Table.contains, hp]
        simp [perform, begin, hc, htaken, hp]
  · rw [if_neg fun h => hid h.1]
    rcases perform_begin r id trip with h | ⟨-, -, h⟩
    · rw [h]
    · rw [h]
      exact Table.get?_insert_of_ne r.trips _ hid

/-- **What a call makes of the trip of a scooter.** -/
theorem trips_perform (r : Registry α) (c : Call α) (id : ScooterId) :
    (r.perform c).trips.get? id = c.tripBehind r id (r.trips.get? id) := by
  cases c with
  | register time id' =>
    rcases perform_register r time id' with h | ⟨-, h⟩ <;> rw [h] <;> rfl
  | registerFirstFree time ids =>
    rcases perform_registerFirstFree r time ids with h | ⟨id', -, h⟩ <;> rw [h] <;> rfl
  | unregister id' => exact trips_unregister r id' id
  | release g =>
    show (r.release g).trips.get? id = if g.scooter = id ∧ r.owns g = true then none else _
    cases ho : r.owns g with
    | true =>
      have hc : r.isConnected g.scooter = true := isConnected_iff_owner.mpr ⟨g, owns_iff.mp ho⟩
      rw [release_of_owns ho, trips_unregister]
      by_cases hid : g.scooter = id
      · subst hid
        rw [if_pos ⟨rfl, hc⟩, if_pos ⟨rfl, rfl⟩]
      · rw [if_neg fun h => hid h.1, if_neg fun h => hid h.1]
    | false => rw [release_of_not_owns ho, if_neg fun h => Bool.false_ne_true h.2]
  | dispatch id' destination trip =>
    rcases perform_dispatch r id' destination trip with h | ⟨slot, queue, queue', -, -, -, h⟩ <;>
      rw [h] <;> rfl
  | telemetry time m =>
    exact Table.get?_modify r.trips m.scooter id _
  | tripEnded time report =>
    rw [Call.tripBehind]
    rcases perform_tripEnded r time report with ⟨h, hstray⟩ | ⟨p, hp, ht, h⟩
    · rw [h]
      show r.trips.get? id = _
      split
      · next hid =>
        subst hid
        cases hp : r.trips.get? report.scooter with
        | none => rfl
        | some p => rw [Option.filter_some, if_pos (decide_eq_true (hstray p hp))]
      · rfl
    · rw [h]
      show (r.trips.erase report.scooter).get? id = _
      rw [Table.get?_erase]
      split
      · next hid =>
        subst hid
        rw [hp, Option.filter_some, if_neg]
        simpa using ht
      · rfl
  | begin id' trip => exact trips_begin r id' id trip
  | giveUp t | abandon t => exact trips_abandon r t id
  | take n =>
    rcases perform_take r n with h | ⟨queue, command, rest, -, -, h⟩ <;> rw [h] <;> rfl
  | deafen n => rfl
  | dropQueue n => rfl

/-! ### Sessions -/

theorem isConnected_congr {r r' : Registry α} (sessions : r'.sessions = r.sessions) (id : ScooterId) :
    r'.isConnected id = r.isConnected id := by
  rw [isConnected, sessions]
  rfl

theorem owns_congr {r r' : Registry α} (sessions : r'.sessions = r.sessions) (g : Registration) :
    r'.owns g = r.owns g := by
  rw [owns, sessions]
  rfl

/-- A claim depends on nothing but the sessions and the next number. -/
theorem slots_claim {r r' : Registry α} (sessions : r'.sessions = r.sessions)
    (fresh : r'.fresh = r.fresh) (time : Timestamp) (id : ScooterId) :
    (r'.claim time id).2.sessions = (r.claim time id).2.sessions ∧
      (r'.claim time id).2.fresh = (r.claim time id).2.fresh := by
  simp only [claim, sessions, fresh, and_self]

theorem slots_unregister {r r' : Registry α} (sessions : r'.sessions = r.sessions)
    (fresh : r'.fresh = r.fresh) (id : ScooterId) :
    (r'.unregister id).sessions = (r.unregister id).sessions ∧
      (r'.unregister id).fresh = (r.unregister id).fresh := by
  refine ⟨?_, by rw [fresh_unregister, fresh_unregister, fresh]⟩
  cases hs : r.sessions.get? id with
  | none => rw [unregister_of_free hs, unregister_of_free (sessions ▸ hs), sessions]
  | some slot =>
    rw [unregister_of_session hs, unregister_of_session (sessions ▸ hs), interrupt_sessions,
      interrupt_sessions]
    exact congrArg (Table.erase · id) sessions

/-- **What a call makes of the sessions depends on the sessions only.** -/
theorem slots_perform {r r' : Registry α} (sessions : r'.sessions = r.sessions)
    (fresh : r'.fresh = r.fresh) (c : Call α) :
    (r'.perform c).sessions = (r.perform c).sessions ∧ (r'.perform c).fresh = (r.perform c).fresh := by
  have connected : ∀ id, r'.isConnected id = r.isConnected id := isConnected_congr sessions
  -- the other calls leave the sessions of any registry
  have kept : (∀ r : Registry α, (r.perform c).sessions = r.sessions ∧ (r.perform c).fresh = r.fresh) →
      (r'.perform c).sessions = (r.perform c).sessions ∧ (r'.perform c).fresh = (r.perform c).fresh := by
    intro h
    rw [(h r').1, (h r).1, (h r').2, (h r).2]
    exact ⟨sessions, fresh⟩
  cases c with
  | register time id =>
    simp only [perform, register, connected]
    cases r.isConnected id with
    | true => exact ⟨sessions, fresh⟩
    | false => exact slots_claim sessions fresh time id
  | registerFirstFree time ids =>
    simp only [perform, registerFirstFree, connected]
    cases ids.find? fun id => !r.isConnected id with
    | none => exact ⟨sessions, fresh⟩
    | some id => exact slots_claim sessions fresh time id
  | unregister id => exact slots_unregister sessions fresh id
  | release g =>
    have howns : r'.owns g = r.owns g := owns_congr sessions g
    simp only [perform]
    cases ho : r.owns g with
    | true =>
      rw [release_of_owns ho, release_of_owns (howns.trans ho)]
      exact slots_unregister sessions fresh g.scooter
    | false =>
      rw [release_of_not_owns ho, release_of_not_owns (howns.trans ho)]
      exact ⟨sessions, fresh⟩
  | dispatch id destination trip =>
    refine kept fun r => ?_
    rcases perform_dispatch r id destination trip with h | ⟨slot, queue, queue', -, -, -, h⟩ <;>
      rw [h] <;> exact ⟨rfl, rfl⟩
  | telemetry time m => exact kept fun r => ⟨rfl, rfl⟩
  | tripEnded time report =>
    refine kept fun r => ?_
    rcases perform_tripEnded r time report with ⟨h, -⟩ | ⟨p, -, -, h⟩ <;> rw [h] <;>
      exact ⟨rfl, rfl⟩
  | begin id trip =>
    refine kept fun r => ?_
    rcases perform_begin r id trip with h | ⟨-, -, h⟩ <;> rw [h] <;> exact ⟨rfl, rfl⟩
  | giveUp t | abandon t =>
    refine kept fun r => ?_
    show (r.abandon t).sessions = r.sessions ∧ (r.abandon t).fresh = r.fresh
    rcases abandon_cases r t with h | ⟨-, h⟩ <;> rw [h] <;> exact ⟨rfl, rfl⟩
  | take n =>
    refine kept fun r => ?_
    rcases perform_take r n with h | ⟨queue, command, rest, -, -, h⟩ <;> rw [h] <;>
      exact ⟨rfl, rfl⟩
  | deafen n => exact kept fun r => ⟨rfl, rfl⟩
  | dropQueue n => exact kept fun r => ⟨rfl, rfl⟩

/-! ### Everybody else -/

/-- Two registries agree on all sessions, and on what is known of all scooters but one and on their
trips. -/
structure Elsewhere (id : ScooterId) (r r' : Registry α) : Prop where
  sessions : r'.sessions = r.sessions
  fresh : r'.fresh = r.fresh
  live : ∀ id', id' ≠ id → r'.live.get? id' = r.live.get? id'
  trips : ∀ id', id' ≠ id → r'.trips.get? id' = r.trips.get? id'

namespace Elsewhere

variable {id : ScooterId} {r r' r'' : Registry α}

theorem refl (id : ScooterId) (r : Registry α) : Elsewhere id r r :=
  ⟨rfl, rfl, fun _ _ => rfl, fun _ _ => rfl⟩

theorem trans (h : Elsewhere id r r') (h' : Elsewhere id r' r'') : Elsewhere id r r'' where
  sessions := h'.sessions.trans h.sessions
  fresh := h'.fresh.trans h.fresh
  live := fun id' hid => (h'.live id' hid).trans (h.live id' hid)
  trips := fun id' hid => (h'.trips id' hid).trans (h.trips id' hid)

/-- **Whatever is called, what agrees elsewhere still does.** -/
theorem perform (h : Elsewhere id r r') (c : Call α) : Elsewhere id (r.perform c) (r'.perform c) := by
  obtain ⟨hsessions, hfresh⟩ := slots_perform h.sessions h.fresh c
  refine ⟨hsessions, hfresh, ?_, ?_⟩
  · intro id' hid
    rw [live_perform, live_perform, h.live id' hid]
  · intro id' hid
    have connected := isConnected_congr h.sessions
    have owns := owns_congr h.sessions
    have hbehind : ∀ p, c.tripBehind r' id' p = c.tripBehind r id' p := by
      intro p
      cases c <;> simp only [Call.tripBehind, connected, owns]
    rw [trips_perform, trips_perform, h.trips id' hid, hbehind]

/-- What a device reports is about its own scooter. -/
theorem of_telemetry (r : Registry α) (time : Timestamp) (m : Telemetry α) :
    Elsewhere m.scooter r (r.perform (.telemetry time m)) := by
  refine ⟨rfl, rfl, ?_, ?_⟩
  · intro id' hid
    rw [live_perform, Call.sighting?, if_neg hid.symm]
    rfl
  · intro id' hid
    rw [trips_perform, Call.tripBehind, if_neg hid.symm]

theorem of_tripEnded (r : Registry α) (time : Timestamp) (report : TripReport α) :
    Elsewhere report.scooter r (r.perform (.tripEnded time report)) := by
  have hslots : (r.perform (.tripEnded time report)).sessions = r.sessions ∧
      (r.perform (.tripEnded time report)).fresh = r.fresh := by
    rcases perform_tripEnded r time report with ⟨h, -⟩ | ⟨p, -, -, h⟩ <;> rw [h] <;>
      exact ⟨rfl, rfl⟩
  refine ⟨hslots.1, hslots.2, ?_, ?_⟩
  · intro id' hid
    rw [live_perform, Call.sighting?, if_neg hid.symm]
    rfl
  · intro id' hid
    rw [trips_perform, Call.tripBehind, if_neg hid.symm]

theorem of_take (id : ScooterId) (r : Registry α) (n : ConnectionId) :
    Elsewhere id r (r.perform (.take n)) := by
  rcases perform_take r n with h | ⟨queue, command, rest, -, -, h⟩
  · rw [h]
    exact refl id r
  · rw [h]
    exact ⟨rfl, rfl, fun _ _ => rfl, fun _ _ => rfl⟩

end Elsewhere

/-! ### Commands -/

/-- A registry without the commands that wait. -/
def sansQueues (r : Registry α) : Registry α := { r with queues := ∅ }

theorem sansQueues_interrupt (r : Registry α) (id : ScooterId) :
    (r.interrupt id).sansQueues = r.sansQueues.interrupt id := by
  have hp : r.sansQueues.trips.get? id = r.trips.get? id := rfl
  unfold interrupt
  rw [hp]
  split <;> rfl

theorem sansQueues_unregister (r : Registry α) (id : ScooterId) :
    (r.unregister id).sansQueues = (r.sansQueues.unregister id).sansQueues := by
  cases hs : r.sessions.get? id with
  | none =>
    have hs' : r.sansQueues.sessions.get? id = none := hs
    rw [unregister_of_free hs, unregister_of_free hs']
    rfl
  | some slot =>
    have hs' : r.sansQueues.sessions.get? id = some slot := hs
    rw [unregister_of_session hs, unregister_of_session hs', sansQueues_interrupt,
      sansQueues_interrupt]
    rfl

/-- **The commands that wait make no difference to anything else.** -/
theorem sansQueues_perform (r : Registry α) (c : Call α) :
    (r.perform c).sansQueues = (r.sansQueues.perform c).sansQueues := by
  -- the calls that are about commands
  have kept : (∀ r : Registry α, (r.perform c).sansQueues = r.sansQueues) →
      (r.perform c).sansQueues = (r.sansQueues.perform c).sansQueues := by
    intro h
    rw [h, h]
    rfl
  cases c with
  | register time id =>
    have hc : r.sansQueues.isConnected id = r.isConnected id := rfl
    simp only [perform, register, hc]
    cases r.isConnected id <;> rfl
  | registerFirstFree time ids =>
    have hc : ∀ id, r.sansQueues.isConnected id = r.isConnected id := fun _ => rfl
    simp only [perform, registerFirstFree, hc]
    cases ids.find? fun id => !r.isConnected id <;> rfl
  | unregister id => exact sansQueues_unregister r id
  | release g =>
    have howns : r.sansQueues.owns g = r.owns g := rfl
    simp only [perform]
    cases ho : r.owns g with
    | true =>
      rw [release_of_owns ho, release_of_owns (howns.trans ho)]
      exact sansQueues_unregister r g.scooter
    | false =>
      rw [release_of_not_owns ho, release_of_not_owns (howns.trans ho)]
      rfl
  | dispatch id destination trip =>
    refine kept fun r => ?_
    rcases perform_dispatch r id destination trip with h | ⟨slot, queue, queue', -, -, -, h⟩
    · rw [h]
    · rw [h]
      rfl
  | telemetry time m => rfl
  | tripEnded time report =>
    have hends : (r.sansQueues.see time report.scooter report.position).ends? report =
        (r.see time report.scooter report.position).ends? report := rfl
    simp only [perform, tripEnded, hends]
    cases (r.see time report.scooter report.position).ends? report <;> rfl
  | begin id trip =>
    have hc : r.sansQueues.isConnected id = r.isConnected id := rfl
    have ht : r.sansQueues.hasTrip id = r.hasTrip id := rfl
    simp only [perform, begin, hc, ht]
    cases r.isConnected id <;> cases r.hasTrip id <;> rfl
  | giveUp t | abandon t =>
    have hp : r.sansQueues.isPending t = r.isPending t := rfl
    show (r.abandon t).sansQueues = (r.sansQueues.abandon t).sansQueues
    unfold abandon
    rw [hp]
    split <;> rfl
  | take n =>
    refine kept fun r => ?_
    rcases perform_take r n with h | ⟨queue, command, rest, -, -, h⟩
    · rw [h]
    · rw [h]
      rfl
  | deafen n => rfl
  | dropQueue n => rfl

end Registry
end ScooterFleet
