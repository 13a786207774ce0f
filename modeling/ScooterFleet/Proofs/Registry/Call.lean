import ScooterFleet.Kernel.Registry

/-!
# Calls of the registry

Everything that anybody does to a registry is a sequence of calls, in whatever order the callers make
them.  This file names the calls and says once what each of them does to the tables:

* `Registry.perform` — the registry that a call leaves; a call that fails leaves the registry as it was;
* `Registry.Change` / `change_perform` — **the only changes** of the pending trips and of what waiters
  find: a trip begins, is resolved, is abandoned by its ticket, or counts a position;
* `isConnected_perform` — a slot is freed by nothing but `Call.Removes`;
* `live_perform`, `lastPosition_perform` — where a scooter was seen last is where the last call saw it.

Later proofs use these and do not open the operations again.
-/

namespace ScooterFleet
namespace Registry

variable {α : Type}

/-- One call, with what it is given. -/
inductive Call (α : Type) where
  | register (time : Timestamp) (id : ScooterId)
  | registerFirstFree (time : Timestamp) (candidates : List ScooterId)
  | unregister (id : ScooterId)
  /-- A registration is dropped. -/
  | release (owned : Registration)
  | dispatch (id : ScooterId) (destination : Position α) (trip : Option TripId)
  | telemetry (time : Timestamp) (message : Telemetry α)
  | tripEnded (time : Timestamp) (report : TripReport α)
  | begin (id : ScooterId) (trip : TripId)
  | giveUp (ticket : Ticket)
  /-- A ticket is dropped. -/
  | abandon (ticket : Ticket)
  /-- A connection receives a command, if one is there. -/
  | take (connection : ConnectionId)
  | deafen (connection : ConnectionId)
  | dropQueue (connection : ConnectionId)
  deriving DecidableEq

namespace Call

/-- The trip that a call names, if the call begins one. -/
def begun? : Call α → Option TripId
  | .begin _ trip => some trip
  | _ => none

/-- Is a call a position on the way of this scooter? -/
def counts (id : ScooterId) : Call α → Bool
  | .telemetry _ m => m.scooter = id
  | _ => false

/-- Where a call sees this scooter. -/
def sight? (id : ScooterId) : Call α → Option (Position α)
  | .telemetry _ m => if m.scooter = id then some m.position else none
  | .tripEnded _ report => if report.scooter = id then some report.position else none
  | _ => none

/-- What a call makes known of this scooter. -/
def sighting? (id : ScooterId) : Call α → Option (LiveState α)
  | .telemetry time m => if m.scooter = id then some ⟨m.position, time⟩ else none
  | .tripEnded time report => if report.scooter = id then some ⟨report.position, time⟩ else none
  | _ => none

/-- A call that removes the session of this scooter: a forced removal, or the drop of the registration
that holds the slot. -/
def Removes (r : Registry α) (id : ScooterId) : Call α → Prop
  | .unregister id' => id' = id
  | .release g => g.scooter = id ∧ r.owns g = true
  | _ => False

end Call

/-- The registry after a call. -/
def perform (r : Registry α) : Call α → Registry α
  | .register time id => match r.register time id with
    | .ok (_, r) => r
    | .error _ => r
  | .registerFirstFree time candidates => match r.registerFirstFree time candidates with
    | .ok (_, r) => r
    | .error _ => r
  | .unregister id => r.unregister id
  | .release g => r.release g
  | .dispatch id destination trip => match r.dispatch id destination trip with
    | .ok r => r
    | .error _ => r
  | .telemetry time m => (r.telemetry time m).2
  | .tripEnded time report => (r.tripEnded time report).2
  | .begin id trip => match r.begin id trip with
    | .ok (_, r) => r
    | .error _ => r
  | .giveUp t => (r.giveUp t).2
  | .abandon t => r.abandon t
  | .take c => match r.receive c with
    | .item _ rest => r.leave c rest
    | _ => r
  | .deafen c => r.deafen c
  | .dropQueue c => r.dropQueue c

/-- The registry after a history of calls, the first call first. -/
def run (r : Registry α) (history : List (Call α)) : Registry α := history.foldl perform r

@[simp] theorem run_nil (r : Registry α) : r.run [] = r := rfl

@[simp] theorem run_cons (r : Registry α) (c : Call α) (h : List (Call α)) :
    r.run (c :: h) = (r.perform c).run h := rfl

theorem run_append (r : Registry α) (h h' : List (Call α)) : r.run (h ++ h') = (r.run h).run h' :=
  List.foldl_append

@[simp] theorem run_snoc (r : Registry α) (h : List (Call α)) (c : Call α) :
    r.run (h ++ [c]) = (r.run h).perform c :=
  run_append r h [c]

/-! ### Pending trips -/

theorem isPending_iff {r : Registry α} {id : ScooterId} {trip : TripId} :
    r.isPending ⟨id, trip⟩ = true ↔ ∃ p, r.trips.get? id = some p ∧ p.trip = trip := by
  unfold isPending
  cases r.trips.get? id <;> simp

theorem isPending_of_get? {r : Registry α} {id : ScooterId} {p : PendingTrip}
    (h : r.trips.get? id = some p) : r.isPending ⟨id, p.trip⟩ = true :=
  isPending_iff.mpr ⟨p, h, rfl⟩

theorem lostSignal_of_pending {r : Registry α} {id : ScooterId} {p : PendingTrip}
    (h : r.trips.get? id = some p) :
    r.lostSignal ⟨id, p.trip⟩ = .interrupted p.ticks (r.lastPosition id) := by
  simp [lostSignal, h]

theorem lostSignal_of_not_pending {r : Registry α} {t : Ticket} (h : r.isPending t = false) :
    r.lostSignal t = .interrupted 0 (r.lastPosition t.scooter) := by
  unfold isPending at h
  unfold lostSignal
  cases hp : r.trips.get? t.scooter with
  | none => rfl
  | some p =>
    rw [hp] at h
    simp only [decide_eq_false_iff_not] at h
    simp [h]

theorem abandon_of_not_pending {r : Registry α} {t : Ticket} (h : r.isPending t = false) :
    r.abandon t = r := by
  simp [abandon, h]

theorem release_of_not_owns {r : Registry α} {g : Registration} (h : r.owns g = false) :
    r.release g = r := by
  simp [release, h]

theorem isConnected_iff {r : Registry α} {id : ScooterId} :
    r.isConnected id = true ↔ ∃ slot, r.sessions.get? id = some slot := by
  simp [isConnected, Table.contains, Option.isSome_iff_exists]

/-! ### Single operations -/

theorem interrupt_of_pending {r : Registry α} {id : ScooterId} {p : PendingTrip}
    (h : r.trips.get? id = some p) :
    r.interrupt id = r.resolve id p (.interrupted p.ticks (r.lastPosition id)) := by
  simp [interrupt, h]

theorem interrupt_of_none {r : Registry α} {id : ScooterId} (h : r.trips.get? id = none) :
    r.interrupt id = r := by
  simp [interrupt, h]

@[simp] theorem interrupt_sessions (r : Registry α) (id : ScooterId) :
    (r.interrupt id).sessions = r.sessions := by
  unfold interrupt
  split <;> rfl

@[simp] theorem interrupt_live (r : Registry α) (id : ScooterId) :
    (r.interrupt id).live = r.live := by
  unfold interrupt
  split <;> rfl

/-- The registry without a slot, before its trip is interrupted. -/
def unseat (r : Registry α) (id : ScooterId) (slot : SlotHolder) : Registry α :=
  { r with
    sessions := r.sessions.erase id
    queues := r.queues.modify slot.connection Channel.finish }

theorem unregister_of_session {r : Registry α} {id : ScooterId} {slot : SlotHolder}
    (h : r.sessions.get? id = some slot) : r.unregister id = (r.unseat id slot).interrupt id := by
  simp [unregister, unregister?, h, unseat]

theorem unregister_of_free {r : Registry α} {id : ScooterId} (h : r.sessions.get? id = none) :
    r.unregister id = r := by
  simp [unregister, unregister?, h]

theorem release_of_owns {r : Registry α} {g : Registration} (h : r.owns g = true) :
    r.release g = r.unregister g.scooter := by
  simp [release, h]

/-- What a call of `register` leaves: the registry as it was, or with one more session. -/
theorem perform_register (r : Registry α) (time : Timestamp) (id : ScooterId) :
    r.perform (.register time id) = r ∨
      r.isConnected id = false ∧ r.perform (.register time id) = (r.claim time id).2 := by
  by_cases h : r.isConnected id = true
  · exact .inl (by simp [perform, register, h])
  · exact .inr ⟨by simpa using h, by simp [perform, register, h]⟩

theorem perform_registerFirstFree (r : Registry α) (time : Timestamp) (ids : List ScooterId) :
    r.perform (.registerFirstFree time ids) = r ∨
      ∃ id, r.isConnected id = false ∧
        r.perform (.registerFirstFree time ids) = (r.claim time id).2 := by
  cases h : ids.find? fun id => !r.isConnected id with
  | none => exact .inl (by simp [perform, registerFirstFree, h])
  | some id =>
    have hfree := List.find?_some h
    exact .inr ⟨id, by simpa using hfree, by simp [perform, registerFirstFree, h]⟩

/-- A command only goes to the queue of the connection that holds the slot. -/
theorem perform_dispatch (r : Registry α) (id : ScooterId) (destination : Position α)
    (trip : Option TripId) :
    r.perform (.dispatch id destination trip) = r ∨
      ∃ slot queue queue', r.sessions.get? id = some slot ∧
        r.queues.get? slot.connection = some queue ∧
        queue.send ⟨id, destination, trip⟩ = .sent queue' ∧
        r.perform (.dispatch id destination trip) =
          { r with queues := r.queues.insert slot.connection queue' } := by
  cases hs : r.sessions.get? id with
  | none => exact .inl (by simp [perform, dispatch, hs])
  | some slot =>
    cases hq : r.queues.get? slot.connection with
    | none => exact .inl (by simp [perform, dispatch, hs, hq])
    | some queue =>
      cases hsend : queue.send ⟨id, destination, trip⟩ with
      | sent queue' =>
        exact .inr ⟨slot, queue, queue', rfl, hq, hsend, by simp [perform, dispatch, hs, hq, hsend]⟩
      | failed fault => exact .inl (by simp [perform, dispatch, hs, hq, hsend])
      | waits => exact .inl (by simp [perform, dispatch, hs, hq, hsend])

/-- Receiving changes the queue of one connection. -/
theorem perform_take (r : Registry α) (c : ConnectionId) :
    r.perform (.take c) = r ∨
      ∃ queue command rest, r.queues.get? c = some queue ∧ queue.receive = .item command rest ∧
        r.perform (.take c) = r.leave c rest := by
  cases hq : r.queues.get? c with
  | none => exact .inl (by simp [perform, receive, hq])
  | some queue =>
    cases hr : queue.receive with
    | item command rest =>
      exact .inr ⟨queue, command, rest, rfl, hr, by simp [perform, receive, hq, hr]⟩
    | ended => exact .inl (by simp [perform, receive, hq, hr])
    | waits => exact .inl (by simp [perform, receive, hq, hr])

theorem ends?_eq_some_iff {r : Registry α} {report : TripReport α} {p : PendingTrip} :
    r.ends? report = some p ↔
      r.trips.get? report.scooter = some p ∧ report.trip = some p.trip := by
  unfold ends?
  cases h : r.trips.get? report.scooter with
  | none => simp
  | some q =>
    by_cases hq : report.trip = some q.trip
    · simp only [hq, if_true, Option.some.injEq]
      constructor
      · intro he
        subst he
        exact ⟨rfl, rfl⟩
      · exact fun h => h.1
    · simp only [hq, if_false, reduceCtorEq, false_iff, not_and]
      intro he
      cases he
      exact hq

/-- A report that a pending trip of its scooter is named in. -/
theorem tripEnded_of_ends {r : Registry α} {time : Timestamp} {report : TripReport α}
    {p : PendingTrip} (h : r.trips.get? report.scooter = some p) (ht : report.trip = some p.trip) :
    r.tripEnded time report =
      (true, (r.see time report.scooter report.position).resolve report.scooter p (.ended report)) := by
  have hends : (r.see time report.scooter report.position).ends? report = some p :=
    ends?_eq_some_iff.mpr ⟨h, ht⟩
  simp [tripEnded, hends]

/-- Any other report only tells where the scooter stands. -/
theorem tripEnded_of_stray {r : Registry α} {time : Timestamp} {report : TripReport α}
    (h : ∀ p, r.trips.get? report.scooter = some p → report.trip ≠ some p.trip) :
    r.tripEnded time report = (false, r.see time report.scooter report.position) := by
  have hends : (r.see time report.scooter report.position).ends? report = none := by
    rw [Option.eq_none_iff_forall_ne_some]
    intro p hp
    obtain ⟨hp, ht⟩ := ends?_eq_some_iff.mp hp
    exact h p hp ht
  simp [tripEnded, hends]

theorem hasTrip_eq_false_iff {r : Registry α} {id : ScooterId} :
    r.hasTrip id = false ↔ r.trips.get? id = none := by
  simp [hasTrip, Table.contains]

/-- What a report leaves: the position, and if it names the pending trip of its scooter, a signal. -/
theorem perform_tripEnded (r : Registry α) (time : Timestamp) (report : TripReport α) :
    (r.perform (.tripEnded time report) = r.see time report.scooter report.position ∧
        ∀ p, r.trips.get? report.scooter = some p → report.trip ≠ some p.trip) ∨
      ∃ p, r.trips.get? report.scooter = some p ∧ report.trip = some p.trip ∧
        r.perform (.tripEnded time report) =
          (r.see time report.scooter report.position).resolve report.scooter p (.ended report) := by
  by_cases h : ∃ p, r.trips.get? report.scooter = some p ∧ report.trip = some p.trip
  · obtain ⟨p, hp, ht⟩ := h
    exact .inr ⟨p, hp, ht, by simp only [perform, tripEnded_of_ends hp ht]⟩
  · have hs : ∀ p, r.trips.get? report.scooter = some p → report.trip ≠ some p.trip :=
      fun p hp ht => h ⟨p, hp, ht⟩
    exact .inl ⟨by simp only [perform, tripEnded_of_stray hs], hs⟩

/-- A trip begins where the scooter is connected and has none. -/
theorem perform_begin (r : Registry α) (id : ScooterId) (trip : TripId) :
    r.perform (.begin id trip) = r ∨
      r.isConnected id = true ∧ r.trips.get? id = none ∧
        r.perform (.begin id trip) = { r with trips := r.trips.insert id ⟨trip, 0⟩ } := by
  cases hc : r.isConnected id with
  | false => exact .inl (by simp [perform, begin, hc])
  | true =>
    cases ht : r.hasTrip id with
    | true => exact .inl (by simp [perform, begin, hc, ht])
    | false => exact .inr ⟨rfl, hasTrip_eq_false_iff.mp ht, by simp [perform, begin, hc, ht]⟩

/-- An abandonment takes out the trip of its own ticket and nothing else. -/
theorem abandon_cases (r : Registry α) (t : Ticket) :
    r.abandon t = r ∨
      r.isPending t = true ∧ r.abandon t = { r with trips := r.trips.erase t.scooter } := by
  by_cases h : r.isPending t = true
  · exact .inr ⟨h, by simp [abandon, h]⟩
  · exact .inl (abandon_of_not_pending (by simpa using h))

/-! ### What a call changes -/

/-- Why a trip is resolved, and with which signal. -/
inductive Cause (r : Registry α) (id : ScooterId) (p : PendingTrip) : Call α → TripSignal α → Prop
  /-- The report that names the trip came from its scooter. -/
  | reported {time : Timestamp} {report : TripReport α} (scooter : report.scooter = id)
      (trip : report.trip = some p.trip) : Cause r id p (.tripEnded time report) (.ended report)
  /-- The session of its scooter was removed. -/
  | removed {c : Call α} (removes : c.Removes r id) :
      Cause r id p c (.interrupted p.ticks (r.lastPosition id))

/-- What a call does to the pending trips and to what waiters find. -/
inductive Change (r : Registry α) (c : Call α) : Prop
  | begun (id : ScooterId) (trip : TripId) (call : c = .begin id trip)
      (connected : r.isConnected id = true) (free : r.trips.get? id = none)
      (trips : (r.perform c).trips = r.trips.insert id ⟨trip, 0⟩)
      (resolutions : (r.perform c).resolutions = r.resolutions)
  | resolved (id : ScooterId) (p : PendingTrip) (signal : TripSignal α)
      (pending : r.trips.get? id = some p) (cause : Cause r id p c signal)
      (trips : (r.perform c).trips = r.trips.erase id)
      (resolutions : (r.perform c).resolutions = r.resolutions.insert p.trip ⟨p.ticks, signal⟩)
  | abandoned (t : Ticket) (call : c = .giveUp t ∨ c = .abandon t) (pending : r.isPending t = true)
      (trips : (r.perform c).trips = r.trips.erase t.scooter)
      (resolutions : (r.perform c).resolutions = r.resolutions)
  | counted (time : Timestamp) (m : Telemetry α) (call : c = .telemetry time m)
      (trips : (r.perform c).trips =
        r.trips.modify m.scooter fun p => { p with ticks := p.ticks + 1 })
      (resolutions : (r.perform c).resolutions = r.resolutions)
  | kept (uncounted : ∀ id, c.counts id = false)
      (trips : (r.perform c).trips = r.trips)
      (resolutions : (r.perform c).resolutions = r.resolutions)

theorem change_of_same {r : Registry α} {c : Call α} (hu : ∀ id, c.counts id = false)
    (h : r.perform c = r) : Change r c :=
  .kept hu (by rw [h]) (by rw [h])

/-- Removing the session of a scooter resolves its pending trip, if there is one. -/
theorem change_of_removes {r : Registry α} {c : Call α} {id : ScooterId} (hr : c.Removes r id)
    (hu : ∀ id, c.counts id = false) (h : r.perform c = r.unregister id) : Change r c := by
  cases hs : r.sessions.get? id with
  | none =>
    rw [unregister_of_free hs] at h
    exact change_of_same hu h
  | some slot =>
    rw [unregister_of_session hs] at h
    cases hp : r.trips.get? id with
    | none =>
      have hn : (r.unseat id slot).interrupt id = r.unseat id slot := interrupt_of_none hp
      exact .kept hu (by rw [h, hn]; rfl) (by rw [h, hn]; rfl)
    | some p =>
      have hn : (r.unseat id slot).interrupt id =
          (r.unseat id slot).resolve id p (.interrupted p.ticks (r.lastPosition id)) :=
        interrupt_of_pending hp
      exact .resolved id p _ hp (.removed hr) (by rw [h, hn]; rfl) (by rw [h, hn]; rfl)

theorem change_of_abandon {r : Registry α} {c : Call α} {t : Ticket}
    (hc : c = .giveUp t ∨ c = .abandon t) (h : r.perform c = r.abandon t) : Change r c := by
  rcases abandon_cases r t with ha | ⟨hp, ha⟩
  · refine change_of_same ?_ (h.trans ha)
    rcases hc with rfl | rfl <;> exact fun _ => rfl
  · exact .abandoned t hc hp (by rw [h, ha]) (by rw [h, ha])

/-- **Every call changes the pending trips in one of these ways.** -/
theorem change_perform (r : Registry α) (c : Call α) : Change r c := by
  cases c with
  | register time id =>
    rcases perform_register r time id with h | ⟨-, h⟩
    · exact change_of_same (fun _ => rfl) h
    · exact .kept (fun _ => rfl) (by rw [h]; rfl) (by rw [h]; rfl)
  | registerFirstFree time ids =>
    rcases perform_registerFirstFree r time ids with h | ⟨id, -, h⟩
    · exact change_of_same (fun _ => rfl) h
    · exact .kept (fun _ => rfl) (by rw [h]; rfl) (by rw [h]; rfl)
  | unregister id =>
    have hr : (Call.unregister id).Removes r id := rfl
    exact change_of_removes hr (fun _ => rfl) rfl
  | release g =>
    by_cases ho : r.owns g = true
    · have hr : (Call.release g).Removes r g.scooter := ⟨rfl, ho⟩
      exact change_of_removes hr (fun _ => rfl) (release_of_owns ho)
    · exact change_of_same (fun _ => rfl) (release_of_not_owns (by simpa using ho))
  | dispatch id destination trip =>
    rcases perform_dispatch r id destination trip with h | ⟨slot, queue, queue', -, -, -, h⟩
    · exact change_of_same (fun _ => rfl) h
    · exact .kept (fun _ => rfl) (by rw [h]) (by rw [h])
  | telemetry time m => exact .counted time m rfl rfl rfl
  | tripEnded time report =>
    rcases perform_tripEnded r time report with ⟨h, -⟩ | ⟨p, hp, ht, h⟩
    · exact .kept (fun _ => rfl) (by rw [h]; rfl) (by rw [h]; rfl)
    · exact .resolved report.scooter p _ hp (.reported rfl ht) (by rw [h]; rfl) (by rw [h]; rfl)
  | begin id trip =>
    rcases perform_begin r id trip with h | ⟨hc, hp, h⟩
    · exact change_of_same (fun _ => rfl) h
    · exact .begun id trip rfl hc hp (by rw [h]) (by rw [h])
  | giveUp t => exact change_of_abandon (.inl rfl) rfl
  | abandon t => exact change_of_abandon (.inr rfl) rfl
  | take c =>
    rcases perform_take r c with h | ⟨queue, command, rest, -, -, h⟩
    · exact change_of_same (fun _ => rfl) h
    · exact .kept (fun _ => rfl) (by rw [h]; rfl) (by rw [h]; rfl)
  | deafen c => exact .kept (fun _ => rfl) rfl rfl
  | dropQueue c => exact .kept (fun _ => rfl) rfl rfl

/-- A call that removes a session takes the slot, and the scooter has no pending trip any more. -/
theorem perform_of_removes {r : Registry α} {c : Call α} {id : ScooterId} {slot : SlotHolder}
    (hr : c.Removes r id) (hs : r.sessions.get? id = some slot) :
    (r.perform c).sessions = r.sessions.erase id ∧ (r.perform c).trips.get? id = none := by
  have h : r.perform c = (r.unseat id slot).interrupt id := by
    cases c with
    | unregister id' =>
      cases hr
      exact unregister_of_session hs
    | release g =>
      obtain ⟨rfl, ho⟩ := hr
      exact (release_of_owns ho).trans (unregister_of_session hs)
    | _ => exact hr.elim
  refine ⟨by rw [h, interrupt_sessions]; rfl, ?_⟩
  rw [h]
  cases hp : r.trips.get? id with
  | none =>
    have hn : (r.unseat id slot).interrupt id = r.unseat id slot := interrupt_of_none hp
    rw [hn]
    exact hp
  | some p =>
    have hn : (r.unseat id slot).interrupt id =
        (r.unseat id slot).resolve id p (.interrupted p.ticks (r.lastPosition id)) :=
      interrupt_of_pending hp
    rw [hn]
    exact Table.get?_erase_self r.trips id

theorem isConnected_claim {r : Registry α} {time : Timestamp} {id id' : ScooterId}
    (h : r.isConnected id = true) : (r.claim time id').2.isConnected id = true := by
  obtain ⟨slot, hs⟩ := isConnected_iff.mp h
  rw [isConnected_iff]
  by_cases hid : id' = id
  · subst hid
    exact ⟨_, Table.get?_insert_self _ _ _⟩
  · exact ⟨slot, (Table.get?_insert_of_ne _ _ hid).trans hs⟩

/-- A removal leaves the sessions of other scooters. -/
theorem isConnected_unregister_of_ne {r : Registry α} {id id' : ScooterId} (hid : id' ≠ id) :
    (r.unregister id').isConnected id = r.isConnected id := by
  cases hs : r.sessions.get? id' with
  | none => rw [unregister_of_free hs]
  | some slot =>
    rw [unregister_of_session hs, isConnected, interrupt_sessions]
    unfold isConnected Table.contains
    rw [show (r.unseat id' slot).sessions = r.sessions.erase id' from rfl,
      Table.get?_erase_of_ne _ hid]

/-- **A slot is freed by a removal only.** -/
theorem isConnected_perform {r : Registry α} {c : Call α} {id : ScooterId}
    (h : r.isConnected id = true) : (r.perform c).isConnected id = true ∨ c.Removes r id := by
  cases c with
  | register time id' =>
    rcases perform_register r time id' with he | ⟨-, he⟩
    · exact .inl (by rw [he, h])
    · exact .inl (by rw [he, isConnected_claim h])
  | registerFirstFree time ids =>
    rcases perform_registerFirstFree r time ids with he | ⟨id', -, he⟩
    · exact .inl (by rw [he, h])
    · exact .inl (by rw [he, isConnected_claim h])
  | unregister id' =>
    by_cases hid : id' = id
    · exact .inr hid
    · exact .inl ((isConnected_unregister_of_ne hid).trans h)
  | release g =>
    by_cases ho : r.owns g = true
    · by_cases hid : g.scooter = id
      · exact .inr ⟨hid, ho⟩
      · refine .inl ?_
        show (r.release g).isConnected id = true
        rw [release_of_owns ho, isConnected_unregister_of_ne hid, h]
    · refine .inl ?_
      show (r.release g).isConnected id = true
      rw [release_of_not_owns (by simpa using ho), h]
  | dispatch id' destination trip =>
    rcases perform_dispatch r id' destination trip with he | ⟨slot, queue, queue', -, -, -, he⟩ <;>
      exact .inl (by rw [he]; exact h)
  | tripEnded time report =>
    rcases perform_tripEnded r time report with ⟨he, -⟩ | ⟨p, -, -, he⟩ <;>
      exact .inl (by rw [he]; exact h)
  | begin id' trip =>
    rcases perform_begin r id' trip with he | ⟨-, -, he⟩ <;> exact .inl (by rw [he]; exact h)
  | giveUp t | abandon t =>
    rcases abandon_cases r t with he | ⟨-, he⟩ <;>
      exact .inl (show (r.abandon t).isConnected id = true by rw [he]; exact h)
  | take c =>
    rcases perform_take r c with he | ⟨queue, command, rest, -, -, he⟩ <;>
      exact .inl (by rw [he]; exact h)
  | telemetry time m => exact .inl h
  | deafen c => exact .inl h
  | dropQueue c => exact .inl h

theorem live_unregister (r : Registry α) (id : ScooterId) : (r.unregister id).live = r.live := by
  cases hs : r.sessions.get? id with
  | none => rw [unregister_of_free hs]
  | some slot =>
    rw [unregister_of_session hs, interrupt_live]
    rfl

/-- **What is known of a scooter is what the last call saw of it.** -/
theorem live_perform (r : Registry α) (c : Call α) (id : ScooterId) :
    (r.perform c).live.get? id = (c.sighting? id).or (r.live.get? id) := by
  have of_live : ∀ {r' : Registry α}, r'.live = r.live → r'.live.get? id = r.live.get? id := by
    intro r' h
    rw [h]
  cases c with
  | register time id' =>
    rcases perform_register r time id' with h | ⟨-, h⟩ <;> rw [h] <;> rfl
  | registerFirstFree time ids =>
    rcases perform_registerFirstFree r time ids with h | ⟨id', -, h⟩ <;> rw [h] <;> rfl
  | unregister id' => exact of_live (live_unregister r id')
  | release g =>
    by_cases ho : r.owns g = true
    · exact of_live ((congrArg live (release_of_owns ho)).trans (live_unregister r g.scooter))
    · exact of_live (congrArg live (release_of_not_owns (by simpa using ho)))
  | dispatch id' destination trip =>
    rcases perform_dispatch r id' destination trip with h | ⟨slot, queue, queue', -, -, -, h⟩ <;>
      rw [h] <;> rfl
  | telemetry time m =>
    show (r.live.insert m.scooter ⟨m.position, time⟩).get? id = _
    rw [Table.get?_insert, Call.sighting?]
    split <;> rfl
  | tripEnded time report =>
    have h : (r.perform (.tripEnded time report)).live =
        r.live.insert report.scooter ⟨report.position, time⟩ := by
      rcases perform_tripEnded r time report with ⟨h, -⟩ | ⟨p, -, -, h⟩ <;> rw [h] <;> rfl
    rw [h, Table.get?_insert, Call.sighting?]
    split <;> rfl
  | begin id' trip =>
    rcases perform_begin r id' trip with h | ⟨-, -, h⟩ <;> rw [h] <;> rfl
  | giveUp t | abandon t =>
    refine of_live ?_
    show (r.abandon t).live = r.live
    rcases abandon_cases r t with h | ⟨-, h⟩ <;> rw [h]
  | take c =>
    rcases perform_take r c with h | ⟨queue, command, rest, -, -, h⟩ <;> rw [h] <;> rfl
  | deafen c => rfl
  | dropQueue c => rfl

/-- Where a scooter was seen last is where the last call saw it. -/
theorem lastPosition_perform (r : Registry α) (c : Call α) (id : ScooterId) :
    (r.perform c).lastPosition id = (c.sight? id).or (r.lastPosition id) := by
  have hsight : (c.sighting? id).map LiveState.position = c.sight? id := by
    cases c with
    | telemetry time m | tripEnded time report =>
      simp only [Call.sighting?, Call.sight?]
      split <;> rfl
    | _ => rfl
  rw [lastPosition, live_perform, Option.map_or, ← hsight]
  rfl

end Registry
end ScooterFleet
