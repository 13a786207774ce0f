import Mathlib.Data.List.Induction
import ScooterFleet.Proofs.Registry.Call

/-!
# The life of a trip

A trip that has begun is pending until one call takes it out of the table, and then never again.

* `Departure` — the three ways out, with what the waiter is sent: the trip's own report, the removal
  of its scooter's session, or its own ticket;
* `Waiting` / `waiting_perform` — **the step lemma**: one call leaves a pending trip pending, with its
  position counted, or is a departure;
* `Gone` / `gone_perform` — a trip that has left stays away, and what its waiter finds does not change;
* `Exits` / `Waiting.exits` — each way out is open to a pending trip;
* `trip_leaves_once` — the run: any history of calls, in any order, by anybody.

Names of trips are fresh: no two calls of a history begin trips of one name.
-/

namespace ScooterFleet
namespace Registry

variable {α : Type}

/-- The names under which a history begins trips. -/
def named (h : List (Call α)) : List TripId := h.filterMap Call.begun?

/-- How often a history counts a position on the way of a scooter. -/
def ticksIn (id : ScooterId) (h : List (Call α)) : Nat := h.countP (Call.counts id)

/-- Where a history saw a scooter last. -/
def lastSeen (id : ScooterId) (h : List (Call α)) : Option (Position α) :=
  (h.filterMap (Call.sight? id)).getLast?

/-- The registry after a history that starts with an empty one. -/
def after (hub : Hub α) (h : List (Call α)) : Registry α := (create hub).run h

@[simp] theorem after_snoc (hub : Hub α) (h : List (Call α)) (c : Call α) :
    after hub (h ++ [c]) = (after hub h).perform c :=
  run_snoc _ h c

theorem named_append (h h' : List (Call α)) : named (h ++ h') = named h ++ named h' :=
  List.filterMap_append

theorem ticksIn_snoc (id : ScooterId) (h : List (Call α)) (c : Call α) :
    ticksIn id (h ++ [c]) = ticksIn id h + if c.counts id then 1 else 0 := by
  simp [ticksIn, List.countP_append, List.countP_singleton]

theorem lastSeen_snoc (id : ScooterId) (h : List (Call α)) (c : Call α) :
    lastSeen id (h ++ [c]) = (c.sight? id).or (lastSeen id h) := by
  unfold lastSeen
  rw [List.filterMap_append]
  cases hs : c.sight? id <;> simp [hs]

/-- The table of last positions holds what the history saw last. -/
theorem lastPosition_after (hub : Hub α) (h : List (Call α)) (id : ScooterId) :
    (after hub h).lastPosition id = lastSeen id h := by
  induction h using List.reverseRecOn with
  | nil => rfl
  | append_singleton h c ih => rw [after_snoc, lastPosition_perform, ih, lastSeen_snoc]

/-! ### One call -/

/-- How a pending trip leaves the table, and what its waiter is sent.  `ticks` and `last` are what is
known of the trip then. -/
inductive Departure (r : Registry α) (id : ScooterId) (trip : TripId) (ticks : Nat)
    (last : Option (Position α)) : Call α → Option (TripSignal α) → Prop
  | reported {time : Timestamp} {report : TripReport α} (scooter : report.scooter = id)
      (own : report.trip = some trip) (taken : (r.tripEnded time report).1 = true) :
      Departure r id trip ticks last (.tripEnded time report) (some (.ended report))
  | removed {c : Call α} (removes : c.Removes r id) :
      Departure r id trip ticks last c (some (.interrupted ticks last))
  | abandoned {c : Call α} (own : c = .giveUp ⟨id, trip⟩ ∨ c = .abandon ⟨id, trip⟩)
      (yields : (r.giveUp ⟨id, trip⟩).1 = .interrupted ticks last) :
      Departure r id trip ticks last c none

/-- A trip that is pending with this count, for this scooter only, and nothing was sent yet. -/
structure Waiting (r : Registry α) (id : ScooterId) (trip : TripId) (ticks : Nat) : Prop where
  pending : r.trips.get? id = some ⟨trip, ticks⟩
  only : ∀ id' p, r.trips.get? id' = some p → p.trip = trip → id' = id
  silent : r.resolutions.get? trip = none

/-- A trip that is pending nowhere; its waiter finds this. -/
structure Gone (r : Registry α) (trip : TripId) (signal : Option (TripSignal α)) : Prop where
  absent : ∀ id p, r.trips.get? id = some p → p.trip ≠ trip
  sent : (r.resolutions.get? trip).map Resolution.signal = signal

theorem Gone.not_pending {r : Registry α} {trip : TripId} {signal : Option (TripSignal α)}
    (h : Gone r trip signal) (id : ScooterId) : r.isPending ⟨id, trip⟩ = false := by
  rw [Bool.eq_false_iff]
  intro hp
  obtain ⟨p, hp, ht⟩ := isPending_iff.mp hp
  exact h.absent id p hp ht

/-- When the trip is taken out, nobody has it. -/
theorem Waiting.absent_of_erase {r r' : Registry α} {id : ScooterId} {trip : TripId} {n : Nat}
    (h : Waiting r id trip n) (ht : r'.trips = r.trips.erase id) :
    ∀ id' p, r'.trips.get? id' = some p → p.trip ≠ trip := by
  intro id' p hp hpt
  rw [ht, Table.get?_erase] at hp
  split at hp
  · cases hp
  · next hne => exact hne (h.only id' p hp hpt).symm

/-- A change of other scooters' trips leaves the trip pending. -/
theorem Waiting.of_erase_ne {r r' : Registry α} {id id' : ScooterId} {trip : TripId} {n : Nat}
    (h : Waiting r id trip n) (hid : id' ≠ id) (ht : r'.trips = r.trips.erase id')
    (hr : r'.resolutions.get? trip = none) : Waiting r' id trip n where
  pending := by rw [ht, Table.get?_erase_of_ne _ hid, h.pending]
  only := by
    intro j p hp
    rw [ht, Table.get?_erase] at hp
    split at hp
    · cases hp
    · exact h.only j p hp
  silent := hr

/-- **One call leaves a pending trip pending, or is a departure.** -/
theorem waiting_perform {r : Registry α} {id : ScooterId} {trip : TripId} {n : Nat} {c : Call α}
    (h : Waiting r id trip n) (hc : c.begun? ≠ some trip) :
    Waiting (r.perform c) id trip (n + if c.counts id then 1 else 0) ∨
      ∃ signal, Departure r id trip n (r.lastPosition id) c signal ∧
        Gone (r.perform c) trip signal := by
  cases change_perform r c with
  | begun id' trip' call connected free trips resolutions =>
    subst call
    have hid : id' ≠ id := by
      intro he
      subst he
      rw [h.pending] at free
      cases free
    have htrip : trip' ≠ trip := fun e => hc (by rw [e]; rfl)
    refine .inl ⟨?_, ?_, by rw [resolutions, h.silent]⟩
    · rw [trips, Table.get?_insert_of_ne _ _ hid, h.pending]
      rfl
    · intro j p hp hpt
      rw [trips, Table.get?_insert] at hp
      split at hp
      · cases hp
        exact absurd hpt htrip
      · exact h.only j p hp hpt
  | resolved id' p signal pending cause trips resolutions =>
    by_cases hid : id' = id
    · subst hid
      rw [h.pending] at pending
      cases pending
      refine .inr ⟨some signal, ?_, h.absent_of_erase trips, by simp [resolutions]⟩
      cases cause with
      | reported scooter own =>
        subst scooter
        exact .reported rfl own (by rw [tripEnded_of_ends h.pending own])
      | removed removes => exact .removed removes
    · have htrip : p.trip ≠ trip := fun e => hid (h.only id' p pending e)
      have hn : c.counts id = false := by cases c <;> cases cause <;> first | rfl | contradiction
      rw [hn]
      refine .inl (h.of_erase_ne hid trips ?_)
      rw [resolutions, Table.get?_insert_of_ne _ _ htrip, h.silent]
  | abandoned t call pending trips resolutions =>
    by_cases hid : t.scooter = id
    · obtain ⟨p, hp, hpt⟩ := isPending_iff.mp pending
      rw [hid, h.pending] at hp
      cases hp
      obtain ⟨_, _⟩ := t
      cases hid
      cases hpt
      refine .inr ⟨none, .abandoned call (lostSignal_of_pending h.pending),
        h.absent_of_erase trips, ?_⟩
      rw [resolutions, h.silent]
      rfl
    · have hn : c.counts id = false := by rcases call with rfl | rfl <;> rfl
      rw [hn]
      exact .inl (h.of_erase_ne hid trips (by rw [resolutions, h.silent]))
  | counted time m call trips resolutions =>
    subst call
    refine .inl ⟨?_, ?_, by rw [resolutions, h.silent]⟩
    · rw [trips, Table.get?_modify, h.pending]
      by_cases hm : m.scooter = id <;> simp [hm, Call.counts]
    · intro j p hp hpt
      rw [trips, Table.get?_modify] at hp
      split at hp
      · obtain ⟨q, hq, rfl⟩ := Option.map_eq_some_iff.mp hp
        exact h.only j q hq hpt
      · exact h.only j p hp hpt
  | kept uncounted trips resolutions =>
    rw [uncounted id]
    exact .inl ⟨by rw [trips, h.pending]; rfl, by rw [trips]; exact h.only,
      by rw [resolutions, h.silent]⟩

/-- A trip that begins under a name that is not in use waits. -/
theorem waiting_of_unused {r r' : Registry α} {id : ScooterId} {trip : TripId} {t : Ticket}
    (granted : r.begin id trip = .ok (t, r'))
    (new : ∀ id' p, r.trips.get? id' = some p → p.trip ≠ trip)
    (silent : r.resolutions.get? trip = none) :
    t = ⟨id, trip⟩ ∧ Waiting (r.perform (.begin id trip)) id trip 0 := by
  have hticket : t = ⟨id, trip⟩ ∧ r.perform (.begin id trip) =
      { r with trips := r.trips.insert id ⟨trip, 0⟩ } := by
    simp only [perform, granted]
    unfold begin at granted
    grind
  obtain ⟨rfl, hbegun⟩ := hticket
  rw [hbegun]
  refine ⟨rfl, Table.get?_insert_self _ _ _, ?_, silent⟩
  intro j p hp hpt
  simp only [Table.get?_insert] at hp
  split at hp
  · next hid => exact hid.symm
  · exact absurd hpt (new j p hp)

/-- A trip that has left does not come back. -/
theorem gone_perform {r : Registry α} {trip : TripId} {signal : Option (TripSignal α)} {c : Call α}
    (h : Gone r trip signal) (hc : c.begun? ≠ some trip) : Gone (r.perform c) trip signal := by
  cases change_perform r c with
  | begun id trip' call connected free trips resolutions =>
    subst call
    refine ⟨?_, by rw [resolutions, h.sent]⟩
    intro j p hp
    rw [trips, Table.get?_insert] at hp
    split at hp
    · cases hp
      exact fun e => hc (by rw [← e]; rfl)
    · exact h.absent j p hp
  | resolved id p signal' pending cause trips resolutions =>
    refine ⟨?_, ?_⟩
    · intro j q hq
      rw [trips, Table.get?_erase] at hq
      split at hq
      · cases hq
      · exact h.absent j q hq
    · rw [resolutions, Table.get?_insert_of_ne _ _ (h.absent id p pending), h.sent]
  | abandoned t call pending trips resolutions =>
    refine ⟨?_, by rw [resolutions, h.sent]⟩
    intro j q hq
    rw [trips, Table.get?_erase] at hq
    split at hq
    · cases hq
    · exact h.absent j q hq
  | counted time m call trips resolutions =>
    refine ⟨?_, by rw [resolutions, h.sent]⟩
    intro j q hq
    rw [trips, Table.get?_modify] at hq
    split at hq
    · obtain ⟨p, hp, rfl⟩ := Option.map_eq_some_iff.mp hq
      exact h.absent j p hp
    · exact h.absent j q hq
  | kept uncounted trips resolutions =>
    exact ⟨by rw [trips]; exact h.absent, by rw [resolutions, h.sent]⟩

/-! ### The ways out -/

section Ways

variable {r : Registry α} {id : ScooterId} {trip : TripId} {n : Nat} {c : Call α}

/-- A pending trip takes its own report. -/
theorem Waiting.gone_of_report (h : Waiting r id trip n) {report : TripReport α}
    (scooter : report.scooter = id) (own : report.trip = some trip) (time : Timestamp) :
    (r.tripEnded time report).1 = true ∧
      Gone (r.perform (.tripEnded time report)) trip (some (.ended report)) := by
  subst scooter
  have htaken : r.tripEnded time report = (true, _) := tripEnded_of_ends h.pending own
  have hperform : r.perform (.tripEnded time report) =
      (r.see time report.scooter report.position).resolve report.scooter ⟨trip, n⟩ (.ended report) :=
    congrArg Prod.snd htaken
  refine ⟨congrArg Prod.fst htaken, ?_, ?_⟩
  · rw [hperform]
    exact h.absent_of_erase rfl
  · rw [hperform]
    exact congrArg (Option.map Resolution.signal) (Table.get?_insert_self r.resolutions trip _)

/-- With its session, a pending trip leaves. -/
theorem Waiting.gone_of_removes (h : Waiting r id trip n) (connected : r.isConnected id = true)
    (removes : c.Removes r id) : Gone (r.perform c) trip (some (.interrupted n (r.lastPosition id))) := by
  have hbegun : c.begun? ≠ some trip := by
    cases c with
    | begin id' trip' => exact removes.elim
    | _ => exact nofun
  obtain ⟨slot, hslot⟩ := isConnected_iff.mp connected
  rcases waiting_perform h hbegun with stays | ⟨signal, departure, gone⟩
  · have hpending := stays.pending
    rw [(perform_of_removes removes hslot).2] at hpending
    cases hpending
  · cases departure with
    | reported => exact removes.elim
    | removed => exact gone
    | abandoned own => rcases own with rfl | rfl <;> exact removes.elim

/-- Its own ticket takes a pending trip out. -/
theorem Waiting.gone_of_abandon (h : Waiting r id trip n) : Gone (r.abandon ⟨id, trip⟩) trip none := by
  have he : r.abandon ⟨id, trip⟩ = { r with trips := r.trips.erase id } :=
    if_pos (isPending_of_get? h.pending)
  rw [he]
  exact ⟨h.absent_of_erase rfl, by rw [h.silent]; rfl⟩

/-- Each way out of the table takes the trip out, and its waiter is sent what it should be. -/
structure Exits (r : Registry α) (id : ScooterId) (trip : TripId) (ticks : Nat)
    (last : Option (Position α)) : Prop where
  reported : ∀ time report, report.scooter = id → report.trip = some trip →
    (r.tripEnded time report).1 = true ∧
      Gone (r.perform (.tripEnded time report)) trip (some (.ended report))
  removed : ∀ c : Call α, c.Removes r id → Gone (r.perform c) trip (some (.interrupted ticks last))
  yields : (r.giveUp ⟨id, trip⟩).1 = .interrupted ticks last
  abandoned : ∀ c : Call α, c = .giveUp ⟨id, trip⟩ ∨ c = .abandon ⟨id, trip⟩ →
    Gone (r.perform c) trip none

/-- **Each way out is open to a pending trip.** -/
theorem Waiting.exits (h : Waiting r id trip n) (connected : r.isConnected id = true) :
    Exits r id trip n (r.lastPosition id) where
  reported := fun time _ scooter own => h.gone_of_report scooter own time
  removed := fun _ removes => h.gone_of_removes connected removes
  yields := lostSignal_of_pending h.pending
  abandoned := by
    rintro c (rfl | rfl) <;> exact h.gone_of_abandon

end Ways

/-! ### Histories -/

/-- What is in the tables was named by a call. -/
structure Named (r : Registry α) (names : List TripId) : Prop where
  pending : ∀ id p, r.trips.get? id = some p → p.trip ∈ names
  sent : ∀ trip resolution, r.resolutions.get? trip = some resolution → trip ∈ names

theorem Named.perform {r : Registry α} {names : List TripId} (h : Named r names) (c : Call α) :
    Named (r.perform c) (names ++ named [c]) := by
  have old : ∀ {trip}, trip ∈ names → trip ∈ names ++ named [c] := List.mem_append_left _
  cases change_perform r c with
  | begun id trip call connected free trips resolutions =>
    subst call
    refine ⟨?_, by rw [resolutions]; exact fun t q hq => old (h.sent t q hq)⟩
    intro j p hp
    rw [trips, Table.get?_insert] at hp
    split at hp
    · cases hp
      exact List.mem_append_right _ (List.mem_singleton.mpr rfl)
    · exact old (h.pending j p hp)
  | resolved id p signal pending cause trips resolutions =>
    refine ⟨?_, ?_⟩
    · intro j q hq
      rw [trips, Table.get?_erase] at hq
      split at hq
      · cases hq
      · exact old (h.pending j q hq)
    · intro t q hq
      rw [resolutions, Table.get?_insert] at hq
      split at hq
      · next ht => exact ht ▸ old (h.pending id p pending)
      · exact old (h.sent t q hq)
  | abandoned t call pending trips resolutions =>
    refine ⟨?_, by rw [resolutions]; exact fun t q hq => old (h.sent t q hq)⟩
    intro j q hq
    rw [trips, Table.get?_erase] at hq
    split at hq
    · cases hq
    · exact old (h.pending j q hq)
  | counted time m call trips resolutions =>
    refine ⟨?_, by rw [resolutions]; exact fun t q hq => old (h.sent t q hq)⟩
    intro j q hq
    rw [trips, Table.get?_modify] at hq
    split at hq
    · obtain ⟨p, hp, rfl⟩ := Option.map_eq_some_iff.mp hq
      exact old (h.pending j p hp)
    · exact old (h.pending j q hq)
  | kept uncounted trips resolutions =>
    exact ⟨by rw [trips]; exact fun j q hq => old (h.pending j q hq),
      by rw [resolutions]; exact fun t q hq => old (h.sent t q hq)⟩

theorem named_after (hub : Hub α) (h : List (Call α)) : Named (after hub h) (named h) := by
  induction h using List.reverseRecOn with
  | nil => exact ⟨nofun, nofun⟩
  | append_singleton h c ih =>
    rw [after_snoc, named_append]
    exact ih.perform c

/-- What is pending behind a call was pending before it, or has just begun. -/
theorem pending_perform {r : Registry α} {c : Call α} {id : ScooterId} {p : PendingTrip}
    (h : (r.perform c).trips.get? id = some p) :
    (∃ q, r.trips.get? id = some q ∧ q.trip = p.trip) ∨
      c = .begin id p.trip ∧ r.isConnected id = true ∧ r.trips.get? id = none ∧ p.ticks = 0 := by
  cases change_perform r c with
  | begun id' trip call connected free trips resolutions =>
    rw [trips, Table.get?_insert] at h
    split at h
    · next hid =>
      cases h
      exact .inr ⟨hid ▸ call, hid ▸ connected, hid ▸ free, rfl⟩
    · exact .inl ⟨p, h, rfl⟩
  | resolved id' q signal pending cause trips resolutions =>
    rw [trips, Table.get?_erase] at h
    split at h
    · cases h
    · exact .inl ⟨p, h, rfl⟩
  | abandoned t call pending trips resolutions =>
    rw [trips, Table.get?_erase] at h
    split at h
    · cases h
    · exact .inl ⟨p, h, rfl⟩
  | counted time m call trips resolutions =>
    rw [trips, Table.get?_modify] at h
    split at h
    · obtain ⟨q, hq, rfl⟩ := Option.map_eq_some_iff.mp h
      exact .inl ⟨q, hq, rfl⟩
    · exact .inl ⟨p, h, rfl⟩
  | kept uncounted trips resolutions =>
    rw [trips] at h
    exact .inl ⟨p, h, rfl⟩

/-- A pending trip keeps its scooter's session: what removes the session takes the trip out. -/
theorem connected_perform {r : Registry α} {c : Call α} {id : ScooterId}
    (h : ∀ p, r.trips.get? id = some p → r.isConnected id = true) :
    ∀ p, (r.perform c).trips.get? id = some p → (r.perform c).isConnected id = true := by
  intro p hp
  have hconnected : r.isConnected id = true := by
    rcases pending_perform hp with ⟨q, hq, -⟩ | ⟨-, connected, -⟩
    · exact h q hq
    · exact connected
  rcases isConnected_perform hconnected with hc | hr
  · exact hc
  · obtain ⟨slot, hs⟩ := isConnected_iff.mp hconnected
    rw [(perform_of_removes hr hs).2] at hp
    cases hp

theorem connected_of_pending (hub : Hub α) (h : List (Call α)) (id : ScooterId) :
    ∀ p, (after hub h).trips.get? id = some p → (after hub h).isConnected id = true := by
  induction h using List.reverseRecOn with
  | nil => exact nofun
  | append_singleton h c ih =>
    rw [after_snoc]
    exact connected_perform ih

/-- What became of a trip: the calls `behind` its begin leave it waiting, or one of them is its
departure.  `before` is the history up to the begin, and ends with it. -/
inductive Life (hub : Hub α) (id : ScooterId) (trip : TripId) (before behind : List (Call α)) : Prop
  | waits (waiting : Waiting (after hub (before ++ behind)) id trip (ticksIn id behind))
  | left (stay rest : List (Call α)) (c : Call α) (signal : Option (TripSignal α))
      (split : behind = stay ++ c :: rest)
      (waiting : Waiting (after hub (before ++ stay)) id trip (ticksIn id stay))
      (departure : Departure (after hub (before ++ stay)) id trip (ticksIn id stay)
        (lastSeen id (before ++ stay)) c signal)
      (gone : ∀ later, later <+: rest → Gone (after hub (before ++ stay ++ c :: later)) trip signal)

theorem Life.snoc {hub : Hub α} {id : ScooterId} {trip : TripId} {before behind : List (Call α)}
    {c : Call α} (h : Life hub id trip before behind) (hc : c.begun? ≠ some trip) :
    Life hub id trip before (behind ++ [c]) := by
  cases h with
  | waits waiting =>
    rcases waiting_perform waiting hc with stays | ⟨signal, departure, gone⟩
    · refine .waits ?_
      rw [← List.append_assoc, after_snoc, ticksIn_snoc]
      exact stays
    · rw [lastPosition_after] at departure
      refine .left behind [] c signal rfl waiting departure ?_
      intro later hlater
      rw [List.prefix_nil.mp hlater, after_snoc]
      exact gone
  | left stay rest c' signal split waiting departure gone =>
    refine .left stay (rest ++ [c]) c' signal (by simp [split]) waiting departure ?_
    intro later hlater
    rcases List.prefix_concat_iff.mp hlater with rfl | hlater
    · have hlast := gone_perform (gone rest List.prefix_rfl) hc
      rw [← after_snoc] at hlast
      simpa using hlast
    · exact gone later hlater

theorem life_run {hub : Hub α} {id : ScooterId} {trip : TripId} {before : List (Call α)}
    (h : Waiting (after hub before) id trip 0) (behind : List (Call α)) (hb : trip ∉ named behind) :
    Life hub id trip before behind := by
  induction behind using List.reverseRecOn with
  | nil => exact .waits (by simpa [ticksIn] using h)
  | append_singleton behind c ih =>
    rw [named_append, List.mem_append, not_or] at hb
    refine (ih hb.1).snoc fun e => hb.2 ?_
    simp [named, e]

/-- A trip that has just begun under a new name waits. -/
theorem waiting_of_begin {hub : Hub α} {before : List (Call α)} {id : ScooterId} {trip : TripId}
    {t : Ticket} {r : Registry α} (granted : (after hub before).begin id trip = .ok (t, r))
    (new : trip ∉ named before) : Waiting (after hub (before ++ [.begin id trip])) id trip 0 := by
  have known := named_after hub before
  rw [after_snoc]
  refine (waiting_of_unused granted ?_ ?_).2
  · intro j p hp hpt
    exact new (hpt ▸ known.pending j p hp)
  · cases hr : (after hub before).resolutions.get? trip with
    | none => rfl
    | some resolution => exact absurd (known.sent trip resolution hr) new

/-- **What is pending waits**: where all trips have names of their own, a pending trip is pending nowhere
else, and nothing was sent for it. -/
theorem waiting_of_pending {hub : Hub α} {h : List (Call α)} (fresh : (named h).Nodup) {id : ScooterId}
    {p : PendingTrip} (hp : (after hub h).trips.get? id = some p) :
    Waiting (after hub h) id p.trip p.ticks := by
  induction h using List.reverseRecOn generalizing id p with
  | nil => cases hp
  | append_singleton h c ih =>
    rw [named_append] at fresh
    have hnew : ∀ trip, c.begun? = some trip → trip ∉ named h := by
      intro trip hc mem
      have hmem : trip ∈ named [c] := by simp [named, hc]
      exact (List.nodup_append.mp fresh).2.2 trip mem trip hmem rfl
    rw [after_snoc] at hp ⊢
    rcases pending_perform hp with ⟨q, hq, htrip⟩ | ⟨rfl, connected, free, hticks⟩
    · have hwaiting := ih (List.nodup_append.mp fresh).1 hq
      have hbegun : c.begun? ≠ some q.trip := fun hc =>
        hnew q.trip hc ((named_after hub h).pending id q hq)
      rcases waiting_perform hwaiting hbegun with stays | ⟨signal, -, gone⟩
      · have hsame := stays.pending
        rw [hp] at hsame
        cases hsame
        exact stays
      · exact absurd htrip.symm (gone.absent id p hp)
    · have granted : (after hub h).begin id p.trip =
          .ok (⟨id, p.trip⟩, { after hub h with
            trips := (after hub h).trips.insert id ⟨p.trip, 0⟩ }) := by
        simp [begin, connected, hasTrip_eq_false_iff.mpr free]
      have hwaiting := waiting_of_begin granted (hnew p.trip rfl)
      rw [after_snoc] at hwaiting
      exact hticks ▸ hwaiting

/-- Each trip that begins under a name of its own lives as `Life` says. -/
theorem life_of_begin {hub : Hub α} {h before behind : List (Call α)} {id : ScooterId} {trip : TripId}
    {t : Ticket} {r : Registry α} (fresh : (named h).Nodup)
    (hsplit : h = before ++ .begin id trip :: behind)
    (granted : (after hub before).begin id trip = .ok (t, r)) :
    Life hub id trip (before ++ [.begin id trip]) behind := by
  have hnames : named h = named before ++ trip :: named behind := by
    rw [hsplit, named_append]
    rfl
  rw [hnames] at fresh
  have hnew : trip ∉ named before := fun hm =>
    (List.nodup_append.mp fresh).2.2 trip hm trip (List.mem_cons_self ..) rfl
  have hbehind : trip ∉ named behind :=
    (List.nodup_cons.mp (List.nodup_append.mp fresh).2.1).1
  exact life_run (waiting_of_begin granted hnew) behind hbehind

/-! ### Calls that come too late -/

/-- A call about something that is no more: a report without a pending trip of its name, the ticket of
a trip that has left, the registration of a slot that was freed or taken anew. -/
def Call.Stale (r : Registry α) : Call α → Prop
  | .tripEnded _ report => ∀ p, r.trips.get? report.scooter = some p → report.trip ≠ some p.trip
  | .giveUp t | .abandon t => r.isPending t = false
  | .release g => r.owns g = false
  | _ => False

/-- Nothing but where scooters were seen differs. -/
structure Unmoved (r r' : Registry α) : Prop where
  sessions : r'.sessions = r.sessions
  trips : r'.trips = r.trips
  resolutions : r'.resolutions = r.resolutions
  queues : r'.queues = r.queues

theorem unmoved_of_stale {r : Registry α} {c : Call α} (h : c.Stale r) : Unmoved r (r.perform c) := by
  cases c with
  | tripEnded time report =>
    rcases perform_tripEnded r time report with ⟨he, -⟩ | ⟨p, hp, ht, -⟩
    · rw [he]
      exact ⟨rfl, rfl, rfl, rfl⟩
    · exact absurd ht (h p hp)
  | giveUp t | abandon t =>
    show Unmoved r (r.abandon t)
    rw [abandon_of_not_pending h]
    exact ⟨rfl, rfl, rfl, rfl⟩
  | release g =>
    show Unmoved r (r.release g)
    rw [release_of_not_owns h]
    exact ⟨rfl, rfl, rfl, rfl⟩
  | _ => exact h.elim

/-- **A trip leaves the table at most once, by its report, its session or its ticket.**  In every
history whose trips have names of their own, a pending trip's scooter is connected; each trip that was
begun lives as `Life` says; calls that come too late move nothing; and a trip that is pending leaves by
whichever of its ways out is taken, as `Exits` says. -/
theorem trip_leaves_once (hub : Hub α) (h : List (Call α)) (fresh : (named h).Nodup) :
    (∀ id p, (after hub h).trips.get? id = some p → (after hub h).isConnected id = true) ∧
    (∀ before behind id trip t r, h = before ++ .begin id trip :: behind →
      (after hub before).begin id trip = .ok (t, r) →
      Life hub id trip (before ++ [.begin id trip]) behind) ∧
    (∀ c : Call α, c.Stale (after hub h) → Unmoved (after hub h) ((after hub h).perform c)) ∧
    (∀ time report, (Call.tripEnded time report).Stale (after hub h) →
      ((after hub h).tripEnded time report).1 = false) ∧
    ∀ id p, (after hub h).trips.get? id = some p →
      Exits (after hub h) id p.trip p.ticks (lastSeen id h) := by
  refine ⟨connected_of_pending hub h, ?_, fun c hc => unmoved_of_stale hc,
    fun time report hs => by rw [tripEnded_of_stray hs], ?_⟩
  · intro before behind id trip t r hsplit granted
    exact life_of_begin fresh hsplit granted
  · intro id p hp
    rw [← lastPosition_after]
    exact (waiting_of_pending fresh hp).exits (connected_of_pending hub h id p hp)

/-- Two trips of one scooter.  The first ends with its report, which comes a second time while the
other trip is under way; that one ends with the session. -/
def twoTrips : List (Call Int) :=
  let noon : Timestamp := ⟨2024, 5, 1, 12, 0, 0, 0, 0⟩
  let first : TripReport Int := ⟨1, ⟨3, 4⟩, 80, .arrived, some (.ofNat 7)⟩
  [.register noon 1, .begin 1 (.ofNat 7), .tripEnded noon first, .begin 1 (.ofNat 8),
    .telemetry noon ⟨1, ⟨5, 6⟩⟩, .abandon ⟨1, .ofNat 7⟩, .tripEnded noon first, .unregister 1]

theorem trip_leaves_once_twoTrips :
    (named twoTrips).Nodup ∧
      (after (.create 8) (twoTrips.take 3)).begin 1 (.ofNat 8) =
        .ok (⟨1, .ofNat 8⟩, after (.create 8) (twoTrips.take 4)) ∧
      Life (.create 8) 1 (.ofNat 8) (twoTrips.take 4) (twoTrips.drop 4) ∧
      ((after (.create 8) twoTrips).resolutions.get? (.ofNat 8)).map Resolution.signal =
        some (.interrupted 1 (some ⟨3, 4⟩)) := by
  have fresh : (named twoTrips).Nodup := by decide
  refine ⟨fresh, rfl, ?_, rfl⟩
  exact (trip_leaves_once (.create 8) twoTrips fresh).2.1 (twoTrips.take 3) (twoTrips.drop 4) 1
    (.ofNat 8) _ _ rfl rfl

end Registry
end ScooterFleet
