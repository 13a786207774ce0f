import ScooterFleet.Proofs.Fleet.Bookkeeping
import ScooterFleet.Proofs.Registry.Elsewhere

/-!
# Slots that are given back

A rental claims the one slot for trips that its scooter has.  However it ends — by a fault of the store
or of the registry, with its trip closed, or given up from outside between any two of its steps — the
slot is free again for others, and what others have claimed was left alone.

* `Rental.Holding` / `Stride.holding` — what a step does with the slot: **there are five ways**;
* `NoneBegun`, `OneBegun` — what becomes of the pending trips when somebody calls;
* `Accounted` / `Accounted.perform` — no trip is pending and resolved, and all of them have been claimed
  by somebody;
* `Slots` / `slots_run` — **the invariant**: a trip that a rental claimed is pending for as long as the
  rental holds the ticket, and no longer;
* `slot_given_back` — the end of a rental, and what it does to others on the way there.

The names of trips are asked not to have run out, and nobody else is to use them.
-/

namespace ScooterFleet

open Registry

variable {α : Type} [Coordinate α]

/-! ### One step and the slot -/

namespace Rental

/-- What a step does with the slot: the ticket before it and behind it, the calls, and the notes. -/
inductive Holding (id : TaskId) (m : Moment) (k : Kernel α) (q : RentalRequest) :
    Option Ticket → Option Ticket → List (Call α) → List (Note α) → Prop
  | keeps {held : Option Ticket} {es : List (Note α)} (unclaimed : ∀ id' t, .claimed id' t ∉ es)
      (unsent : ∀ id' d, .dispatched id' d ∉ es) : Holding id m k q held held [] es
  | claims : Holding id m k q none (some ⟨q.scooter, m.fresh⟩) [.begin q.scooter m.fresh]
      [.claimed id ⟨q.scooter, m.fresh⟩]
  | sends {d : Departure α} : Holding id m k q (some d.ticket) (some d.ticket)
      [.dispatch q.scooter d.station.position (some d.ticket.trip)] [.dispatched id d]
  /-- The trip was over, and its signal is taken. -/
  | returns {t : Ticket} {resolution : Resolution α}
      (resolved : k.registry.resolutions.get? t.trip = some resolution) :
      Holding id m k q (some t) none [] []
  | givesBack {t : Ticket} : Holding id m k q (some t) none [.abandon t] []

variable {id : TaskId} {m : Moment} {k : Kernel α} {q : RentalRequest} {p p' : Phase α}
  {calls : List (Call α)} {es : List (Note α)}

theorem Stride.holding (h : Stride id m k q p p' calls es) :
    Holding id m k q (⟨q, p⟩ : Rental α).ticket? (⟨q, p'⟩ : Rental α).ticket? calls es := by
  cases h with
  | failed free =>
    rw [free]
    exact .keeps nofun nofun
  | claimed => exact .claims
  | dispatched => exact .sends
  | returned resolved => exact .returns resolved
  | gaveUp | released => exact .givesBack
  | _ => exact .keeps (by simp) (by simp)

variable {held held' : Option Ticket}

namespace Holding

omit [Coordinate α]

/-- A rental resolves no trip. -/
theorem resolutions (h : Holding id m k q held held' calls es) (r : Registry α) :
    (r.run calls).resolutions = r.resolutions := by
  cases h with
  | keeps | returns => rfl
  | claims =>
    show (r.perform (.begin q.scooter m.fresh)).resolutions = r.resolutions
    rcases perform_begin r q.scooter m.fresh with h | ⟨-, -, h⟩ <;> rw [h]
  | @sends d =>
    show (r.perform (.dispatch q.scooter d.station.position (some d.ticket.trip))).resolutions = _
    rcases perform_dispatch r q.scooter d.station.position (some d.ticket.trip) with
      h | ⟨slot, queue, queue', -, -, -, h⟩ <;> rw [h]
  | @givesBack t =>
    show (r.abandon t).resolutions = r.resolutions
    rcases abandon_cases r t with h | ⟨-, h⟩ <;> rw [h]

/-- A rental takes out no trip but the one it holds a ticket for. -/
theorem trips (h : Holding id m k q held held' calls es) {r : Registry α} {scooter : ScooterId}
    {p : PendingTrip} (hp : r.trips.get? scooter = some p) :
    (r.run calls).trips.get? scooter = some p ∨ held = some ⟨scooter, p.trip⟩ := by
  cases h with
  | keeps | returns => exact .inl hp
  | claims =>
    rw [run_cons, run_nil, trips_perform, hp, Call.tripBehind]
    exact .inl (by split <;> rfl)
  | sends =>
    rw [run_cons, run_nil, trips_perform, hp]
    exact .inl rfl
  | @givesBack t =>
    rw [run_cons, run_nil, trips_perform, hp, Call.tripBehind]
    split
    · next hid =>
      subst hid
      by_cases htrip : p.trip = t.trip
      · exact .inr (by rw [htrip])
      · exact .inl (by rw [Option.filter_some, if_pos (decide_eq_true htrip)])
    · exact .inl rfl

/-- A rental queues no command but the one that is noted. -/
theorem queues (h : Holding id m k q held held' calls es) (r : Registry α)
    (unsent : ∀ d, .dispatched id d ∉ es) : (r.run calls).queues = r.queues := by
  cases h with
  | keeps | returns => rfl
  | claims =>
    show (r.perform (.begin q.scooter m.fresh)).queues = r.queues
    rcases perform_begin r q.scooter m.fresh with h | ⟨-, -, h⟩ <;> rw [h]
  | @sends d => exact absurd (List.mem_singleton.mpr rfl) (unsent d)
  | @givesBack t =>
    show (r.abandon t).queues = r.queues
    rcases abandon_cases r t with h | ⟨-, h⟩ <;> rw [h]

end Holding
end Rental

/-! ### Whose trips there are -/

/-- Nobody but a rental names a trip as rentals do. -/
def Move.KeepsNames : Move α → Prop
  | .call (.begin _ trip) => ∀ n, trip ≠ System.tripName n
  | _ => True

section Pending

variable {r r' : Registry α}

omit [Coordinate α]

theorem not_pending_iff {t : Ticket} :
    r.isPending t = false ↔ ∀ p, r.trips.get? t.scooter = some p → p.trip ≠ t.trip := by
  constructor
  · intro h p hp htrip
    have hpending : r.isPending t = true := isPending_iff.mpr ⟨p, hp, htrip⟩
    rw [h] at hpending
    cases hpending
  · intro h
    rw [← Bool.not_eq_true]
    intro hpending
    obtain ⟨p, hp, htrip⟩ := isPending_iff.mp hpending
    exact h p hp htrip

/-- Every trip that is pending was so before. -/
def NoneBegun (r r' : Registry α) : Prop :=
  ∀ k p, r'.trips.get? k = some p → ∃ p₀, r.trips.get? k = some p₀ ∧ p₀.trip = p.trip

/-- The same, but for this trip of this scooter. -/
def OneBegun (k : ScooterId) (trip : TripId) (r r' : Registry α) : Prop :=
  ∀ k' p, r'.trips.get? k' = some p → r.trips.get? k' = some p ∨ k' = k ∧ p.trip = trip

theorem noneBegun_of_eq (h : r'.trips = r.trips) : NoneBegun r r' := by
  intro k p hp
  rw [h] at hp
  exact ⟨p, hp, rfl⟩

theorem noneBegun_of_erase {k : ScooterId} (h : r'.trips = r.trips.erase k) : NoneBegun r r' := by
  intro k' p hp
  rw [h, Table.get?_erase] at hp
  split at hp
  · cases hp
  · exact ⟨p, hp, rfl⟩

theorem noneBegun_of_modify {k : ScooterId} {f : PendingTrip → PendingTrip}
    (h : r'.trips = r.trips.modify k f) (hf : ∀ p, (f p).trip = p.trip) : NoneBegun r r' := by
  intro k' p hp
  rw [h, Table.get?_modify] at hp
  split at hp
  · obtain ⟨p₀, hp₀, rfl⟩ := Option.map_eq_some_iff.mp hp
    exact ⟨p₀, hp₀, (hf p₀).symm⟩
  · exact ⟨p, hp, rfl⟩

theorem oneBegun_of_insert {k : ScooterId} {p : PendingTrip} (h : r'.trips = r.trips.insert k p) :
    OneBegun k p.trip r r' := by
  intro k' p' hp
  rw [h, Table.get?_insert] at hp
  split at hp
  · next hk =>
    cases hp
    exact .inr ⟨hk.symm, rfl⟩
  · exact .inl hp

theorem oneBegun_begin (r : Registry α) (k : ScooterId) (trip : TripId) :
    OneBegun k trip r (r.perform (.begin k trip)) := by
  rcases perform_begin r k trip with h | ⟨-, -, h⟩
  · rw [h]
    exact fun _ _ hp => .inl hp
  · exact oneBegun_of_insert (p := ⟨trip, 0⟩) (by rw [h])

theorem NoneBegun.isPending (h : NoneBegun r r') {t : Ticket} (hp : r'.isPending t = true) :
    r.isPending t = true := by
  obtain ⟨p, hp, htrip⟩ := isPending_iff.mp hp
  obtain ⟨p₀, hp₀, htrip₀⟩ := h _ p hp
  exact isPending_iff.mpr ⟨p₀, hp₀, htrip₀.trans htrip⟩

theorem OneBegun.isPending {k : ScooterId} {trip : TripId} (h : OneBegun k trip r r') {t : Ticket}
    (other : t.trip ≠ trip) (hp : r'.isPending t = true) : r.isPending t = true := by
  obtain ⟨p, hp, htrip⟩ := isPending_iff.mp hp
  rcases h _ p hp with hp | ⟨-, hname⟩
  · exact isPending_iff.mpr ⟨p, hp, htrip⟩
  · exact absurd (htrip.symm.trans hname) other

end Pending

/-- What is pending or resolved was claimed in the journal, or has a name of somebody else, and what is
resolved is not pending. -/
structure Accounted (journal : List (Note α)) (r : Registry α) : Prop where
  pending : ∀ k p, r.trips.get? k = some p →
    (∃ id, .claimed id ⟨k, p.trip⟩ ∈ journal) ∨ ∀ n, p.trip ≠ System.tripName n
  resolved : ∀ trip resolution, r.resolutions.get? trip = some resolution →
    (∃ id t, .claimed id t ∈ journal ∧ t.trip = trip) ∨ ∀ n, trip ≠ System.tripName n
  past : ∀ id t resolution, .claimed id t ∈ journal →
    r.resolutions.get? t.trip = some resolution → r.isPending t = false

namespace Accounted

variable {journal es : List (Note α)} {r r' : Registry α} {s : System α}

omit [Coordinate α] in
theorem pending_append (h : Accounted journal r) {k : ScooterId} {p : PendingTrip}
    (hp : r.trips.get? k = some p) :
    (∃ id, .claimed id ⟨k, p.trip⟩ ∈ journal ++ es) ∨ ∀ n, p.trip ≠ System.tripName n := by
  refine (h.pending k p hp).imp_left ?_
  rintro ⟨id, hid⟩
  exact ⟨id, List.mem_append_left _ hid⟩

omit [Coordinate α] in
theorem resolved_append (h : Accounted journal r) {trip : TripId} {resolution : Resolution α}
    (hr : r.resolutions.get? trip = some resolution) :
    (∃ id t, .claimed id t ∈ journal ++ es ∧ t.trip = trip) ∨ ∀ n, trip ≠ System.tripName n := by
  refine (h.resolved trip resolution hr).imp_left ?_
  rintro ⟨id, t, ht, htrip⟩
  exact ⟨id, t, List.mem_append_left _ ht, htrip⟩

omit [Coordinate α] in
theorem past_of (h : Accounted journal r) {id : TaskId} {t : Ticket} {resolution : Resolution α}
    (ht : .claimed id t ∈ journal) (hr : r.resolutions.get? t.trip = some resolution)
    (still : r'.isPending t = true → r.isPending t = true) : r'.isPending t = false := by
  rw [← Bool.not_eq_true]
  intro hp
  have hpast := h.past id t resolution ht hr
  rw [still hp] at hpast
  cases hpast

omit [Coordinate α] in
/-- Trips that go, or are counted on, leave the rest of the account. -/
theorem fewer (h : Accounted journal r) (resolutions : r'.resolutions = r.resolutions)
    (none : NoneBegun r r') : Accounted journal r' where
  pending := by
    intro k p hp
    obtain ⟨p₀, hp₀, htrip⟩ := none k p hp
    rw [← htrip]
    exact h.pending k p₀ hp₀
  resolved := by
    rw [resolutions]
    exact h.resolved
  past := by
    intro id t resolution ht hr
    rw [resolutions] at hr
    exact h.past_of ht hr none.isPending

omit [Coordinate α] in
theorem append (h : Accounted journal r) (unclaimed : ∀ id t, .claimed id t ∉ es) :
    Accounted (journal ++ es) r where
  pending := fun _ _ hp => h.pending_append hp
  resolved := fun _ _ hr => h.resolved_append hr
  past := by
    intro id t resolution ht hr
    rcases List.mem_append.mp ht with ht | ht
    · exact h.past id t resolution ht hr
    · exact absurd ht (unclaimed id t)

omit [Coordinate α] in
/-- Somebody else begins a trip, under a name of their own. -/
theorem begun (h : Accounted journal r) {k : ScooterId} {trip : TripId}
    (resolutions : r'.resolutions = r.resolutions) (one : OneBegun k trip r r')
    (foreign : ∀ n, trip ≠ System.tripName n)
    (other : ∀ id t, .claimed id t ∈ journal → t.trip ≠ trip) : Accounted journal r' where
  pending := by
    intro k' p hp
    rcases one k' p hp with hp | ⟨-, hname⟩
    · exact h.pending k' p hp
    · exact .inr (hname ▸ foreign)
  resolved := by
    rw [resolutions]
    exact h.resolved
  past := by
    intro id t resolution ht hr
    rw [resolutions] at hr
    exact h.past_of ht hr (one.isPending (other id t ht))

/-- A trip that is claimed is not called as another one that was claimed, or as one of somebody else. -/
theorem ticket_eq (hc : Chronicle journal s) (names : System.tripBase + s.fresh ≤ System.nameCount)
    {id : TaskId} {t : Ticket} {k : ScooterId} {trip : TripId} (ht : .claimed id t ∈ journal)
    (htrip : t.trip = trip)
    (h : (∃ id, .claimed id ⟨k, trip⟩ ∈ journal) ∨ ∀ n, trip ≠ System.tripName n) :
    t = ⟨k, trip⟩ := by
  rcases h with ⟨id', ht'⟩ | hforeign
  · exact (hc.claim_unique names ht ht' htrip).2
  · obtain ⟨n, -, hname⟩ := hc.named id t ht
    exact absurd (htrip.symm.trans hname) (hforeign n)

/-- A pending trip is resolved. -/
theorem resolve (h : Accounted journal r) (hc : Chronicle journal s)
    (names : System.tripBase + s.fresh ≤ System.nameCount) {k : ScooterId} {p : PendingTrip}
    {resolution : Resolution α} (pending : r.trips.get? k = some p)
    (trips : r'.trips = r.trips.erase k)
    (resolutions : r'.resolutions = r.resolutions.insert p.trip resolution) : Accounted journal r' where
  pending := by
    intro k' p' hp'
    obtain ⟨p₀, hp₀, htrip⟩ := noneBegun_of_erase trips k' p' hp'
    exact htrip ▸ h.pending k' p₀ hp₀
  resolved := by
    intro trip resolution' hr
    rw [resolutions, Table.get?_insert] at hr
    split at hr
    · next htrip =>
      subst htrip
      refine (h.pending k p pending).imp_left ?_
      rintro ⟨id, hid⟩
      exact ⟨id, _, hid, rfl⟩
    · exact h.resolved trip resolution' hr
  past := by
    intro id t resolution' ht hr
    rw [resolutions, Table.get?_insert] at hr
    split at hr
    · next htrip =>
      -- the trip that was resolved was pending at its own scooter, and is no longer
      have hticket := ticket_eq hc names ht htrip.symm (h.pending k p pending)
      subst hticket
      refine not_pending_iff.mpr fun p' hp' => ?_
      rw [trips, Table.get?_erase_self] at hp'
      cases hp'
    · exact h.past_of ht hr (noneBegun_of_erase trips).isPending

/-- **A call of anybody else.**  It resolves a trip, or takes it out, or counts it; it does not make a
trip pending that a rental claimed. -/
theorem perform (h : Accounted journal r) (hc : Chronicle journal s)
    (names : System.tripBase + s.fresh ≤ System.nameCount) {c : Call α}
    (begins : ∀ k trip, c = .begin k trip → ∀ n, trip ≠ System.tripName n) :
    Accounted journal (r.perform c) ∧ ∀ id t, .claimed id t ∈ journal →
      (r.perform c).isPending t = true → r.isPending t = true := by
  cases change_perform r c with
  | begun k trip call connected free trips resolutions =>
    have foreign := begins k trip call
    have one : OneBegun k trip r (r.perform c) := oneBegun_of_insert trips
    have other : ∀ id t, .claimed id t ∈ journal → t.trip ≠ trip := by
      intro id t ht htrip
      obtain ⟨n, -, hname⟩ := hc.named id t ht
      exact foreign n (htrip.symm.trans hname)
    exact ⟨h.begun resolutions one foreign other, fun id t ht => one.isPending (other id t ht)⟩
  | resolved k p signal pending cause trips resolutions =>
    exact ⟨h.resolve hc names pending trips resolutions,
      fun _ _ _ => (noneBegun_of_erase trips).isPending⟩
  | abandoned t call pending trips resolutions =>
    have none := noneBegun_of_erase trips
    exact ⟨h.fewer resolutions none, fun _ _ _ => none.isPending⟩
  | counted time message call trips resolutions =>
    have none := noneBegun_of_modify trips fun _ => rfl
    exact ⟨h.fewer resolutions none, fun _ _ _ => none.isPending⟩
  | kept uncounted trips resolutions =>
    have none := noneBegun_of_eq trips
    exact ⟨h.fewer resolutions none, fun _ _ _ => none.isPending⟩

theorem run (h : Accounted journal r) (hc : Chronicle journal s)
    (names : System.tripBase + s.fresh ≤ System.nameCount) {calls : List (Call α)}
    (begins : ∀ k trip, .begin k trip ∈ calls → ∀ n, trip ≠ System.tripName n) :
    Accounted journal (r.run calls) ∧ ∀ id t, .claimed id t ∈ journal →
      (r.run calls).isPending t = true → r.isPending t = true := by
  induction calls generalizing r with
  | nil => exact ⟨h, fun _ _ _ hp => hp⟩
  | cons c calls ih =>
    obtain ⟨hfirst, hstill⟩ := h.perform (c := c) hc names fun k trip hc' =>
      begins k trip (hc' ▸ List.mem_cons_self ..)
    obtain ⟨hrest, hstill'⟩ := ih hfirst fun k trip hmem =>
      begins k trip (List.mem_cons_of_mem _ hmem)
    exact ⟨hrest, fun id t ht hp => hstill id t ht (hstill' id t ht hp)⟩

omit [Coordinate α] in
/-- A rental claims a trip under a name that was never used. -/
theorem begin (h : Accounted journal r) {id : TaskId} {k : ScooterId} {n : Nat}
    (unused : ∀ id t, .claimed id t ∈ journal → t.trip ≠ System.tripName n) :
    Accounted (journal ++ [.claimed id ⟨k, System.tripName n⟩])
        (r.perform (.begin k (System.tripName n))) ∧
      ∀ id t, .claimed id t ∈ journal →
        (r.perform (.begin k (System.tripName n))).isPending t = true → r.isPending t = true := by
  have one := oneBegun_begin r k (System.tripName n)
  have resolutions : (r.perform (.begin k (System.tripName n))).resolutions = r.resolutions := by
    rcases perform_begin r k (System.tripName n) with he | ⟨-, -, he⟩ <;> rw [he]
  refine ⟨⟨?_, ?_, ?_⟩, fun id t ht => one.isPending (unused id t ht)⟩
  · intro k' p hp
    rcases one k' p hp with hp | ⟨rfl, hname⟩
    · exact h.pending_append hp
    · rw [hname]
      exact .inl ⟨id, List.mem_append_right _ (List.mem_singleton.mpr rfl)⟩
  · intro trip resolution hr
    rw [resolutions] at hr
    exact h.resolved_append hr
  · intro id' t resolution ht hr
    rw [resolutions] at hr
    rcases List.mem_append.mp ht with ht | ht
    · exact h.past_of ht hr (one.isPending (unused id' t ht))
    · cases List.mem_singleton.mp ht
      rcases h.resolved _ resolution hr with ⟨id', t, ht, htrip⟩ | hforeign
      · exact absurd htrip (unused id' t ht)
      · exact absurd rfl (hforeign n)

end Accounted

/-! ### Whose slots there are -/

/-- Nothing was queued for a rental in such a phase, nor will be if it has failed. -/
def Rental.Phase.IsEarly : Rental.Phase α → Prop
  | .waiting _ _ _ | .closing _ _ _ | .docking _ _ _ _ | .ordering _ _ _ _ => False
  | .finished (.ok _) | .finished (.error (.store _)) => False
  | _ => True

/-- A trip that a rental claimed is pending only while the rental holds the ticket. -/
structure Slots (journal : List (Note α)) (s : System α) : Prop where
  accounted : Accounted journal s.registry
  held : ∀ id t, .claimed id t ∈ journal → s.registry.isPending t = true →
    ∃ r, s.tasks.get? id = some (.rental r) ∧ r.ticket? = some t
  tickets : ∀ id r t, s.tasks.get? id = some (.rental r) → r.ticket? = some t →
    .claimed id t ∈ journal
  early : ∀ id r, s.tasks.get? id = some (.rental r) → r.phase.IsEarly →
    ∀ d, .dispatched id d ∉ journal

namespace Rental

variable {id : TaskId} {m : Moment} {k : Kernel α} {q : RentalRequest} {p p' : Phase α}
  {calls : List (Call α)} {es : List (Note α)} {held held' : Option Ticket}

/-- A phase is early if the one before it was, and nothing was sent in between. -/
theorem Stride.early (h : Stride id m k q p p' calls es) (hp : p'.IsEarly) :
    p.IsEarly ∧ ∀ id' d, .dispatched id' d ∉ es := by
  cases h <;> first | exact hp.elim | exact ⟨trivial, by simp⟩

omit [Coordinate α] in
/-- The ticket of a claim is held from then on. -/
theorem Holding.held_of_claimed {id' : TaskId} {t : Ticket}
    (h : Holding id m k q held held' calls es) (ht : .claimed id' t ∈ es) : held' = some t := by
  cases h with
  | claims =>
    cases List.mem_singleton.mp ht
    rfl
  | keeps unclaimed unsent => exact absurd ht (unclaimed id' t)
  | sends | returns | givesBack => simp at ht

omit [Coordinate α] in
/-- A ticket that is held was held before, or is the one of a claim. -/
theorem Holding.held_before {t : Ticket} (h : Holding id m k q held held' calls es)
    (ht : held' = some t) : held = some t ∨ .claimed id t ∈ es := by
  cases h with
  | claims =>
    cases ht
    exact .inr (List.mem_singleton.mpr rfl)
  | keeps | sends => exact .inl ht
  | returns | givesBack => cases ht

omit [Coordinate α] in
/-- A ticket is held on, or given back, or the trip is over. -/
theorem Holding.kept {t : Ticket} {journal : List (Note α)}
    (h : Holding id m k q held held' calls es) (ht : held = some t)
    (hclaimed : .claimed id t ∈ journal) (accounted : Accounted journal k.registry) :
    held' = some t ∨ (k.registry.run calls).isPending t = false := by
  cases h with
  | keeps | sends => exact .inl ht
  | claims => cases ht
  | returns resolved =>
    cases ht
    exact .inr (accounted.past id t _ hclaimed resolved)
  | givesBack =>
    cases ht
    refine .inr (not_pending_iff.mpr fun p hp => ?_)
    rw [run_cons, run_nil, trips_perform, Call.tripBehind, if_pos rfl, Option.filter_eq_some_iff] at hp
    exact of_decide_eq_true hp.2

omit [Coordinate α] in
/-- A rental that is given up gives its ticket back. -/
theorem holding_of_cancel (id : TaskId) (m : Moment) (k : Kernel α) (r : Rental α) :
    ∃ calls, (r.cancel k).registry = k.registry.run calls ∧
      Holding id m k r.request r.ticket? none calls [] := by
  unfold cancel
  cases ht : r.ticket? with
  | none => exact ⟨[], rfl, .keeps nofun nofun⟩
  | some t => exact ⟨[.abandon t], rfl, .givesBack⟩

end Rental

namespace Slots

variable {journal es : List (Note α)} {s s' : System α}

/-- A name that is due was not used. -/
theorem unused (hc : Chronicle journal s)
    (names : System.tripBase + (s.fresh + 1) ≤ System.nameCount) {id : TaskId} {t : Ticket}
    (ht : .claimed id t ∈ journal) : t.trip ≠ System.tripName s.fresh := by
  intro htrip
  obtain ⟨n, hn, hname⟩ := hc.named id t ht
  have heq := System.tripName_injective (by omega) (by omega) (hname.symm.trans htrip)
  omega

/-- What one step of a rental makes of the account.  Only a claim takes a new name. -/
theorem accounted_step (h : Slots journal s) (hc : Chronicle journal s)
    (names : System.tripBase + s.fresh ≤ System.nameCount) {id : TaskId} {q : RentalRequest}
    {held held' : Option Ticket} {calls : List (Call α)}
    (hholding : Rental.Holding id s.moment s.kernel q held held' calls es)
    (next : ∀ t, held' = some t → System.tripBase + s.fresh < System.nameCount) :
    Accounted (journal ++ es) (s.registry.run calls) ∧ ∀ id t, .claimed id t ∈ journal →
      (s.registry.run calls).isPending t = true → s.registry.isPending t = true := by
  have hrun : ∀ calls : List (Call α), (∀ k trip, .begin k trip ∉ calls) →
      Accounted journal (s.registry.run calls) ∧ ∀ id t, .claimed id t ∈ journal →
        (s.registry.run calls).isPending t = true → s.registry.isPending t = true :=
    fun calls hcalls => h.accounted.run hc names fun k trip hmem => absurd hmem (hcalls k trip)
  cases hholding with
  | claims => exact h.accounted.begin fun _ _ => unused hc (next _ rfl)
  | keeps unclaimed unsent => exact ⟨h.accounted.append unclaimed, fun _ _ _ hp => hp⟩
  | returns resolved => exact ⟨h.accounted.append nofun, fun _ _ _ hp => hp⟩
  | sends =>
    obtain ⟨haccounted, hstill⟩ := hrun [.dispatch q.scooter _ _] (by simp)
    exact ⟨haccounted.append (by simp), hstill⟩
  | givesBack =>
    obtain ⟨haccounted, hstill⟩ := hrun [.abandon _] (by simp)
    exact ⟨haccounted.append nofun, hstill⟩

/-- One rental goes on, or goes, with what that does to its slot. -/
theorem moved (h : Slots journal s) (hc : Chronicle journal s)
    (names : System.tripBase + s.fresh ≤ System.nameCount) {id : TaskId} {r : Rental α}
    {q : RentalRequest} {held : Option Ticket} {calls : List (Call α)}
    (task : s.tasks.get? id = some (.rental r))
    (holding : Rental.Holding id s.moment s.kernel q r.ticket? held calls es)
    (next : ∀ t, held = some t → System.tripBase + s.fresh < System.nameCount ∧
      ∃ r', s'.tasks.get? id = some (.rental r'))
    (mine : ∀ e ∈ es, e.task = id) (registry : s'.registry = s.registry.run calls)
    (others : ∀ id', id' ≠ id → s'.tasks.get? id' = s.tasks.get? id')
    (self : ∀ r', s'.tasks.get? id = some (.rental r') → r'.ticket? = held ∧
      (r'.phase.IsEarly → r.phase.IsEarly ∧ ∀ id' d, .dispatched id' d ∉ es)) :
    Slots (journal ++ es) s' := by
  obtain ⟨haccounted, hstill⟩ := h.accounted_step hc names holding fun t ht => (next t ht).1
  have hself : ∀ t, held = some t → ∃ r', s'.tasks.get? id = some (.rental r') ∧
      r'.ticket? = some t := by
    intro t ht
    obtain ⟨-, r', hr'⟩ := next t ht
    exact ⟨r', hr', (self r' hr').1.trans ht⟩
  refine ⟨registry ▸ haccounted, ?_, ?_, ?_⟩
  · intro id' t ht hp
    rw [registry] at hp
    rcases List.mem_append.mp ht with ht | ht
    · obtain ⟨r₁, hr₁, hheld⟩ := h.held id' t ht (hstill id' t ht hp)
      by_cases hid : id' = id
      · subst hid
        rw [task] at hr₁
        cases hr₁
        rcases holding.kept hheld ht h.accounted with hkept | hgone
        · exact hself t hkept
        · change (s.registry.run calls).isPending t = false at hgone
          rw [hp] at hgone
          cases hgone
      · exact ⟨r₁, (others id' hid).trans hr₁, hheld⟩
    · obtain rfl : id = id' := (mine _ ht).symm
      exact hself t (holding.held_of_claimed ht)
  · intro id' r₁ t hr₁ ht
    by_cases hid : id' = id
    · subst hid
      rcases holding.held_before ((self r₁ hr₁).1.symm.trans ht) with hheld | hclaimed
      · exact List.mem_append_left _ (h.tickets id' r t task hheld)
      · exact List.mem_append_right _ hclaimed
    · rw [others id' hid] at hr₁
      exact List.mem_append_left _ (h.tickets id' r₁ t hr₁ ht)
  · intro id' r₁ hr₁ hphase d hd
    by_cases hid : id' = id
    · subst hid
      obtain ⟨hbefore, hunsent⟩ := (self r₁ hr₁).2 hphase
      rcases List.mem_append.mp hd with hd | hd
      · exact h.early id' r task hbefore d hd
      · exact hunsent id' d hd
    · rw [others id' hid] at hr₁
      rcases List.mem_append.mp hd with hd | hd
      · exact h.early id' r₁ hr₁ hphase d hd
      · exact hid (mine _ hd)

/-- **A step of a rental.** -/
theorem step (h : Slots journal s) (hc : Chronicle journal s)
    (names : System.tripBase + (s.fresh + 1) ≤ System.nameCount) {id : TaskId} {r r' : Rental α}
    {k : Kernel α} {c : Rental.Choice} (task : s.tasks.get? id = some (.rental r))
    (hstep : r.step s.moment s.terms s.kernel c = some (r', k)) :
    Slots (journal ++ r.notes id s.moment s.kernel c)
      ({ s with kernel := k, fresh := s.fresh + 1 }.setTask id (.rental r')) := by
  obtain ⟨-, calls, hstrides⟩ := Rental.stride_of_step id hstep
  have hself : (s.tasks.insert id (.rental r')).get? id = some (.rental r') :=
    Table.get?_insert_self ..
  refine h.moved hc (by omega) task hstrides.stride.holding ?_
    (fun e he => (hstrides.stride.chapter.2 e he).2.1) hstrides.registry ?_ ?_
  · exact fun _ _ => ⟨by omega, r', hself⟩
  · exact fun id' hid => Table.get?_insert_of_ne _ _ (Ne.symm hid)
  · intro r₁ hr₁
    cases hself.symm.trans hr₁
    exact ⟨rfl, hstrides.stride.early⟩

/-- **A rental that is given up.** -/
theorem dropped (h : Slots journal s) (hc : Chronicle journal s)
    (names : System.tripBase + s.fresh ≤ System.nameCount) {id : TaskId} {r : Rental α}
    (task : s.tasks.get? id = some (.rental r)) :
    Slots journal { s with tasks := s.tasks.erase id, kernel := r.cancel s.kernel } := by
  obtain ⟨calls, hregistry, hholding⟩ := Rental.holding_of_cancel id s.moment s.kernel r
  have hmoved : Slots (journal ++ [])
      { s with tasks := s.tasks.erase id, kernel := r.cancel s.kernel } := by
    refine h.moved hc names task hholding nofun nofun hregistry ?_ ?_
    · exact fun id' hid => Table.get?_erase_of_ne _ (Ne.symm hid)
    · intro r₁ hr₁
      cases (Table.get?_erase_self s.tasks id).symm.trans hr₁
  rwa [List.append_nil] at hmoved

/-- **Anything else.** -/
theorem aside (h : Slots journal s) (hc : Chronicle journal s)
    (names : System.tripBase + s.fresh ≤ System.nameCount) {m : Move α} (keeps : m.KeepsNames)
    (hc' : Chronicle (journal ++ es) s') (notes : ∀ e ∈ es, e.chapter? = none)
    (registry : m.Calls s.registry s'.registry)
    (rentals : ∀ id r, s'.tasks.get? id = some (.rental r) →
      s.tasks.get? id = some (.rental r) ∨ ∃ q, r = .start q)
    (stay : ∀ id r, id < s.fresh → s.tasks.get? id = some (.rental r) →
      s'.tasks.get? id = some (.rental r)) : Slots (journal ++ es) s' := by
  have hunclaimed : ∀ id t, .claimed id t ∉ es := by
    intro id t ht
    cases notes _ ht
  have hold : ∀ {id t}, .claimed id t ∈ journal ++ es → .claimed id t ∈ journal := by
    intro id t ht
    exact (List.mem_append.mp ht).resolve_right (hunclaimed id t)
  obtain ⟨calls, hub, hregistry, hbegins⟩ := registry
  obtain ⟨haccounted, hstill⟩ := h.accounted.run hc names fun k trip hmem => by
    rw [hbegins k trip hmem] at keeps
    exact keeps
  refine ⟨?_, ?_, ?_, ?_⟩
  · rw [hregistry]
    have hviewed : Accounted journal { s.registry.run calls with hub } :=
      ⟨haccounted.pending, haccounted.resolved, haccounted.past⟩
    exact hviewed.append hunclaimed
  · intro id t ht hp
    rw [hregistry] at hp
    obtain ⟨r, hr, hheld⟩ := h.held id t (hold ht) (hstill id t (hold ht) hp)
    exact ⟨r, stay id r (hc.present id _ hr) hr, hheld⟩
  · intro id r t hr ht
    rcases rentals id r hr with hr | ⟨q, rfl⟩
    · exact List.mem_append_left _ (h.tickets id r t hr ht)
    · cases ht
  · intro id r hr hphase d hd
    rcases rentals id r hr with hr | ⟨q, rfl⟩
    · rcases List.mem_append.mp hd with hd | hd
      · exact h.early id r hr hphase d hd
      · cases notes _ hd
    · -- a rental at its start is in no chapter yet
      have htold := (hc'.rentals id _ hr).told _ hd rfl 3 rfl
      exact absurd htold (Nat.not_lt_zero 3)

end Slots

theorem slots_run {s₀ s : System α} {journal : List (Note α)} (idle : s₀.IsIdle)
    (run : Run Move.KeepsNames s₀ journal s)
    (names : System.tripBase + s.fresh ≤ System.nameCount) : Slots journal s := by
  induction run with
  | start =>
    obtain ⟨htasks, -, hub, hregistry⟩ := idle
    refine ⟨?_, nofun, ?_, ?_⟩
    · rw [hregistry]
      exact ⟨nofun, nofun, nofun⟩
    · intro id r t hr
      rw [htasks] at hr
      cases hr
    · intro id r hr
      rw [htasks] at hr
      cases hr
  | @move journal s s' m run permitted moved ih =>
    have hc := chronicle_run idle.tasks run
    have hc' := chronicle_run idle.tasks (.move m run permitted moved)
    have hmove := System.rentalMoves_of_move? moved
    generalize s.noted m = es at hc' hmove ⊢
    cases hmove with
    | step task step =>
      have names' : System.tripBase + (s.fresh + 1) ≤ System.nameCount := names
      exact (ih (by omega)).step hc names' task step
    | dropped task =>
      rw [List.append_nil]
      exact (ih names).dropped hc names task
    | aside notes contents registry fresh rentals stay =>
      have names' : System.tripBase + s.fresh ≤ System.nameCount := by omega
      exact (ih names').aside hc names' permitted hc' notes registry rentals stay

/-! ### The end of a rental -/

/-- The moves by which a rental goes on or is given up. -/
def Move.IsOf (id : TaskId) : Move α → Prop
  | .act id' _ | .cancel id' => id' = id
  | _ => False

/-- A rental's own move is one of its steps, or the end that others make of it. -/
theorem System.rentalMoves_of_isOf {s s' : System α} {m : Move α} {id : TaskId} {r : Rental α}
    (task : s.tasks.get? id = some (.rental r)) (own : m.IsOf id) (h : s.move? m = some s') :
    (∃ c r' k, r.step s.moment s.terms s.kernel c = some (r', k) ∧ s'.kernel = k ∧
        s.noted m = r.notes id s.moment s.kernel c) ∨
      s'.kernel = r.cancel s.kernel ∧ s.noted m = [] := by
  cases m with
  | act id' c =>
    cases own
    simp only [move?, step, task] at h
    cases c with
    | rental c =>
      simp only [stepRental, Option.bind_eq_bind, Option.bind_eq_some_iff, Prod.exists,
        Option.pure_def, Option.some.injEq] at h
      obtain ⟨r', k, hstep, rfl⟩ := h
      exact .inl ⟨c, r', k, hstep, rfl, notes_of_rental task⟩
    | _ => cases h
  | cancel id' =>
    cases own
    cases h
    rw [cancel_of_rental task]
    exact .inr ⟨rfl, rfl⟩
  | _ => exact own.elim

namespace Rental

variable {id : TaskId} {journal : List (Note α)} {r : Rental α}

/-- Before its dispatch, a rental has had one snapshot recorded at most. -/
theorem Follows.length_papers (h : r.Follows journal id) (grounded : ∀ e ∈ journal, e.Grounded journal)
    (unsent : ∀ d, .dispatched id d ∉ journal) : r.phase.papers.length ≤ 1 := by
  have hknown := h.known
  cases hp : r.phase with
  | docking d start finish a =>
    rw [hp] at hknown
    exact absurd hknown.1 (unsent d)
  | ordering d start finish a =>
    rw [hp] at hknown
    obtain ⟨record, hdocked⟩ := hknown
    obtain ⟨d, hd, -⟩ := grounded _ hdocked
    exact absurd hd (unsent d)
  | _ => simp [Phase.papers]

omit [Coordinate α] in
/-- Who has a result holds no ticket. -/
theorem ticket?_of_result (h : r.result?.isSome = true) : r.ticket? = none := by
  obtain ⟨q, p⟩ := r
  cases p <;> first | rfl | simp [result?] at h

/-- An order takes two snapshots. -/
theorem Enters.orders {scooter : ScooterId} {l l' : Ledger α} {before after : List (Ledger.Paper α)}
    (h : Enters scooter l before after l') (few : before.length ≤ 1) : l'.orders = l.orders := by
  cases h with
  | nothing | snapshot => rfl
  | order id driven distance papers =>
    rw [papers, List.length_cons, List.length_singleton] at few
    omega

end Rental

section Ends

variable {journal : List (Note α)} {s s' : System α} {id : TaskId} {r : Rental α} {m : Move α}

/-- What a rental does with its slot in one move. -/
theorem holding_of_isOf (task : s.tasks.get? id = some (.rental r)) (own : m.IsOf id)
    (h : s.move? m = some s') : ∃ held' calls, s'.registry = s.registry.run calls ∧
      Rental.Holding id s.moment s.kernel r.request r.ticket? held' calls (s.noted m) := by
  rcases System.rentalMoves_of_isOf task own h with ⟨c, r', k, hstep, hk, hnoted⟩ | ⟨hk, hnoted⟩
  · obtain ⟨-, calls, hstrides⟩ := Rental.stride_of_step id hstep
    rw [hnoted]
    refine ⟨_, calls, ?_, hstrides.stride.holding⟩
    show s'.kernel.registry = s.kernel.registry.run calls
    rw [hk, hstrides.registry]
  · obtain ⟨calls, hregistry, hholding⟩ := Rental.holding_of_cancel id s.moment s.kernel r
    rw [hnoted]
    refine ⟨_, calls, ?_, hholding⟩
    show s'.kernel.registry = s.kernel.registry.run calls
    rw [hk, hregistry]

/-- Before its dispatch, and in the move that fails to dispatch, a rental leaves orders and records. -/
theorem store_of_isOf (hc : Chronicle journal s) (task : s.tasks.get? id = some (.rental r))
    (own : m.IsOf id) (h : s.move? m = some s')
    (unsent : ∀ d, .dispatched id d ∉ journal ++ s.noted m) :
    s'.kernel.store.ledger.orders = s.kernel.store.ledger.orders ∧
      s'.kernel.store.scooters = s.kernel.store.scooters := by
  rcases System.rentalMoves_of_isOf task own h with ⟨c, r', k, hstep, hk, hnoted⟩ | ⟨hk, -⟩
  · obtain ⟨-, calls, hstrides⟩ := Rental.stride_of_step id hstep
    rw [hnoted] at unsent
    rw [hk]
    have hfollows := hc.rentals id r task
    have hgrounded := (hstrides.stride.known hfollows.known).2
    refine ⟨(Rental.enters_of_step hstep).orders ?_, ?_⟩
    · exact hfollows.length_papers hc.grounded fun d hd => unsent d (List.mem_append_left _ hd)
    · rw [hstrides.records]
      refine Note.writeAll_of_undocked (fun id' k' record hmem => ?_) _
      have hid : id' = id := (hstrides.stride.chapter.2 _ hmem).2.1
      subst hid
      obtain ⟨d, hd, -⟩ := hgrounded _ hmem
      exact unsent d hd
  · have hcontents := Rental.contents_of_cancel s.kernel r
    rw [hk]
    exact ⟨congrArg Ledger.orders (Store.ledger_of_contents hcontents),
      Store.scooters_of_contents hcontents⟩

end Ends

/-- **However a rental ends, its slot is given back.**  In every run of a fleet that was idle at its
start, whatever mishaps the store has, whatever is called from outside and whoever is given up at any
time, as long as nobody else uses the rentals' names for trips:

* a rental that is done, or was given up, has no trip pending;
* none of its moves resolves a trip, or takes one out of the table that it did not claim itself;
* up to its dispatch, none of its moves queues a command, makes an order or writes a record;
* it was dispatched only if its start was recorded, and from then on fails by faults of the store only:
  so a rental that was not rentable, could not be reached or was refused a second trip was not. -/
theorem slot_given_back {s₀ s : System α} {journal : List (Note α)} (idle : s₀.IsIdle)
    (run : Run Move.KeepsNames s₀ journal s) (names : System.tripBase + s.fresh ≤ System.nameCount)
    (id : TaskId) :
    (∀ t, .claimed id t ∈ journal →
      (∀ r, s.tasks.get? id = some (.rental r) → r.result?.isSome = true) →
      s.registry.isPending t = false) ∧
    (∀ r m s', s.tasks.get? id = some (.rental r) → m.IsOf id → s.move? m = some s' →
      s'.registry.resolutions = s.registry.resolutions ∧
      (∀ k p, s.registry.trips.get? k = some p →
        s'.registry.trips.get? k = some p ∨ .claimed id ⟨k, p.trip⟩ ∈ journal) ∧
      ((∀ d, .dispatched id d ∉ journal ++ s.noted m) →
        s'.registry.queues = s.registry.queues ∧
        s'.kernel.store.ledger.orders = s.kernel.store.ledger.orders ∧
        s'.kernel.store.scooters = s.kernel.store.scooters)) ∧
    (∀ d, .dispatched id d ∈ journal → (∃ snapshot, .opened id d snapshot ∈ journal) ∧
      ∀ q fault, s.tasks.get? id = some (.rental ⟨q, .finished (.error fault)⟩) →
        ∃ f, fault = .store f) := by
  have hc := chronicle_run idle.tasks run
  have hslots := slots_run idle run names
  refine ⟨?_, ?_, ?_⟩
  · intro t ht hdone
    rw [← Bool.not_eq_true]
    intro hpending
    obtain ⟨r, hr, hheld⟩ := hslots.held id t ht hpending
    rw [Rental.ticket?_of_result (hdone r hr)] at hheld
    cases hheld
  · intro r m s' task own h
    obtain ⟨held', calls, hregistry, hholding⟩ := holding_of_isOf task own h
    rw [hregistry]
    refine ⟨hholding.resolutions _, ?_, ?_⟩
    · intro k p hp
      refine (hholding.trips hp).imp_right fun hheld => ?_
      exact hslots.tickets id r _ task hheld
    · intro unsent
      refine ⟨hholding.queues _ fun d hd => ?_, store_of_isOf hc task own h unsent⟩
      exact unsent d (List.mem_append_right _ hd)
  · intro d hd
    refine ⟨hc.grounded _ hd, ?_⟩
    intro q fault task
    cases fault with
    | store f => exact ⟨f, rfl⟩
    | _ => exact absurd hd (hslots.early id _ task trivial d)

section ChangedMind

attribute [local instance] exactRat

/-- Three rentals of the one scooter: the first one (task 3) is given up while it waits for its trip, the
second one claims the slot, and the third one comes too late. -/
def changedMind : List (Move Rat) :=
  connecting ++ [.rent ⟨1, 1, 42⟩, .rent ⟨1, 2, 43⟩, .rent ⟨1, 2, 44⟩] ++
    settingOut 3 ++ [.cancel 3] ++ settingOut 4 ++ .replicate 3 (.act 5 (.rental .proceed))

def Note.claim? : Note Rat → Option (TaskId × Ticket)
  | .claimed id t => some (id, t)
  | _ => none

theorem mem_claims {journal : List (Note Rat)} {id : TaskId} {t : Ticket} :
    (id, t) ∈ journal.filterMap Note.claim? ↔ .claimed id t ∈ journal := by
  rw [List.mem_filterMap]
  constructor
  · rintro ⟨e, he, hclaim⟩
    cases e <;> cases hclaim
    exact he
  · intro h
    exact ⟨_, h, rfl⟩

/-- The rental was refused a second trip. -/
def System.cameTooLate (s : System Rat) (id : TaskId) : Bool :=
  match s.tasks.get? id with
  | some (.rental ⟨_, .finished (.error (.inProgress _))⟩) => true
  | _ => false

/-- The trip that was given up is not pending, although the scooter is on a trip, and for the rental that
came too late nothing was dispatched. -/
theorem slot_given_back_changedMind :
    ∃ journal s t, Run Move.KeepsNames smallFleet journal s ∧ .claimed 3 t ∈ journal ∧
      s.registry.isPending t = false ∧ s.registry.hasTrip 1 = true ∧
      s.cameTooLate 5 = true ∧ ∀ d, .dispatched 5 d ∉ journal := by
  have hplay : ((smallFleet.play changedMind).map fun out => (out.1.filterMap Note.claim?,
      out.2.fresh, (out.2.tasks.get? 3).isSome, out.2.registry.hasTrip 1, out.2.cameTooLate 5)) =
      some ([(3, ⟨1, System.tripName 8⟩), (4, ⟨1, System.tripName 14⟩)], 21, false, true,
        true) := by
    decide +kernel
  simp only [Option.map_eq_some_iff, Prod.exists, Prod.mk.injEq] at hplay
  obtain ⟨journal, s, hplay, hclaims, hfresh, hgone, htrip, hlate⟩ := hplay
  have hidle : smallFleet.IsIdle := ⟨rfl, rfl, .create 8, rfl⟩
  have hkeeps : ∀ m ∈ changedMind, m.KeepsNames := by
    simp [changedMind, connecting, settingOut, or_imp, forall_and, Move.KeepsNames]
  have run : Run Move.KeepsNames smallFleet journal s := System.run_of_play hplay .start hkeeps
  have names : System.tripBase + s.fresh ≤ System.nameCount := by
    rw [hfresh]
    decide
  have hclaimed : .claimed 3 ⟨1, System.tripName 8⟩ ∈ journal := by
    rw [← mem_claims, hclaims]
    exact List.mem_cons_self ..
  refine ⟨journal, s, _, run, hclaimed, ?_, htrip, hlate, ?_⟩
  · obtain ⟨hfree, -, -⟩ := slot_given_back hidle run names 3
    refine hfree _ hclaimed fun r hr => ?_
    rw [hr] at hgone
    cases hgone
  · intro d hd
    obtain ⟨-, -, hends⟩ := slot_given_back hidle run names 5
    unfold System.cameTooLate at hlate
    split at hlate
    · next q k task =>
      obtain ⟨f, hf⟩ := (hends d hd).2 q _ task
      cases hf
    · cases hlate

end ChangedMind
end ScooterFleet
