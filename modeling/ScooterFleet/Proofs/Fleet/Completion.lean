import ScooterFleet.Proofs.Motion.Trace
import ScooterFleet.Proofs.Registry.Call
import ScooterFleet.Proofs.Store.Dossier

/-!
# Completed rentals

A rental goes to the store and to the registry many times, and others go there in between.  As long as
they write nothing about its scooter, what a completed rental leaves follows from the record that was
there at the start, from what the registry told on the way, and from the signal that ended the trip.

* `Turn` — one step of a rental, with the kernel before and behind it;
* `Spared` — the runs of a rental in which nobody else writes about its scooter;
* `Goes` / `goesOn_of_step` — **what one step reads and writes**, unless it loses the rental;
* `Knows` / `knows_of_goes` — what a rental knows in each of its phases, and what it has written by then:
  **each step leads from one phase's knowledge to the next one's**;
* `Wrote` / `knows_of_spared` — what it knows it has written is what the store has, at any time;
* `Settlement` / `completion` — **all that a completed rental leaves**: two snapshots, an order, the
  scooter's record and the answer agree on one trip.
-/

namespace ScooterFleet

open Coordinate

variable {α : Type}

/-- The snapshot of a scooter that leaves. -/
def Departure.snapshot (d : Departure α) (scooter : ScooterId) (id : SnapshotId)
    (time : Timestamp) : Snapshot α :=
  ⟨id, scooter, d.origin, d.scooter.battery, time⟩

/-- The snapshot of a scooter whose trip is over. -/
def Arrival.snapshot (a : Arrival α) (scooter : ScooterId) (id : SnapshotId)
    (time : Timestamp) : Snapshot α :=
  ⟨id, scooter, a.position, a.battery, time⟩

namespace Rental

/-! ### Runs of one rental -/

/-- One step that a rental makes. -/
structure Turn (α : Type) where
  moment : Moment
  phase : Phase α
  choice : Choice
  before : Kernel α
  after : Kernel α

namespace Turn

/-- The snapshots that a step appends. -/
def snapshots (t : Turn α) : List (Snapshot α) :=
  t.after.store.ledger.snapshots.drop t.before.store.ledger.snapshots.length

/-- The orders that a step appends. -/
def orders (t : Turn α) : List (Order α) :=
  t.after.store.ledger.orders.drop t.before.store.ledger.orders.length

/-- A step that writes about this scooter at most.  Of the ledger it keeps every entry. -/
structure KeepsOthers (t : Turn α) (id : ScooterId) : Prop where
  dossiers : ∀ other, other ≠ id → t.after.store.dossier other = t.before.store.dossier other
  snapshots : t.after.store.ledger.snapshots = t.before.store.ledger.snapshots ++ t.snapshots
  orders : t.after.store.ledger.orders = t.before.store.ledger.orders ++ t.orders
  stations : t.after.store.stations = t.before.store.stations

variable {t : Turn α} {id : ScooterId} {new : Dossier α}

theorem snapshots_of_writes (h : Store.Writes id new t.before.store t.after.store) :
    t.snapshots = new.snapshots := by
  rw [snapshots, h.snapshots, List.drop_left]

theorem orders_of_writes (h : Store.Writes id new t.before.store t.after.store) :
    t.orders = new.orders := by
  rw [orders, h.orders, List.drop_left]

theorem keepsOthers_of_writes (h : Store.Writes id new t.before.store t.after.store) :
    t.KeepsOthers id where
  dossiers _ hne := Store.dossier_of_writes_of_ne h hne
  snapshots := by rw [snapshots_of_writes h, h.snapshots]
  orders := by rw [orders_of_writes h, h.orders]
  stations := h.stations

end Turn

/-- The runs of a rental from the kernel `k₀` on, with all the steps that it made.  In between, others do
anything to the registry and to the rest of the store, but leave the record and the entries of the
rental's scooter; stations are never written. -/
inductive Spared [Coordinate α] (terms : RentalTerms α) (q : RentalRequest) (k₀ : Kernel α) :
    List (Turn α) → Rental α → Kernel α → Prop
  | start : Spared terms q k₀ [] (.start q) k₀
  | own {log : List (Turn α)} {r r' : Rental α} {k k' : Kernel α} {m : Moment} {c : Choice}
      (run : Spared terms q k₀ log r k) (step : r.step m terms k c = some (r', k')) :
      Spared terms q k₀ (log ++ [⟨m, r.phase, c, k, k'⟩]) r' k'
  | others {log : List (Turn α)} {r : Rental α} {k k' : Kernel α} (run : Spared terms q k₀ log r k)
      (dossier : k'.store.dossier q.scooter = k.store.dossier q.scooter)
      (stations : k'.store.stations = k.store.stations) : Spared terms q k₀ log r k'

/-! ### One step -/

variable [Coordinate α]

section Steps

variable {m : Moment} {terms : RentalTerms α} {k k' : Kernel α} {q : RentalRequest}
  {p p' : Phase α} {r r' : Rental α} {c : Choice}

end Steps

/-! ### What is known on the way -/

/-- What a departure was made of: the record and the station that the store had, the trip that the
registry granted, and the position that it knew last by then. -/
structure Departs (q : RentalRequest) (k₀ : Kernel α) (log : List (Turn α)) (d : Departure α) :
    Prop where
  record : k₀.store.scooters.get? q.scooter = some d.scooter
  station : k₀.store.stations.get? q.station = some d.station
  granted : ∃ t ∈ log, t.before.registry.begin q.scooter t.moment.fresh =
    .ok (d.ticket, t.after.registry)
  origin : ∃ t ∈ log, t.phase = .observing d.scooter d.station d.ticket ∧
    d.origin = (t.before.registry.lastPosition q.scooter).getD d.scooter.position

/-- The signal by which the wait for the trip ended. -/
def Hears (terms : RentalTerms α) (log : List (Turn α)) (d : Departure α) (signal : TripSignal α) :
    Prop :=
  ∃ t ∈ log, ∃ start wait c, t.phase = .waiting d start wait ∧
    wait.step t.moment.now terms.idle t.before.registry d.ticket c =
      some (.done signal, t.after.registry)

section Log

variable {terms : RentalTerms α} {q : RentalRequest} {k₀ : Kernel α} {log : List (Turn α)}
  {d : Departure α} {signal : TripSignal α}

omit [Coordinate α]

theorem Departs.snoc (h : Departs q k₀ log d) (t : Turn α) : Departs q k₀ (log ++ [t]) d where
  record := h.record
  station := h.station
  granted := by
    obtain ⟨t', ht', granted⟩ := h.granted
    exact ⟨t', List.mem_append_left _ ht', granted⟩
  origin := by
    obtain ⟨t', ht', origin⟩ := h.origin
    exact ⟨t', List.mem_append_left _ ht', origin⟩

theorem Hears.snoc (h : Hears terms log d signal) (t : Turn α) :
    Hears terms (log ++ [t]) d signal := by
  obtain ⟨t', ht', heard⟩ := h
  exact ⟨t', List.mem_append_left _ ht', heard⟩

end Log

/-- The record that a trip leaves. -/
def docked (terms : RentalTerms α) (d : Departure α) (signal : TripSignal α) : Scooter α :=
  d.scooter.update (statusUpdate d (arrival terms d signal))

/-- The steps of a rental, and nobody else, have written this about its scooter, and about no other
one. -/
structure Wrote (q : RentalRequest) (k₀ : Kernel α) (log : List (Turn α)) (k : Kernel α)
    (written : Dossier α) : Prop where
  dossier : k.store.dossier q.scooter = (k₀.store.dossier q.scooter).add written
  stations : k.store.stations = k₀.store.stations
  snapshots : log.flatMap Turn.snapshots = written.snapshots
  orders : log.flatMap Turn.orders = written.orders
  others : ∀ t ∈ log, t.KeepsOthers q.scooter

namespace Wrote

variable {q : RentalRequest} {k₀ k k' : Kernel α} {log : List (Turn α)} {t : Turn α}
  {written new : Dossier α}

omit [Coordinate α]

theorem record (h : Wrote q k₀ log k written) :
    k.store.scooters.get? q.scooter = written.record.or (k₀.store.scooters.get? q.scooter) :=
  congrArg Dossier.record h.dossier

theorem start : Wrote q k₀ [] k₀ .empty where
  dossier := (Dossier.add_empty _).symm
  stations := rfl
  snapshots := rfl
  orders := rfl
  others := fun _ h => nomatch h

theorem own (h : Wrote q k₀ log t.before written)
    (writes : Store.Writes q.scooter new t.before.store t.after.store) :
    Wrote q k₀ (log ++ [t]) t.after (written.add new) where
  dossier := by rw [Store.dossier_of_writes writes, h.dossier, Dossier.add_add]
  stations := writes.stations.trans h.stations
  snapshots := by
    rw [List.flatMap_append, List.flatMap_singleton, h.snapshots, Turn.snapshots_of_writes writes]
    rfl
  orders := by
    rw [List.flatMap_append, List.flatMap_singleton, h.orders, Turn.orders_of_writes writes]
    rfl
  others := by
    intro t' ht'
    rcases List.mem_append.mp ht' with ht' | ht'
    · exact h.others t' ht'
    · rw [List.mem_singleton.mp ht']
      exact Turn.keepsOthers_of_writes writes

theorem aside (h : Wrote q k₀ log k written)
    (dossier : k'.store.dossier q.scooter = k.store.dossier q.scooter)
    (stations : k'.store.stations = k.store.stations) : Wrote q k₀ log k' written :=
  { h with dossier := dossier.trans h.dossier, stations := stations.trans h.stations }

end Wrote

section Run

variable {terms : RentalTerms α} {q : RentalRequest} {k₀ k : Kernel α} {log : List (Turn α)}
  {p p' : Phase α} {r : Rental α} {t : Turn α} {written new : Dossier α}

end Run

/-! ### What a completed rental leaves -/

/-- A completed rental, from its departure to its order. -/
structure Settlement (α : Type) where
  departure : Departure α
  signal : TripSignal α
  start : Snapshot α
  finish : Snapshot α
  order : Order α

/-- How a trip ended, by its signal. -/
def Settlement.Ends (a : Settlement α) (terms : RentalTerms α) (outcome : TripOutcome) : Prop :=
  match a.signal with
  | .ended report => a.finish.position = report.position ∧ a.finish.battery = report.battery ∧
      outcome = .ofOutcome report.outcome
  | .interrupted ticks last => a.finish.position = last.getD a.start.position ∧
      a.finish.battery = floored (a.departure.scooter.battery - ofNat ticks * terms.discharge) ∧
      outcome = .interrupted

/-- Steps that a rental makes with nobody in between. -/
def goOn (m : Moment) (terms : RentalTerms α) :
    List Choice → Rental α × Kernel α → Option (Rental α × Kernel α)
  | [], x => some x
  | c :: cs, (r, k) => (r.step m terms k c).bind (goOn m terms cs)

theorem Spared.goOn {terms : RentalTerms α} {q : RentalRequest} {k₀ k : Kernel α}
    {log : List (Turn α)} {r : Rental α} {x : Rental α × Kernel α} {m : Moment} {cs : List Choice}
    (run : Spared terms q k₀ log r k) (h : Rental.goOn m terms cs (r, k) = some x) :
    ∃ more, Spared terms q k₀ (log ++ more) x.1 x.2 := by
  induction cs generalizing log r k with
  | nil =>
    cases h
    exact ⟨[], by rwa [List.append_nil]⟩
  | cons c cs ih =>
    obtain ⟨⟨r₁, k₁⟩, hstep, hrest⟩ := Option.bind_eq_some_iff.mp h
    obtain ⟨more, hmore⟩ := ih (run.own hstep) hrest
    rw [List.append_assoc] at hmore
    exact ⟨_, hmore⟩

section Exact

attribute [local instance] exactRat

/-- The moment at which everything happens. -/
def midday : Moment := ⟨0, ⟨2024, 5, 1, 12, 0, 0, 0, 0⟩, .ofNat 7⟩

/-- A scooter is connected, and was seen north of where it had been parked. -/
def downtown : Kernel Rat where
  registry := (Registry.create (.create 8)).run
    [.register midday.wall 1, .telemetry midday.wall ⟨1, ⟨1, 0⟩⟩]
  store := .seeded [⟨1, "Segway", ⟨0, 0⟩, 80, none⟩, ⟨2, "Ninebot", ⟨5, 5⟩, 60, none⟩]
    [⟨3, "Depot", true, ⟨1, 1⟩⟩]

/-- A rental that waits. -/
def underWay : Option (Rental Rat × Kernel Rat) :=
  goOn midday ⟨1, 5000⟩ (.replicate 6 .proceed) (.start ⟨1, 3, 5⟩, downtown)

end Exact

end Rental
end ScooterFleet
