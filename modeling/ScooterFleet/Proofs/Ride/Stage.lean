import Mathlib.Data.List.ReduceOption
import ScooterFleet.Kernel.System
import ScooterFleet.Motion.Settings
import ScooterFleet.Proofs.Registry.Orders

/-!
# One rental and its device

A rental, the gateway that serves its scooter, and the device at the other end of the link.  Each of the
three goes on whenever it can, in any order; between any two of their steps anybody else may call the
registry, and the store and the viewers may become any others.  Time passes only when none of the three
can go on, and never beyond an alarm that one of them has set.

* `Ride` / `Ride.step` — the three of them in their surroundings, and one event;
* `Ride.Spares`, `Ride.LeavesFree` — what the others leave to them: the session, its commands and the
  trip; and the slot, should the device go before the wait;
* `Ride.StartsFinite` — what movements start with;
* `Ride.start` — a rental that begins while the device is attached, and at rest or on its way;
* `Session.RunsOut` — a movement whose battery is empty with a tick that is due already.
-/

namespace ScooterFleet

namespace Registry

variable {α : Type}

/-- Is a call a dispatch to this scooter? -/
def Call.sends (id : ScooterId) : Call α → Bool
  | .dispatch id' _ _ => id' = id
  | _ => false

/-- A call orders nothing of the connection of a scooter to which it is no dispatch. -/
theorem accepted?_of_not_sends {r : Registry α} {owned : Registration} {c : Call α}
    (h : c.sends owned.scooter = false) : r.accepted? owned c = none := by
  cases c with
  | dispatch id destination trip =>
    simp only [accepted?]
    split
    · refine if_neg fun howner => ?_
      exact of_decide_eq_false h (scooter_of_owner howner).symm
    · rfl
  | _ => rfl

instance (r : Registry α) (id : ScooterId) : (c : Call α) → Decidable (c.Removes r id)
  | .unregister id' => inferInstanceAs (Decidable (id' = id))
  | .release g => inferInstanceAs (Decidable (g.scooter = id ∧ r.owns g = true))
  | .register _ _ | .registerFirstFree _ _ | .dispatch _ _ _ | .telemetry _ _ | .tripEnded _ _
  | .begin _ _ | .giveUp _ | .abandon _ | .take _ | .deafen _ | .dropQueue _ =>
    inferInstanceAs (Decidable False)

end Registry

open Registry

variable {α : Type}

/-- Before the scooter is sent anywhere. -/
def Rental.Phase.IsPreparing : Rental.Phase α → Prop
  | .checking | .locating _ | .claiming _ _ | .observing _ _ _ | .opening _ | .dispatching _ _ => True
  | _ => False

instance : (p : Rental.Phase α) → Decidable p.IsPreparing
  | .checking | .locating _ | .claiming _ _ | .observing _ _ _ | .opening _ | .dispatching _ _ =>
    inferInstanceAs (Decidable True)
  | .waiting _ _ _ | .closing _ _ _ | .docking _ _ _ _ | .ordering _ _ _ _ | .releasing _ _
  | .finished _ => inferInstanceAs (Decidable False)

/-- A rental, a gateway and a device in their surroundings. -/
structure Ride (α : Type) where
  now : Millis
  wall : Timestamp
  terms : RentalTerms α
  site : Gateway.Site α
  device : Device α
  gateway : Gateway α
  rental : Rental α

namespace Ride

/-- One of the three goes on. -/
inductive Move where
  | device (choice : Device.Choice)
  | gateway (choice : Gateway.Choice)
  | rental (choice : Rental.Choice)
  deriving DecidableEq, Repr

inductive Event (α : Type) where
  /-- One of the three goes on; a trip that begins gets this name. -/
  | move (m : Move) (name : TripId)
  /-- Anybody else calls the registry. -/
  | call (c : Call α)
  /-- The time of day, the store and the viewers become any others. -/
  | world (wall : Timestamp) (store : Store α) (hub : Hub α)
  | clock (now : Millis)

def registry (s : Ride α) : Registry α := s.site.kernel.registry

def withRegistry (s : Ride α) (registry : Registry α) : Ride α :=
  { s with site := s.site.withRegistry registry }

/-- The alarms that are set. -/
def alarms (s : Ride α) : List Millis :=
  [s.device.alarm?, s.gateway.alarm?, s.rental.alarm?].reduceOption

theorem mem_alarms_of_device {s : Ride α} {due : Millis} (h : s.device.alarm? = some due) :
    due ∈ s.alarms :=
  List.reduceOption_mem_iff.mpr (h ▸ List.mem_cons_self ..)

/-- A device that is attached, the gateway that serves it, and a rental that begins. -/
def start (now : Millis) (wall : Timestamp) (terms : RentalTerms α) (kernel : Kernel α)
    (buffer : Nat) (session : Session α) (due : Millis) (owned : Registration)
    (request : RentalRequest) : Ride α :=
  ⟨now, wall, terms, ⟨kernel, .pair buffer⟩, .running session due, .serving owned, .start request⟩

variable [Coordinate α]

/-- One step of one of the three; none if it is not enabled. -/
def go (s : Ride α) (name : TripId) : Move → Option (Ride α)
  | .device c =>
    (s.device.step s.now s.site.link c).map fun (device, link) => { s with device, site.link := link }
  | .gateway c =>
    (s.gateway.step s.now s.wall s.site c).map fun (gateway, site) => { s with gateway, site }
  | .rental c =>
    (s.rental.step ⟨s.now, s.wall, name⟩ s.terms s.site.kernel c).map fun (rental, kernel) =>
      { s with rental, site.kernel := kernel }

/-- All steps that there may be. -/
def moves : List Move :=
  [.device .receive, .device .tick, .device .send, .gateway .command, .gateway .inbound,
    .gateway .expiry, .gateway .proceed, .rental .proceed, .rental (.wake .signal),
    .rental (.wake .activity), .rental (.wake .expiry)]

/-- One of the three can go on. -/
def isReady (s : Ride α) : Bool := moves.any fun m => (s.go (.ofNat 0) m).isSome

/-- One event; none if it is not enabled. -/
def step (s : Ride α) : Event α → Option (Ride α)
  | .move m name => s.go name m
  | .call c => some (s.withRegistry (s.registry.perform c))
  | .world wall store hub =>
    some { s with wall, site.kernel := ⟨{ s.registry with hub }, store⟩ }
  | .clock now =>
    if s.isReady = false ∧ s.now ≤ now ∧ ∀ a ∈ s.alarms, now ≤ a then some { s with now } else none

/-- Any number of events, the first one first. -/
def run (s : Ride α) (events : List (Event α)) : Option (Ride α) := events.foldlM step s

/-- The events of a run, each with the state before it. -/
def trail : Ride α → List (Event α) → List (Ride α × Event α)
  | _, [] => []
  | s, e :: events => (s, e) :: (s.step e).elim [] fun s' => s'.trail events

theorem run_cons (s : Ride α) (e : Event α) (events : List (Event α)) :
    s.run (e :: events) = (s.step e).bind fun s' => s'.run events := rfl

section Others

omit [Coordinate α]

/-- What the others leave to the three: nobody else removes the session or receives its commands, makes a
dispatch to its scooter, holds the ticket, or knows the name under which the trip began; and the name of a
trip that begins is not in use. -/
def Spares (owned : Registration) (s : Ride α) : Event α → Prop
  | .move (.rental _) name => s.registry.resolutions.get? name = none ∧
    ∀ pending ∈ s.registry.trips.values, pending.trip ≠ name
  | .call c => ¬ c.Removes s.registry owned.scooter ∧ ¬ c.Receives owned.connection ∧
    c.sends owned.scooter = false ∧
    ∀ t ∈ s.rental.ticket?, c ≠ .giveUp t ∧ c ≠ .abandon t ∧ c.begun? ≠ some t.trip
  | _ => True

instance [DecidableEq α] (owned : Registration) (s : Ride α) :
    (e : Event α) → Decidable (s.Spares owned e)
  | .move (.rental _) name => inferInstanceAs (Decidable (s.registry.resolutions.get? name = none ∧
    ∀ pending ∈ s.registry.trips.values, pending.trip ≠ name))
  | .call c => inferInstanceAs (Decidable (¬ c.Removes s.registry owned.scooter ∧
    ¬ c.Receives owned.connection ∧ c.sends owned.scooter = false ∧
    ∀ t ∈ s.rental.ticket?, c ≠ .giveUp t ∧ c ≠ .abandon t ∧ c.begun? ≠ some t.trip))
  | .move (.device _) _ | .move (.gateway _) _ | .world _ _ _ | .clock _ =>
    inferInstanceAs (Decidable True)

/-- Until the rental waits, nobody else takes the slot when it is free. -/
def LeavesFree (owned : Registration) (s : Ride α) : Event α → Prop
  | .call c => s.rental.phase.IsPreparing → ∀ g ∈ s.registry.granted? c, g.scooter ≠ owned.scooter
  | _ => True

instance (owned : Registration) (s : Ride α) : (e : Event α) → Decidable (s.LeavesFree owned e)
  | .call c => inferInstanceAs (Decidable
    (s.rental.phase.IsPreparing → ∀ g ∈ s.registry.granted? c, g.scooter ≠ owned.scooter))
  | .move _ _ | .world _ _ _ | .clock _ => inferInstanceAs (Decidable True)

end Others

/-- The place to which a rental sends its scooter next, if it does, is finite. -/
def AimsFinite : Rental.Phase α → Prop
  | .dispatching d _ => d.station.position.isFinite = true
  | _ => True

instance : (p : Rental.Phase α) → Decidable (AimsFinite p)
  | .dispatching d _ => inferInstanceAs (Decidable (d.station.position.isFinite = true))
  | .checking | .locating _ | .claiming _ _ | .observing _ _ _ | .opening _ | .waiting _ _ _
  | .closing _ _ _ | .docking _ _ _ _ | .ordering _ _ _ _ | .releasing _ _ | .finished _ =>
    inferInstanceAs (Decidable True)

/-- A movement starts with what is finite: where the device stands and its battery when it takes a
command, and the place to which the rental sends it. -/
def StartsFinite (s : Ride α) : Event α → Prop
  | .move (.device .receive) _ => ∀ session ∈ s.device.session?,
    session.position.isFinite = true ∧ Coordinate.isFinite session.battery = true
  | .move (.rental .proceed) _ => AimsFinite s.rental.phase
  | _ => True

instance (s : Ride α) : (e : Event α) → Decidable (s.StartsFinite e)
  | .move (.device .receive) _ => inferInstanceAs (Decidable (∀ session ∈ s.device.session?,
    session.position.isFinite = true ∧ Coordinate.isFinite session.battery = true))
  | .move (.rental .proceed) _ => inferInstanceAs (Decidable (AimsFinite s.rental.phase))
  | .move (.device .tick) _ | .move (.device .send) _ | .move (.gateway _) _
  | .move (.rental (.wake _)) _ | .call _ | .world _ _ _ | .clock _ => inferInstanceAs (Decidable True)

end Ride

/-- A tick of the movement under way that is due by now empties the battery; the next tick is due at
`due`. -/
def Session.RunsOut [Coordinate α] (s : Session α) (due now : Millis) : Prop :=
  ∃ movement ∈ s.movement, ∃ n, due + n * s.profile.interval ≤ now ∧
    (movement.trace (n + 1)).2.outcome = some .discharged

end ScooterFleet
