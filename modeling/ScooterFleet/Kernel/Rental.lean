import ScooterFleet.Kernel.Wait
import ScooterFleet.Store.Fleet

/-!
# Rentals

One rental takes a scooter to a station: the scooter has to be rentable and connected, its one trip is
claimed, its status is recorded, its device is dispatched, the end of the trip is waited for, and then
status, scooter and order are written.

`Rental.step` is one atomic step: one call of the store, one of the registry, or one wake-up of the
wait.  Nothing is rolled back: a failure behind the dispatch leaves the movement as it is.  Whatever
happens before the wait gives the claimed trip back.

`Redirect` moves a scooter outside of any trip, in two steps.
-/

namespace ScooterFleet

open Coordinate

inductive RentalFault (α : Type) where
  | notRentable (scooter : ScooterId) (battery : α)
  | unreachable (scooter : ScooterId)
  | inProgress (scooter : ScooterId)
  | store (fault : StoreFault)
  deriving DecidableEq, Repr

def RentalFault.message : RentalFault Float → String
  | .notRentable id battery =>
    "scooter " ++ toString id.toNat ++ " is not rentable (battery " ++ Layout.message.text battery ++
      "%)"
  | .unreachable id => "scooter " ++ toString id.toNat ++ " is not connected"
  | .inProgress id => "scooter " ++ toString id.toNat ++ " is already on a trip"
  | .store fault => fault.message

/-- The status by which an answer over HTTP tells of a fault. -/
def RentalFault.status {α : Type} : RentalFault α → Nat
  | .notRentable _ _ => 409
  | .inProgress _ => 409
  | .unreachable _ => 503
  | .store (.scooterNotFound _) => 404
  | .store (.stationNotFound _) => 404
  | .store _ => 500

/-- What holds for all rentals of a kernel. -/
structure RentalTerms (α : Type) where
  /-- Battery percent per tick, for trips whose device does not report their end. -/
  discharge : α
  /-- The silence after which a trip is given up. -/
  idle : Millis
  deriving DecidableEq, Repr

structure RentalRequest where
  scooter : ScooterId
  station : StationId
  user : UserId
  deriving DecidableEq, Repr

/-- What is known when the scooter may leave. -/
structure Departure (α : Type) where
  scooter : Scooter α
  station : Station α
  ticket : Ticket
  origin : Position α
  deriving DecidableEq, Repr

/-- What is known when the trip is over. -/
structure Arrival (α : Type) where
  position : Position α
  battery : α
  outcome : TripOutcome
  deriving DecidableEq, Repr

/-- What a rental does next, and what it knows. -/
inductive Rental.Phase (α : Type) where
  | checking
  | locating (scooter : Scooter α)
  | claiming (scooter : Scooter α) (station : Station α)
  | observing (scooter : Scooter α) (station : Station α) (ticket : Ticket)
  | opening (departure : Departure α)
  | dispatching (departure : Departure α) (start : SnapshotId)
  | waiting (departure : Departure α) (start : SnapshotId) (wait : Wait)
  | closing (departure : Departure α) (start : SnapshotId) (arrival : Arrival α)
  | docking (departure : Departure α) (start finish : SnapshotId) (arrival : Arrival α)
  | ordering (departure : Departure α) (start finish : SnapshotId) (arrival : Arrival α)
  /-- Gives the trip back. -/
  | releasing (ticket : Ticket) (fault : RentalFault α)
  | finished (result : Except (RentalFault α) (Trip α))

structure Rental (α : Type) where
  request : RentalRequest
  phase : Rental.Phase α

/-- What rentals, gateways and requests share. -/
structure Kernel (α : Type) where
  registry : Registry α
  store : Store α

namespace Kernel

variable {α β : Type}

/-- Carries out a call of the store. -/
def call (k : Kernel α) (op : Store.Op α β) : Except StoreFault β × Kernel α :=
  let (result, store) := op k.store
  (result, { k with store })

end Kernel

namespace Rental

variable {α : Type}

def start (request : RentalRequest) : Rental α := ⟨request, .checking⟩

def result? (r : Rental α) : Option (Except (RentalFault α) (Trip α)) :=
  match r.phase with
  | .finished result => some result
  | _ => none

/-- The ticket that a rental holds. -/
def ticket? (r : Rental α) : Option Ticket :=
  match r.phase with
  | .observing _ _ ticket => some ticket
  | .opening d => some d.ticket
  | .dispatching d _ => some d.ticket
  | .waiting d _ _ => some d.ticket
  | .releasing ticket _ => some ticket
  | _ => none

def alarm? (r : Rental α) : Option Millis :=
  match r.phase with
  | .waiting _ _ wait => some wait.deadline
  | _ => none

/-- A rental that is given up from outside gives its trip back. -/
def cancel (k : Kernel α) (r : Rental α) : Kernel α :=
  match r.ticket? with
  | some ticket => { k with registry := k.registry.abandon ticket }
  | none => k

def fail (fault : RentalFault α) : Phase α := .finished (.error fault)

/-- What claiming a trip can tell about a scooter. -/
def claimFault (id : ScooterId) : RegistryFault → RentalFault α
  | .tripInProgress id => .inProgress id
  | _ => .unreachable id

variable [Coordinate α]

/-- The battery of a trip whose end was not reported. -/
def estimate (battery discharge : α) (ticks : Nat) : α :=
  floored (battery - ofNat ticks * discharge)

/-- How a signal closes a trip. -/
def arrival (terms : RentalTerms α) (d : Departure α) : TripSignal α → Arrival α
  | .ended report => ⟨report.position, report.battery, .ofOutcome report.outcome⟩
  | .interrupted ticks last =>
    ⟨last.getD d.origin, estimate d.scooter.battery terms.discharge ticks, .interrupted⟩

/-- What the scooter's status becomes. -/
def statusUpdate (d : Departure α) (a : Arrival α) : StatusUpdate α where
  position := a.position
  battery := a.battery
  station := if a.outcome = .arrived then some d.station.id else none

def orderRequest (request : RentalRequest) (d : Departure α) (start finish : SnapshotId)
    (a : Arrival α) : OrderRequest α :=
  ⟨request.user, request.scooter, start, finish, d.origin.distance a.position⟩

def trip (order : Order α) (a : Arrival α) : Trip α where
  order := order.id
  scooter := order.scooter
  user := order.user
  start := order.start
  finish := order.finish
  distance := order.distance
  outcome := a.outcome
  battery := a.battery

/-- The time, and what the step that begins a trip is given: a name for it that was never used. -/
structure Moment where
  now : Millis
  wall : Timestamp
  fresh : TripId
  deriving DecidableEq, Repr

/-- Every step but those of the wait has one way to go on. -/
def advance (m : Moment) (terms : RentalTerms α) (k : Kernel α) (request : RentalRequest) :
    Phase α → Option (Phase α × Kernel α)
  | .checking =>
    match k.call (Store.getScooter request.scooter) with
    | (.error fault, k) => some (fail (.store fault), k)
    | (.ok scooter, k) =>
      if scooter.isRentable then some (.locating scooter, k)
      else some (fail (.notRentable request.scooter scooter.battery), k)
  | .locating scooter =>
    match k.call (Store.getStation request.station) with
    | (.error fault, k) => some (fail (.store fault), k)
    | (.ok station, k) => some (.claiming scooter station, k)
  | .claiming scooter station =>
    match k.registry.begin request.scooter m.fresh with
    | .error fault => some (fail (claimFault request.scooter fault), k)
    | .ok (ticket, registry) => some (.observing scooter station ticket, { k with registry })
  | .observing scooter station ticket =>
    let origin := (k.registry.lastPosition request.scooter).getD scooter.position
    some (.opening ⟨scooter, station, ticket, origin⟩, k)
  | .opening d =>
    match k.call (Store.recordSnapshot m.wall request.scooter d.origin d.scooter.battery) with
    | (.error fault, k) => some (.releasing d.ticket (.store fault), k)
    | (.ok snapshot, k) => some (.dispatching d snapshot.id, k)
  | .dispatching d start =>
    match k.registry.dispatch request.scooter d.station.position (some d.ticket.trip) with
    | .error _ => some (.releasing d.ticket (.unreachable request.scooter), k)
    | .ok registry => some (.waiting d start (.start m.now terms.idle), { k with registry })
  | .waiting _ _ _ => none
  | .closing d start a =>
    match k.call (Store.recordSnapshot m.wall request.scooter a.position a.battery) with
    | (.error fault, k) => some (fail (.store fault), k)
    | (.ok snapshot, k) => some (.docking d start snapshot.id a, k)
  | .docking d start finish a =>
    match k.call (Store.updateScooter request.scooter (statusUpdate d a)) with
    | (.error fault, k) => some (fail (.store fault), k)
    | (.ok _, k) => some (.ordering d start finish a, k)
  | .ordering d start finish a =>
    match k.call (Store.createOrder m.wall (orderRequest request d start finish a)) with
    | (.error fault, k) => some (fail (.store fault), k)
    | (.ok order, k) => some (.finished (.ok (trip order a)), k)
  | .releasing ticket fault =>
    some (fail fault, { k with registry := k.registry.abandon ticket })
  | .finished _ => none

/-- The ways in which a rental goes on. -/
inductive Choice where
  | proceed
  | wake (choice : Wait.Choice)
  deriving DecidableEq, Repr

/-- One atomic step; none if it is not enabled. -/
def step (m : Moment) (terms : RentalTerms α) (k : Kernel α) (r : Rental α) :
    Choice → Option (Rental α × Kernel α)
  | .proceed => (advance m terms k r.request r.phase).map fun (phase, k) => ({ r with phase }, k)
  | .wake choice =>
    match r.phase with
    | .waiting d start wait =>
      match wait.step m.now terms.idle k.registry d.ticket choice with
      | none => none
      | some (.waiting wait, registry) =>
        some ({ r with phase := .waiting d start wait }, { k with registry })
      | some (.done signal, registry) =>
        some ({ r with phase := .closing d start (arrival terms d signal) }, { k with registry })
    | _ => none

end Rental

/-! ### Redirects -/

/-- A redirect looks whether a trip is pending, and then dispatches without one. -/
inductive Redirect (α : Type) where
  | checking
  | dispatching
  | finished (result : Except (RentalFault α) Unit)

namespace Redirect

variable {α : Type}

/-- One atomic step; none once it is finished. -/
def step (id : ScooterId) (destination : Position α) (r : Registry α) :
    Redirect α → Option (Redirect α × Registry α)
  | .checking =>
    if r.hasTrip id then some (.finished (.error (.inProgress id)), r) else some (.dispatching, r)
  | .dispatching =>
    match r.dispatch id destination none with
    | .ok r => some (.finished (.ok ()), r)
    | .error _ => some (.finished (.error (.unreachable id)), r)
  | .finished _ => none

/-- A redirect without anything else in between. -/
def run (id : ScooterId) (destination : Position α) (r : Registry α) :
    Except (RentalFault α) Unit × Registry α :=
  match step id destination r .checking with
  | some (.dispatching, r) =>
    match step id destination r .dispatching with
    | some (.finished result, r) => (result, r)
    | _ => (.ok (), r)
  | some (.finished result, r) => (result, r)
  | _ => (.ok (), r)

end Redirect
end ScooterFleet
