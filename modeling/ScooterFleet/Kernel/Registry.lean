import ScooterFleet.Kernel.Hub
import ScooterFleet.Text.Timestamp

/-!
# The registry

Who is connected, what was last seen of each scooter, and which trips are waited for.

* A *connection* holds at most one slot, the one of its scooter, and has a queue of commands.  It frees
  its own slot only, never one that a newer connection has taken.
* A scooter has at most one *pending trip*.  A trip leaves the table once: when its report comes, when
  its scooter's session is removed, or when its own ticket gives it up.  In the first two cases the
  table of resolutions holds a signal for whoever waits.

Every operation is one atomic step.

Positions are counted by natural numbers here.  A running registry counts them in words of 64 bits: it is
assumed that no trip hears 2^64 positions.
-/

namespace ScooterFleet

/-- Names one connection; numbers are not used twice. -/
abbrev ConnectionId := Nat

inductive RegistryFault where
  | alreadyRegistered (scooter : ScooterId)
  | notRegistered (scooter : ScooterId)
  | tripInProgress (scooter : ScooterId)
  | noFreeSlot
  deriving DecidableEq, Repr

def RegistryFault.message : RegistryFault → String
  | .alreadyRegistered id => "scooter " ++ toString id.toNat ++ " already has a live session"
  | .notRegistered id => "scooter " ++ toString id.toNat ++ " has no live session"
  | .tripInProgress id => "scooter " ++ toString id.toNat ++ " is already on a trip"
  | .noFreeSlot => "every scooter slot is taken"

/-- The connection that holds a slot. -/
structure SlotHolder where
  connection : ConnectionId
  since : Timestamp
  deriving DecidableEq, Repr

/-- What was last seen of a scooter. -/
structure LiveState (α : Type) where
  position : Position α
  time : Timestamp
  deriving DecidableEq, Repr

structure PendingTrip where
  trip : TripId
  /-- Positions reported since the trip began, fewer than 2^64. -/
  ticks : Nat
  deriving DecidableEq, Repr

/-- How a trip was resolved. -/
inductive TripSignal (α : Type) where
  | ended (report : TripReport α)
  /-- The device vanished or stayed silent; `ticks` positions had been reported, fewer than 2^64. -/
  | interrupted (ticks : Nat) (last : Option (Position α))
  deriving DecidableEq, Repr

/-- What a resolved trip leaves for its waiter: the positions reported for it, fewer than 2^64, and its
signal. -/
structure Resolution (α : Type) where
  ticks : Nat
  signal : TripSignal α
  deriving DecidableEq, Repr

/-- Ownership of a slot. -/
structure Registration where
  scooter : ScooterId
  connection : ConnectionId
  deriving DecidableEq, Repr

/-- A claim on a scooter's one pending trip. -/
structure Ticket where
  scooter : ScooterId
  trip : TripId
  deriving DecidableEq, Repr

structure Registry (α : Type) where
  sessions : Table ScooterId SlotHolder
  live : Table ScooterId (LiveState α)
  trips : Table ScooterId PendingTrip
  /-- The commands for each connection, also while it only has to take what is left. -/
  queues : Table ConnectionId (Channel (Dispatch α))
  resolutions : Table TripId (Resolution α)
  hub : Hub α
  /-- The name of the next connection. -/
  fresh : ConnectionId

namespace Registry

variable {α : Type}

def create (hub : Hub α) : Registry α := ⟨∅, ∅, ∅, ∅, ∅, hub, 0⟩

/-! ### Looking -/

def isConnected (r : Registry α) (id : ScooterId) : Bool := r.sessions.contains id

/-- The connected scooters, in ascending order. -/
def connected (r : Registry α) : List ScooterId :=
  r.sessions.keys.mergeSort fun a b => decide (a ≤ b)

def connectedSince (r : Registry α) (id : ScooterId) : Option Timestamp :=
  (r.sessions.get? id).map (·.since)

def lastKnown (r : Registry α) (id : ScooterId) : Option (LiveState α) := r.live.get? id

def lastPosition (r : Registry α) (id : ScooterId) : Option (Position α) :=
  (r.live.get? id).map (·.position)

def hasTrip (r : Registry α) (id : ScooterId) : Bool := r.trips.contains id

def tripCount (r : Registry α) : Nat := r.trips.size

/-- Is this very trip pending? -/
def isPending (r : Registry α) (t : Ticket) : Bool :=
  match r.trips.get? t.scooter with
  | some p => p.trip = t.trip
  | none => false

/-! ### Slots -/

/-- A new connection takes the slot of a scooter. -/
def claim (r : Registry α) (time : Timestamp) (id : ScooterId) : Registration × Registry α :=
  (⟨id, r.fresh⟩,
    { r with
      sessions := r.sessions.insert id ⟨r.fresh, time⟩
      queues := r.queues.insert r.fresh .unbounded
      fresh := r.fresh + 1 })

def register (r : Registry α) (time : Timestamp) (id : ScooterId) :
    Except RegistryFault (Registration × Registry α) :=
  if r.isConnected id then .error (.alreadyRegistered id) else .ok (r.claim time id)

/-- The first candidate whose slot is free. -/
def registerFirstFree (r : Registry α) (time : Timestamp) (candidates : List ScooterId) :
    Except RegistryFault (Registration × Registry α) :=
  match candidates.find? fun id => !r.isConnected id with
  | some id => .ok (r.claim time id)
  | none => .error .noFreeSlot

/-- A pending trip leaves the table with a signal. -/
def resolve (r : Registry α) (id : ScooterId) (p : PendingTrip) (signal : TripSignal α) :
    Registry α :=
  { r with
    trips := r.trips.erase id
    resolutions := r.resolutions.insert p.trip ⟨p.ticks, signal⟩ }

/-- Interrupts the pending trip of a scooter, if there is one. -/
def interrupt (r : Registry α) (id : ScooterId) : Registry α :=
  match r.trips.get? id with
  | some p => r.resolve id p (.interrupted p.ticks (r.lastPosition id))
  | none => r

/-- Removes whatever session holds a slot; none if the slot was free. -/
def unregister? (r : Registry α) (id : ScooterId) : Option (Registry α) :=
  match r.sessions.get? id with
  | none => none
  | some slot =>
    some ({ r with
      sessions := r.sessions.erase id
      queues := r.queues.modify slot.connection Channel.finish }.interrupt id)

def unregister (r : Registry α) (id : ScooterId) : Registry α := (r.unregister? id).getD r

def owns (r : Registry α) (g : Registration) : Bool :=
  match r.sessions.get? g.scooter with
  | some slot => slot.connection = g.connection
  | none => false

/-- The connection frees its slot, if the slot is still its own. -/
def release (r : Registry α) (g : Registration) : Registry α :=
  if r.owns g then r.unregister g.scooter else r

/-! ### Commands -/

/-- Queues a command for the device that holds the slot. -/
def dispatch (r : Registry α) (id : ScooterId) (destination : Position α) (trip : Option TripId) :
    Except RegistryFault (Registry α) :=
  match r.sessions.get? id with
  | none => .error (.notRegistered id)
  | some slot =>
    match r.queues.get? slot.connection with
    | none => .error (.notRegistered id)
    | some queue =>
      match queue.send ⟨id, destination, trip⟩ with
      | .sent queue => .ok { r with queues := r.queues.insert slot.connection queue }
      | _ => .error (.notRegistered id)

/-- What a connection finds in its queue. -/
def receive (r : Registry α) (c : ConnectionId) : Channel.Receipt (Dispatch α) :=
  match r.queues.get? c with
  | some queue => queue.receive
  | none => .ended

/-- The connection has received a command and left `rest`. -/
def leave (r : Registry α) (c : ConnectionId) (rest : Channel (Dispatch α)) : Registry α :=
  { r with queues := r.queues.insert c rest }

/-- The connection takes no new commands. -/
def deafen (r : Registry α) (c : ConnectionId) : Registry α :=
  { r with queues := r.queues.modify c Channel.close }

/-- The connection goes away from its queue. -/
def dropQueue (r : Registry α) (c : ConnectionId) : Registry α :=
  { r with queues := r.queues.erase c }

/-! ### What devices report -/

def see (r : Registry α) (time : Timestamp) (id : ScooterId) (position : Position α) : Registry α :=
  { r with live := r.live.insert id ⟨position, time⟩ }

/-- A position on the way: counted by the pending trip, shown to the viewers.  Gives the number of
viewers that took it. -/
def telemetry (r : Registry α) (time : Timestamp) (m : Telemetry α) : Nat × Registry α :=
  let r := r.see time m.scooter m.position
  let (delivered, hub) := r.hub.publish m
  (delivered,
    { r with trips := r.trips.modify m.scooter fun p => { p with ticks := p.ticks + 1 }, hub })

/-- The pending trip that a report ends: the one of its scooter, if the report names it. -/
def ends? (r : Registry α) (report : TripReport α) : Option PendingTrip :=
  match r.trips.get? report.scooter with
  | some p => if report.trip = some p.trip then some p else none
  | none => none

/-- The end of a movement.  Says whether a trip took the report; any report tells where the scooter
stands. -/
def tripEnded (r : Registry α) (time : Timestamp) (report : TripReport α) : Bool × Registry α :=
  let r := r.see time report.scooter report.position
  match r.ends? report with
  | some p => (true, r.resolve report.scooter p (.ended report))
  | none => (false, r)

/-! ### Trips -/

/-- Claims the one pending trip of a connected scooter, under a name that was never used. -/
def begin (r : Registry α) (id : ScooterId) (trip : TripId) :
    Except RegistryFault (Ticket × Registry α) :=
  if !r.isConnected id then .error (.notRegistered id)
  else if r.hasTrip id then .error (.tripInProgress id)
  else .ok (⟨id, trip⟩, { r with trips := r.trips.insert id ⟨trip, 0⟩ })

/-- Takes a trip out of the table if it is still pending. -/
def abandon (r : Registry α) (t : Ticket) : Registry α :=
  if r.isPending t then { r with trips := r.trips.erase t.scooter } else r

/-- What a waiter says of a trip that it gives up. -/
def lostSignal (r : Registry α) (t : Ticket) : TripSignal α :=
  match r.trips.get? t.scooter with
  | some p =>
    if p.trip = t.trip then .interrupted p.ticks (r.lastPosition t.scooter)
    else .interrupted 0 (r.lastPosition t.scooter)
  | none => .interrupted 0 (r.lastPosition t.scooter)

def giveUp (r : Registry α) (t : Ticket) : TripSignal α × Registry α :=
  (r.lostSignal t, r.abandon t)

end Registry
end ScooterFleet
