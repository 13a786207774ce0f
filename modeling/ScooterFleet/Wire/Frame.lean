import ScooterFleet.Motion.Simulation
import ScooterFleet.Text.Uuid

/-!
# Frames

What a device and the kernel say to each other.  A device announces itself, reports positions while it
moves, and reports the end of each movement; the kernel welcomes or rejects it and dispatches it to
destinations.  A dispatch that a trip waits for carries the trip's identifier, and the report that
ends the movement carries it back.
-/

namespace ScooterFleet

abbrev ScooterId := UInt64
abbrev StationId := UInt64
abbrev UserId := UInt64

/-- Names one dispatched trip. -/
abbrev TripId := Uuid

/-- A position on the way. -/
structure Telemetry (α : Type) where
  scooter : ScooterId
  position : Position α
  deriving BEq, DecidableEq, Repr

/-- An order to move.  Without a trip, nobody waits for its end. -/
structure Dispatch (α : Type) where
  scooter : ScooterId
  destination : Position α
  trip : Option TripId
  deriving DecidableEq, Repr

/-- Where a device stands when it is attached. -/
structure DeviceState (α : Type) where
  position : Position α
  battery : α
  deriving DecidableEq, Repr

/-- The end of a movement, as the device sees it. -/
structure TripReport (α : Type) where
  scooter : ScooterId
  position : Position α
  battery : α
  outcome : Outcome
  /-- The trip of the dispatch that started the movement. -/
  trip : Option TripId
  deriving DecidableEq, Repr

/-- From a device to the kernel. -/
inductive DeviceFrame (α : Type) where
  /-- The first frame; without a scooter the device takes any free slot. -/
  | hello (scooter : Option ScooterId)
  | telemetry (message : Telemetry α)
  | tripEnded (report : TripReport α)
  deriving DecidableEq, Repr

/-- From the kernel to a device. -/
inductive ServerFrame (α : Type) where
  | welcome (scooter : ScooterId) (state : DeviceState α)
  | dispatch (command : Dispatch α)
  | rejected (reason : String)
  deriving DecidableEq, Repr

end ScooterFleet
