import ScooterFleet.Motion.Position
import ScooterFleet.Text.Timestamp
import ScooterFleet.Wire.Frame

/-!
# What the store holds

Scooters and stations with their last known state, and the ledger's two kinds of entries: snapshots of
a scooter's status and orders between two of them.
-/

namespace ScooterFleet

structure Scooter (α : Type) where
  id : ScooterId
  model : String
  position : Position α
  /-- Percent. -/
  battery : α
  station : Option StationId
  deriving DecidableEq, Repr

structure Station (α : Type) where
  id : StationId
  name : String
  active : Bool
  position : Position α
  deriving DecidableEq, Repr

abbrev SnapshotId := UInt64
abbrev OrderId := UInt64

/-- A scooter's status at an instant. -/
structure Snapshot (α : Type) where
  id : SnapshotId
  scooter : ScooterId
  position : Position α
  battery : α
  time : Timestamp
  deriving DecidableEq, Repr

/-- What a new order says. -/
structure OrderRequest (α : Type) where
  user : UserId
  scooter : ScooterId
  start : SnapshotId
  finish : SnapshotId
  distance : α
  deriving DecidableEq, Repr

structure Order (α : Type) extends OrderRequest α where
  id : OrderId
  time : Timestamp
  deriving DecidableEq, Repr

/-- A scooter's status after a trip. -/
structure StatusUpdate (α : Type) where
  position : Position α
  battery : α
  /-- The station where it was docked, none where it stopped elsewhere. -/
  station : Option StationId
  deriving DecidableEq, Repr

inductive TripOutcome where
  | arrived
  /-- The battery ran out on the way; the trip is complete. -/
  | batteryDepleted
  /-- The device vanished or stayed silent. -/
  | interrupted
  deriving DecidableEq, Repr

def TripOutcome.ofOutcome : Outcome → TripOutcome
  | .arrived => .arrived
  | .discharged => .batteryDepleted

/-- A completed rental. -/
structure Trip (α : Type) where
  order : OrderId
  scooter : ScooterId
  user : UserId
  start : SnapshotId
  finish : SnapshotId
  distance : α
  outcome : TripOutcome
  /-- Percent at the end. -/
  battery : α
  deriving DecidableEq, Repr

namespace Scooter

variable {α : Type} [Coordinate α]

/-- Scooters are rented out strictly above this charge. -/
def rentableAbove : Nat := 10

def isRentable (s : Scooter α) : Bool := decide (Coordinate.ofNat rentableAbove < s.battery)

/-- The status after a trip; the battery is kept between 0 and 100. -/
def update (s : Scooter α) (u : StatusUpdate α) : Scooter α :=
  { s with
    position := u.position
    battery := Coordinate.clamp Coordinate.zero (Coordinate.ofNat 100) u.battery
    station := u.station }

end Scooter
end ScooterFleet
