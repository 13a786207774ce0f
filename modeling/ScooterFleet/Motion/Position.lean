import ScooterFleet.Motion.Coordinate

/-!
# Positions

A position is a pair of degrees.  Distance is Euclidean in degrees, the measure by which customers
rank stations.
-/

namespace ScooterFleet

open Coordinate

/-- A place, in degrees. -/
structure Position (α : Type) where
  latitude : α
  longitude : α
  deriving BEq, DecidableEq, Repr

namespace Position

variable {α : Type} [Coordinate α]

def distance (a b : Position α) : α :=
  let north := a.latitude - b.latitude
  let east := a.longitude - b.longitude
  root (north * north + east * east)

def isFinite (p : Position α) : Bool :=
  Coordinate.isFinite p.latitude && Coordinate.isFinite p.longitude

end Position
end ScooterFleet
