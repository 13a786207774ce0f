/-!
# The numbers that scooters move in

Positions, batteries and steps are values of one type `α` with a few operations.  Running fleets use
doubles; statements about exact motion use rationals.  Everything above this module is written once,
over any `Coordinate α`.

No law is asked of the operations: doubles would break them.
-/

namespace ScooterFleet

/-- What motion needs of its numbers. -/
class Coordinate (α : Type) extends Add α, Sub α, Mul α, Neg α, LT α, LE α where
  ofNat : Nat → α
  /-- The square root, for distances. -/
  root : α → α
  isFinite : α → Bool
  decidableLT : DecidableLT α
  decidableLE : DecidableLE α

namespace Coordinate

variable {α : Type} [Coordinate α]

instance : DecidableLT α := decidableLT
instance : DecidableLE α := decidableLE

def zero : α := ofNat 0

def magnitude (x : α) : α := if x < zero then -x else x

/-- `x` where it is positive, else zero. -/
def floored (x : α) : α := if (zero : α) < x then x else zero

/-- `x` where it lies between the bounds, else the bound that it passes. -/
def clamp (low high x : α) : α :=
  if x < low then low else if high < x then high else x

/-- The sign of a difference. -/
def sign (x : α) : α :=
  if (zero : α) < x then ofNat 1 else if x < zero then -ofNat 1 else zero

end Coordinate

instance : Coordinate Float where
  ofNat n := Float.ofNat n
  root := Float.sqrt
  isFinite := Float.isFinite
  decidableLT := inferInstance
  decidableLE := inferInstance

/-- Exact motion.  Distances need a root, which rationals do not have: any function stands in for it. -/
@[reducible] def Coordinate.exact (root : Rat → Rat) : Coordinate Rat where
  ofNat n := n
  root := root
  isFinite _ := true
  decidableLT := inferInstance
  decidableLE := inferInstance

end ScooterFleet
