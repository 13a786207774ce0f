import ScooterFleet.Decimal.Layout
import ScooterFleet.Motion.Coordinate

/-!
# Motion profiles

How a scooter moves: the step per axis and tick, the battery that a tick costs, the time between
ticks, and the slack within which a coordinate counts as equal to its target.

`MotionProfile.check` refuses the profiles that cannot move.
-/

namespace ScooterFleet

open Coordinate

/-- Milliseconds. -/
abbrev Millis := Nat

structure MotionProfile (α : Type) where
  /-- Degrees per axis and tick. -/
  step : α
  /-- Battery percent per tick. -/
  discharge : α
  /-- The time between ticks; zero lets a movement run without delay. -/
  interval : Millis
  /-- The part of a step by which a coordinate may miss its target. -/
  slack : α
  deriving DecidableEq, Repr

/-- Why a movement cannot be computed. -/
inductive MotionFault (α : Type) where
  | step (given : α)
  | discharge (given : α)
  | position
  | battery (given : α)
  deriving DecidableEq, Repr

namespace MotionFault

/-- The fault in words, without the heading that all of them share. -/
def detail : MotionFault Float → String
  | .step x => "step must be a positive number, got " ++ Layout.message.text x
  | .discharge x => "discharge per step must be a positive number, got " ++ Layout.message.text x
  | .position => "positions must be finite"
  | .battery x => "battery must be finite, got " ++ Layout.message.text x

def message (fault : MotionFault Float) : String := "invalid parameter: " ++ fault.detail

end MotionFault

namespace MotionProfile

variable {α : Type} [Coordinate α]

/-- A step and a discharge have to be finite and positive; the step is looked at first. -/
def check (p : MotionProfile α) : Except (MotionFault α) Unit :=
  if !Coordinate.isFinite p.step || decide (p.step ≤ zero) then .error (.step p.step)
  else if !Coordinate.isFinite p.discharge || decide (p.discharge ≤ zero) then
    .error (.discharge p.discharge)
  else .ok ()

/-- The slack of running fleets. -/
def usualSlack : Float := 1e-9

/-- The profile of a fleet that sets none. -/
def usual : MotionProfile Float := ⟨0.0001, 0.1, 450, usualSlack⟩

end MotionProfile
end ScooterFleet
