import ScooterFleet.Motion.Profile
import ScooterFleet.Record.Json

/-!
# Motion settings

The profile as files hold it: three fields, each of them usual where it is missing.
-/

namespace ScooterFleet
namespace MotionProfile

open Decoder Record

variable {σ : Type} [Format σ]

def toJson (p : MotionProfile Float) : Json :=
  .object [("step", .ofFloat p.step), ("discharge_per_step", .ofFloat p.discharge),
    ("tick_interval_ms", .ofNat p.interval)]

def record : Record σ (MotionProfile Float) :=
  (fun step discharge interval => ⟨step, discharge, interval, usualSlack⟩)
    <$> defaulted "step" Format.real usual.step
    <*> defaulted "discharge_per_step" Format.real usual.discharge
    <*> defaulted "tick_interval_ms" (below (Nat.pow 2 64)) usual.interval

/-- Silent ticks after which a trip is closed. -/
def idleTicks : Nat := 20

def leastIdleLimit : Millis := 10000

/-- The silence that is tolerated in a trip, where no other is set. -/
def idleLimit {α : Type} (p : MotionProfile α) : Millis := max (p.interval * idleTicks) leastIdleLimit

end MotionProfile
end ScooterFleet
