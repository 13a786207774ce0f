import ScooterFleet.Motion.Position
import ScooterFleet.Motion.Profile

/-!
# One movement

A simulation takes a scooter from its position toward a destination, one step per tick.  It moves in
three phases: both axes together, then latitude alone, then longitude alone; the signs of the steps
are fixed when a phase is entered.  An axis within one step of its target snaps onto it.

* `Simulation.start?` — refuses profiles, positions and batteries that are no numbers;
* `Simulation.next` — the next sample, none once there is an outcome;
* `Simulation.trace` — the samples of a bounded number of ticks.

The battery is computed from its value at the start, so repeated subtraction does not drift.
Arrival wins over an empty battery where both come with one tick.
-/

namespace ScooterFleet

open Coordinate

/-- Why a movement ended. -/
inductive Outcome where
  | arrived
  | discharged
  deriving DecidableEq, Repr

inductive Phase where
  | diagonal
  | latitude
  | longitude
  deriving DecidableEq, Repr

/-- One tick of movement; ticks count from one. -/
structure Sample (α : Type) where
  tick : Nat
  position : Position α
  battery : α
  deriving DecidableEq, Repr

structure Simulation (α : Type) where
  position : Position α
  destination : Position α
  /-- The battery at the start, as given. -/
  charge : α
  battery : α
  profile : MotionProfile α
  phase : Phase
  /-- The signs of the steps on the two axes. -/
  heading : Position α
  tick : Nat
  outcome : Option Outcome
  deriving DecidableEq, Repr

namespace Simulation

variable {α : Type} [Coordinate α]

/-- Ticks are counted in a word and stay at its greatest value. -/
def lastTick : Nat := Nat.pow 2 64 - 1

def latitudeReached (s : Simulation α) : Bool :=
  decide (magnitude (s.destination.latitude - s.position.latitude) ≤ s.profile.step * s.profile.slack)

def longitudeReached (s : Simulation α) : Bool :=
  decide (magnitude (s.destination.longitude - s.position.longitude) ≤ s.profile.step * s.profile.slack)

/-- The signs of the differences that are left. -/
def headings (s : Simulation α) : Position α where
  latitude := sign (s.destination.latitude - s.position.latitude)
  longitude := sign (s.destination.longitude - s.position.longitude)

def enter (s : Simulation α) (phase : Phase) : Simulation α :=
  { s with phase, heading := s.headings }

/-- Records the outcome once there is one. -/
def settle (s : Simulation α) : Simulation α :=
  if s.latitudeReached && s.longitudeReached then { s with outcome := some .arrived }
  else if s.battery ≤ zero then { s with outcome := some .discharged }
  else s

/-- One step on one axis. -/
def advance (profile : MotionProfile α) (current target heading : α) : α :=
  if magnitude (target - current) ≤ profile.step * (ofNat 1 + profile.slack) then target
  else current + heading * profile.step

def moveLatitude (s : Simulation α) : Simulation α :=
  { s with
    position.latitude :=
      advance s.profile s.position.latitude s.destination.latitude s.heading.latitude }

def moveLongitude (s : Simulation α) : Simulation α :=
  { s with
    position.longitude :=
      advance s.profile s.position.longitude s.destination.longitude s.heading.longitude }

/-- The phase in which the next step is made: a phase is left once its axis is reached, the diagonal
one once either is. -/
def turn (s : Simulation α) : Simulation α :=
  let s := if s.phase = .diagonal ∧ (s.latitudeReached || s.longitudeReached) then
      s.enter .latitude else s
  if s.phase = .latitude ∧ s.latitudeReached then s.enter .longitude else s

/-- One step in the phase that is due. -/
def move (s : Simulation α) : Simulation α :=
  let s := s.turn
  match s.phase with
  | .diagonal => s.moveLatitude.moveLongitude
  | .latitude => s.moveLatitude
  | .longitude => s.moveLongitude

/-- What one tick costs the battery, counted from the start. -/
def drain (s : Simulation α) : Simulation α :=
  let tick := min (s.tick + 1) lastTick
  { s with tick, battery := floored (s.charge - s.profile.discharge * ofNat tick) }

def sample (s : Simulation α) : Sample α := ⟨s.tick, s.position, s.battery⟩

/-- The state after the next tick; none once there is an outcome. -/
def step? (s : Simulation α) : Option (Simulation α) :=
  match s.outcome with
  | some _ => none
  | none => some s.move.drain.settle

/-- The next sample and the state that it leaves. -/
def next (s : Simulation α) : Option (Sample α) × Simulation α :=
  match s.step? with
  | none => (none, s)
  | some s => (some s.sample, s)

/-- A movement before its first tick.  It may have ended already. -/
def start (position destination : Position α) (battery : α) (profile : MotionProfile α) :
    Simulation α :=
  let s : Simulation α :=
    { position, destination, charge := battery, battery := floored battery, profile,
      phase := .diagonal, heading := ⟨zero, zero⟩, tick := 0, outcome := none }
  (s.enter .diagonal).settle

/-- A movement, if its profile, its positions and its battery are sound, in this order. -/
def start? (position destination : Position α) (battery : α) (profile : MotionProfile α) :
    Except (MotionFault α) (Simulation α) := do
  profile.check
  if !position.isFinite || !destination.isFinite then throw .position
  if !Coordinate.isFinite battery then throw (.battery battery)
  return start position destination battery profile

/-- The samples of at most `limit` ticks, and the state after them. -/
def trace (s : Simulation α) : Nat → List (Sample α) × Simulation α
  | 0 => ([], s)
  | limit + 1 =>
    match s.step? with
    | none => ([], s)
    | some s' =>
      let (samples, last) := s'.trace limit
      (s'.sample :: samples, last)

end Simulation
end ScooterFleet
