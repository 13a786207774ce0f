import ScooterFleet.Wire.Frame

/-!
# Device sessions

What a device knows while it is attached: its scooter, where it stands, its battery and the movement
that is under way.

* `Session.dispatch` — starts a movement, in place of the one under way;
* `Session.tick` — one tick of the movement, and the frames that tell of it.

The report that ends a movement carries the trip of the dispatch that started it.
-/

namespace ScooterFleet

structure Session (α : Type) where
  scooter : ScooterId
  position : Position α
  battery : α
  profile : MotionProfile α
  movement : Option (Simulation α)
  /-- The trip of the movement's dispatch. -/
  trip : Option TripId
  deriving DecidableEq, Repr

namespace Session

variable {α : Type}

/-- A session at rest. -/
def attach (scooter : ScooterId) (state : DeviceState α) (profile : MotionProfile α) : Session α :=
  ⟨scooter, state.position, state.battery, profile, none, none⟩

def isMoving (s : Session α) : Bool := s.movement.isSome

def telemetry (s : Session α) : DeviceFrame α := .telemetry ⟨s.scooter, s.position⟩

def report (s : Session α) (outcome : Outcome) : DeviceFrame α :=
  .tripEnded ⟨s.scooter, s.position, s.battery, outcome, s.trip⟩

/-- The session stands where its movement stands. -/
def take (s : Session α) (sample : Sample α) : Session α :=
  { s with position := sample.position, battery := sample.battery }

def rest (s : Session α) : Session α := { s with movement := none, trip := none }

variable [Coordinate α]

/-- A movement from here, which replaces any other. -/
def dispatch (s : Session α) (destination : Position α) (trip : Option TripId) :
    Except (MotionFault α) (Session α) := do
  let movement ← Simulation.start? s.position destination s.battery s.profile
  return { s with movement := some movement, trip }

/-- What one tick leaves. -/
structure Tick (α : Type) where
  session : Session α
  /-- What is to be sent, in this order. -/
  frames : List (DeviceFrame α)
  /-- How the movement ended, if it did. -/
  outcome : Option Outcome
  deriving DecidableEq, Repr

/-- One tick of a movement.  A movement that had ended when it started is reported without a sample. -/
def tickOf (s : Session α) (movement : Simulation α) : Tick α :=
  let (sample, movement) := movement.next
  let s := { s with movement := some movement }
  let (s, passed) := match sample with
    | some sample => let s := s.take sample; (s, [s.telemetry])
    | none => (s, [])
  match movement.outcome with
  | none => ⟨s, passed, none⟩
  | some outcome => ⟨s.rest, passed ++ [s.report outcome], some outcome⟩

def tick (s : Session α) : Tick α :=
  match s.movement with
  | none => ⟨s, [], none⟩
  | some movement => s.tickOf movement

end Session
end ScooterFleet
