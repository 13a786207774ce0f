import ScooterFleet.Device.Session
import ScooterFleet.Link.Pair

/-!
# A device on its link

A device says hello, waits for its welcome, and then serves dispatches until the link closes or
breaks or its battery is empty.  `Device.step` is one atomic step of it; which of the enabled steps
comes next is left open, so statements can range over all schedules.

Ticks come at a deadline that moves on by one interval per tick and starts anew with each accepted
dispatch.  Frames that cannot be decoded, frames for others and frames out of place are passed over.
-/

namespace ScooterFleet

/-- How a session without a failure ended. -/
inductive SessionEnd where
  | closed
  /-- The battery is empty. -/
  | discharged
  deriving DecidableEq, Repr

inductive SessionFault (α : Type) where
  | broken (scooter : ScooterId) (fault : LinkFault)
  | rejected (reason : String)
  /-- The link failed, or closed, before the welcome. -/
  | handshake (fault : Option LinkFault)
  | motion (fault : MotionFault α)
  deriving DecidableEq, Repr

def SessionFault.message : SessionFault Float → String
  | .broken scooter fault =>
    "stream broken for scooter " ++ toString scooter.toNat ++ ": " ++ fault.message
  | .rejected reason => "kernel rejected the device: " ++ reason
  | .handshake none => "handshake failed: link closed before welcome"
  | .handshake (some fault) => "handshake failed: " ++ fault.message
  | .motion fault => fault.message

/-- The states of a device. -/
inductive Device (α : Type) where
  /-- Says hello next, and asks for a scooter if it wants a certain one. -/
  | offering (requested : Option ScooterId) (profile : MotionProfile α)
  | awaiting (profile : MotionProfile α)
  | running (session : Session α) (due : Millis)
  /-- Sends what a tick gave. -/
  | sending (session : Session α) (frame : DeviceFrame α) (more : List (DeviceFrame α))
      (due : Millis) (outcome : Option Outcome)
  | finished (result : Except (SessionFault α) SessionEnd)

namespace Device

variable {α : Type}

/-- The ways in which a device goes on. -/
inductive Choice where
  | send
  | receive
  | tick
  deriving DecidableEq, Repr

/-- A device that is attached already. -/
def attached (session : Session α) (now : Millis) : Device α :=
  .running session (now + session.profile.interval)

def session? : Device α → Option (Session α)
  | .running s _ => some s
  | .sending s _ _ _ _ => some s
  | _ => none

def result? : Device α → Option (Except (SessionFault α) SessionEnd)
  | .finished r => some r
  | _ => none

/-- The instant of the next tick, while there is a movement. -/
def alarm? : Device α → Option Millis
  | .running s due => if s.isMoving then some due else none
  | _ => none

/-- The device goes, and its end of the link with it. -/
def finish (link : Link α) (result : Except (SessionFault α) SessionEnd) : Device α × Link α :=
  (.finished result, link.leaveBelow)

/-- What follows when all frames of a tick are sent. -/
def settle (link : Link α) (session : Session α) (due : Millis) : Option Outcome → Device α × Link α
  | some .discharged => finish link (.ok .discharged)
  | _ => (.running session due, link)

variable [Coordinate α]

def welcome (now : Millis) (link : Link α) (profile : MotionProfile α) :
    Except LinkFault (ServerFrame α) → Device α × Link α
  | .error fault => finish link (.error (.handshake (some fault)))
  | .ok (.welcome scooter state) => (attached (.attach scooter state profile) now, link)
  | .ok (.rejected reason) => finish link (.error (.rejected reason))
  | .ok (.dispatch _) => (.awaiting profile, link)

def hear (now : Millis) (link : Link α) (session : Session α) (due : Millis) :
    Except LinkFault (ServerFrame α) → Device α × Link α
  | .error (.encoding _) => (.running session due, link)
  | .error fault => finish link (.error (.broken session.scooter fault))
  | .ok (.dispatch command) =>
    if command.scooter = session.scooter then
      match session.dispatch command.destination command.trip with
      | .ok session => (attached session now, link)
      | .error fault => finish link (.error (.motion fault))
    else (.running session due, link)
  | .ok _ => (.running session due, link)

/-- One tick at its deadline. -/
def move (link : Link α) (session : Session α) (due : Millis) : Device α × Link α :=
  let due := due + session.profile.interval
  let t := session.tick
  match t.frames with
  | frame :: more => (.sending t.session frame more due t.outcome, link)
  | [] => settle link t.session due t.outcome

/-- One atomic step; none if it is not enabled. -/
def step (now : Millis) (link : Link α) : Device α → Choice → Option (Device α × Link α)
  | .offering requested profile, .send =>
    match link.up.send (.ok (.hello requested)) with
    | .sent up => some (.awaiting profile, { link with up })
    | .failed fault => some (finish link (.error (.handshake (some fault))))
    | .waits => none
  | .awaiting profile, .receive =>
    match link.down.receive with
    | .item m down => some (welcome now { link with down } profile m)
    | .ended => some (finish link (.error (.handshake none)))
    | .waits => none
  | .running session due, .receive =>
    match link.down.receive with
    | .item m down => some (hear now { link with down } session due m)
    | .ended => some (finish link (.ok .closed))
    | .waits => none
  | .running session due, .tick =>
    if session.isMoving && decide (due ≤ now) then some (move link session due) else none
  | .sending session frame more due outcome, .send =>
    match link.up.send (.ok frame) with
    | .sent up =>
      match more with
      | frame :: more => some (.sending session frame more due outcome, { link with up })
      | [] => some (settle { link with up } session due outcome)
    | .failed fault => some (finish link (.error (.broken session.scooter fault)))
    | .waits => none
  | _, _ => none

end Device
end ScooterFleet
