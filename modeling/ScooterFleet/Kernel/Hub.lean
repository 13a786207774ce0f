import ScooterFleet.Link.Channel
import ScooterFleet.Table
import ScooterFleet.Wire.Frame

/-!
# The live hub

Every position that is reported goes to all viewers.  Each viewer has a bounded channel of its own, so
publishing never waits: a viewer whose channel is full misses the message, and a viewer that has gone
or takes nothing new is unsubscribed.
-/

namespace ScooterFleet

/-- Names one viewer; numbers are not used twice. -/
abbrev ViewerId := Nat

/-- A viewer is subscribed as long as its channel has not ended. -/
structure Hub (α : Type) where
  capacity : Nat
  viewers : Table ViewerId (Channel (Telemetry α))
  /-- Messages that viewers missed.  A running hub counts them in a word of 64 bits: it is assumed that they
  are fewer than 2^64. -/
  lagged : Nat
  /-- The name of the next viewer. -/
  fresh : ViewerId

namespace Hub

variable {α : Type}

/-- The messages that a viewer's channel holds where no other number is set. -/
def usualCapacity : Nat := 64

def create (capacity : Nat) : Hub α := ⟨max capacity 1, ∅, 0, 0⟩

def subscribe (h : Hub α) : ViewerId × Hub α :=
  (h.fresh, { h with viewers := h.viewers.insert h.fresh (.bounded h.capacity), fresh := h.fresh + 1 })

/-- A viewer that is unsubscribed still receives what its channel holds. -/
def unsubscribe (h : Hub α) (id : ViewerId) : Hub α :=
  { h with viewers := h.viewers.modify id Channel.finish }

/-- The viewer takes nothing new; it stays subscribed until something is published. -/
def close (h : Hub α) (id : ViewerId) : Hub α :=
  { h with viewers := h.viewers.modify id Channel.close }

/-- The viewer goes. -/
def drop (h : Hub α) (id : ViewerId) : Hub α := { h with viewers := h.viewers.erase id }

/-- What a message does to one viewer. -/
inductive Delivery where
  | taken
  | missed
  | unsubscribed
  /-- The viewer was not subscribed. -/
  | none
  deriving DecidableEq, Repr

def deliver (message : Telemetry α) (c : Channel (Telemetry α)) :
    Delivery × Channel (Telemetry α) :=
  if c.ended then (.none, c)
  else match c.send message with
    | .sent c => (.taken, c)
    | .waits => (.missed, c)
    | .failed _ => (.unsubscribed, c.finish)

/-- What a message does to each viewer. -/
def deliveries (h : Hub α) (message : Telemetry α) : List Delivery :=
  h.viewers.values.map fun c => (deliver message c).1

/-- Offers a message to every viewer, and counts those that took it. -/
def publish (h : Hub α) (message : Telemetry α) : Nat × Hub α :=
  let ds := h.deliveries message
  (ds.count .taken,
    { h with
      viewers := h.viewers.mapValues fun c => (deliver message c).2
      lagged := h.lagged + ds.count .missed })

/-- What a viewer finds; nothing comes to a viewer that is not there. -/
def receive (h : Hub α) (id : ViewerId) : Channel.Receipt (Telemetry α) :=
  match h.viewers.get? id with
  | some c => c.receive
  | none => .ended

/-- The viewer has received a message and left `rest`. -/
def leave (h : Hub α) (id : ViewerId) (rest : Channel (Telemetry α)) : Hub α :=
  { h with viewers := h.viewers.insert id rest }

/-- A message, if one is there. -/
def take? (h : Hub α) (id : ViewerId) : Option (Telemetry α) × Hub α :=
  match h.receive id with
  | .item m rest => (some m, h.leave id rest)
  | _ => (none, h)

def viewerCount (h : Hub α) : Nat := h.viewers.values.countP fun c => !c.ended

end Hub
end ScooterFleet
