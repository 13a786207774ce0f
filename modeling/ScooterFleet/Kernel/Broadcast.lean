import ScooterFleet.Kernel.Bus
import ScooterFleet.Kernel.Rental

/-!
# What the kernel tells on its own

* `Bridge` — hands every position of the live hub to the bus;
* `Reporter` — hands a health report to the bus, in equal periods, the first one at once;
* `Feed` — a stream of events for one viewer over HTTP, with a comment after each silence.

What the bus says to a message changes nothing.
-/

namespace ScooterFleet

/-- A bridge waits for a message, or has one that it hands over next. -/
inductive Bridge (α : Type) where
  | listening
  | publishing (message : Telemetry α)
  | finished
  deriving DecidableEq, Repr

namespace Bridge

variable {α : Type}

/-- One atomic step; none if it is not enabled. -/
def step (viewer : ViewerId) (hub : Hub α) (bus : Bus (Notice α)) :
    Bridge α → Option (Bridge α × Hub α × Bus (Notice α))
  | .listening =>
    match hub.receive viewer with
    | .item m rest => some (.publishing m, hub.leave viewer rest, bus)
    | .ended => some (.finished, hub.drop viewer, bus)
    | .waits => none
  | .publishing m => some (.listening, hub, (bus.publish (.telemetry m)).2)
  | .finished => none

end Bridge

/-! ### Health -/

/-- What is known of the link to the broker. -/
structure Broker where
  status : BrokerStatus
  reconnects : UInt32
  deriving DecidableEq, Repr

namespace Broker

def initial : Broker := ⟨.disabled, 0⟩

def reconnect (b : Broker) : Broker := ⟨.reconnecting, b.reconnects + 1⟩

end Broker

/-- What is measured outside of the kernel. -/
structure Gauges where
  uptimeSeconds : UInt64
  /-- Megabytes in use. -/
  memory : Float32

/-- The health of a kernel.  Scooters that cannot be listed are not counted. -/
def Kernel.health {α : Type} (k : Kernel α) (broker : Broker) (gauges : Gauges) :
    Health × Kernel α :=
  let (listed, k) := k.call Store.listScooters
  let scooters := match listed with
    | .ok scooters => scooters.length
    | .error _ => 0
  ({ uptimeSeconds := gauges.uptimeSeconds
     scooters := scooters.toUInt32
     devices := k.registry.connected.length.toUInt32
     trips := k.registry.tripCount.toUInt32
     viewers := k.registry.hub.viewerCount.toUInt32
     lagged := k.registry.hub.lagged.toUInt64
     memory := gauges.memory
     brokerStatus := broker.status.text
     brokerReconnects := broker.reconnects }, k)

/-- Reports are due at equal distances, even if one of them comes late. -/
structure Reporter where
  period : Millis
  due : Millis
  deriving DecidableEq, Repr

/-- One report, if it is due. -/
def Reporter.step {α : Type} (now : Millis) (k : Kernel α) (broker : Broker) (gauges : Gauges)
    (bus : Bus (Notice α)) (r : Reporter) : Option (Reporter × Kernel α × Bus (Notice α)) :=
  if r.due ≤ now then
    let (health, k) := k.health broker gauges
    some ({ r with due := r.due + r.period }, k, (bus.publish (.health health)).2)
  else none

/-! ### Event streams -/

inductive FeedEvent (α : Type) where
  | telemetry (message : Telemetry α)
  /-- Tells that the stream is alive. -/
  | comment
  deriving DecidableEq, Repr

/-- The text of one event. -/
def FeedEvent.text : FeedEvent Float → String
  | .telemetry m => "event: telemetry\ndata: " ++ m.toJson.toText ++ "\n\n"
  | .comment => ":\n\n"

structure Feed (α : Type) where
  viewer : ViewerId
  /-- The instant of the next comment. -/
  due : Millis
  /-- What was written and not yet taken. -/
  written : List (FeedEvent α)
  deriving DecidableEq, Repr

namespace Feed

variable {α : Type}

/-- The silence that is broken by a comment. -/
def silence : Millis := 15000

def start (now : Millis) (viewer : ViewerId) : Feed α := ⟨viewer, now + silence, []⟩

inductive Choice where
  | message
  | comment
  deriving DecidableEq, Repr

def write (now : Millis) (f : Feed α) (event : FeedEvent α) : Feed α :=
  { f with due := now + silence, written := f.written ++ [event] }

/-- One atomic step; none if it is not enabled. -/
def step (now : Millis) (hub : Hub α) (f : Feed α) : Choice → Option (Feed α × Hub α)
  | .message =>
    match hub.receive f.viewer with
    | .item m rest => some (f.write now (.telemetry m), hub.leave f.viewer rest)
    | _ => none
  | .comment => if f.due ≤ now then some (f.write now .comment, hub) else none

end Feed
end ScooterFleet
