import ScooterFleet.Record.Json

/-!
# Health

What the kernel says about itself.
-/

namespace ScooterFleet

/-- How the link to the message broker stands. -/
inductive BrokerStatus where
  | disabled
  | connecting
  | connected
  | reconnecting
  deriving DecidableEq, Repr

def BrokerStatus.text : BrokerStatus → String
  | .disabled => "disabled"
  | .connecting => "connecting"
  | .connected => "connected"
  | .reconnecting => "reconnecting"

/-- One report.  The status is a text, since a report that is read may say anything. -/
structure Health where
  uptimeSeconds : UInt64
  scooters : UInt32
  devices : UInt32
  trips : UInt32
  viewers : UInt32
  lagged : UInt64
  memory : Float32
  brokerStatus : String
  brokerReconnects : UInt32
  deriving Repr

namespace Health

open Decoder Record

def toJson (h : Health) : Json :=
  .object [("uptime_seconds", .ofWord h.uptimeSeconds),
    ("scooters_tracked", .ofNat h.scooters.toNat),
    ("devices_connected", .ofNat h.devices.toNat),
    ("active_trips", .ofNat h.trips.toNat),
    ("live_viewers", .ofNat h.viewers.toNat),
    ("telemetry_lagged", .ofWord h.lagged),
    ("memory_usage_mb", .ofFloat32 h.memory),
    ("mqtt_status", .text h.brokerStatus),
    ("mqtt_reconnects", .ofNat h.brokerReconnects.toNat)]

def record {σ : Type} [Format σ] : Record σ Health :=
  Health.mk
    <$> required "uptime_seconds" word
    <*> required "scooters_tracked" halfWord
    <*> required "devices_connected" halfWord
    <*> required "active_trips" halfWord
    <*> required "live_viewers" halfWord
    <*> required "telemetry_lagged" word
    <*> required "memory_usage_mb" Format.real32
    <*> required "mqtt_status" Format.text
    <*> required "mqtt_reconnects" halfWord

end Health
end ScooterFleet
