import ScooterFleet.Kernel.Hub
import ScooterFleet.Motion.Settings
import ScooterFleet.Record.Yaml
import ScooterFleet.Store.Codec
import ScooterFleet.Text.Blank

/-!
# Settings of the kernel

A kernel starts with any settings: what a file leaves out is usual, a file that cannot be read or
decoded counts as none, and a motion that no scooter can follow is replaced by the usual one.

* `KernelSettings.ofFile` — the settings of a file;
* `KernelSettings.apiKey` — the key that requests have to show;
* `KernelSettings.idleLimit` — the silence that is tolerated in a trip.
-/

namespace ScooterFleet

open Decoder Record

/-- A message broker to which health is reported. -/
structure BrokerAddress where
  host : String
  /-- The number of the service at the host. -/
  service : UInt16
  deriving DecidableEq, Repr

structure KernelSettings where
  /-- The address at which requests are taken. -/
  listen : String
  /-- The key of the file; without one, requests show none. -/
  key : Option String
  /-- The directory of stored orders; without one, nothing outlives the kernel. -/
  directory : Option String
  /-- The number of simulated devices inside the kernel. -/
  devices : Nat
  idleSeconds : Option Nat
  /-- The number of positions that a viewer may be late. -/
  viewerBuffer : Nat
  motion : MotionProfile Float
  broker : Option BrokerAddress
  scooters : List (Scooter Float)
  stations : List (Station Float)

namespace BrokerAddress

def toJson (a : BrokerAddress) : Json :=
  .object [("host", .text a.host), ("port", .ofNat a.service.toNat)]

variable {σ : Type} [Format σ]

def record : Record σ BrokerAddress :=
  (fun host service => ⟨host, service.toUInt16⟩)
    <$> required "host" Format.text
    <*> required "port" (below (Nat.pow 2 16))

end BrokerAddress

namespace KernelSettings

/-- The settings of a kernel without a file. -/
def usual : KernelSettings where
  listen := "0.0.0.0:8080"
  key := none
  directory := some "./data"
  devices := 0
  idleSeconds := none
  viewerBuffer := Hub.usualCapacity
  motion := .usual
  broker := none
  scooters := []
  stations := []

def toJson (s : KernelSettings) : Json :=
  .object [("listen", .text s.listen), ("api_key", .ofOption .text s.key),
    ("data_dir", .ofOption .text s.directory), ("embedded_devices", .ofNat s.devices),
    ("trip_idle_timeout_secs", .ofOption .ofNat s.idleSeconds),
    ("viewer_buffer", .ofNat s.viewerBuffer), ("motion", s.motion.toJson),
    ("mqtt", .ofOption BrokerAddress.toJson s.broker),
    ("scooters", .list (s.scooters.map Scooter.toJson)),
    ("stations", .list (s.stations.map Station.toJson))]

def record {σ : Type} [Format σ] : Record σ KernelSettings :=
  KernelSettings.mk
    <$> defaulted "listen" Format.text usual.listen
    <*> defaulted "api_key" (Decoder.optional Format.text) usual.key
    <*> defaulted "data_dir" (Decoder.optional Format.text) usual.directory
    <*> defaulted "embedded_devices" (below (Nat.pow 2 64)) usual.devices
    <*> defaulted "trip_idle_timeout_secs" (Decoder.optional (below (Nat.pow 2 64))) usual.idleSeconds
    <*> defaulted "viewer_buffer" (below (Nat.pow 2 64)) usual.viewerBuffer
    <*> defaulted "motion" MotionProfile.record.decode usual.motion
    <*> defaulted "mqtt" (Decoder.optional BrokerAddress.record.decode) usual.broker
    <*> defaulted "scooters" (list Scooter.record.decode) usual.scooters
    <*> defaulted "stations" (list Station.record.decode) usual.stations

/-- The settings of a file's text. -/
def ofText (text : String) : KernelSettings :=
  if isBlankText text then usual else (Yaml.decodeText? record.decode text).getD usual

/-- The same settings, with a motion that scooters can follow. -/
def movable (s : KernelSettings) : KernelSettings :=
  match s.motion.check with
  | .ok () => s
  | .error _ => { s with motion := .usual }

/-- The settings of a file, which may be missing. -/
def ofFile (file : Option String) : KernelSettings := (ofText (file.getD "")).movable

def idleLimit (s : KernelSettings) : Millis :=
  match s.idleSeconds with
  | some n => n * 1000
  | none => s.motion.idleLimit

/-- A key of the environment takes the place of the file's key, and a blank key is none. -/
def apiKey (s : KernelSettings) (environment : Option String) : Option String :=
  (environment.or s.key).filter fun key => !isBlankText key

end KernelSettings
end ScooterFleet
