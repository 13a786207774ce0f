import ScooterFleet.Decimal.Word
import ScooterFleet.Motion.Settings
import ScooterFleet.Record.Yaml
import ScooterFleet.Text.Blank
import ScooterFleet.Wire.Frame

/-!
# Settings of a device

A device takes its settings from a file and from its environment, which goes first.  Unlike the
kernel, it does not start with settings that are wrong.

* `DeviceSettings.load` — the settings of a file and an environment, or the first fault;
* `DeviceSettings.reconnectPause`, `DeviceSettings.welcomeLimit` — waiting times, of a second at least.
-/

namespace ScooterFleet

open Decoder Record

structure DeviceSettings where
  /-- The address of the kernel. -/
  kernel : String
  /-- The scooter that the device is; without one it takes any free slot. -/
  scooter : Option ScooterId
  reconnectSeconds : Nat
  welcomeSeconds : Nat
  motion : MotionProfile Float

/-- Why a device does not start. -/
inductive SettingsFault where
  | file (name : String)
  /-- What the environment gives for the scooter is no number. -/
  | scooter (given : String)
  | motion
  deriving DecidableEq, Repr

def SettingsFault.message : SettingsFault → String
  | .file name => "invalid device config " ++ name
  | .scooter given => "FLEET_SCOOTER_ID is not a number: " ++ given
  | .motion => "invalid motion settings"

/-- What the environment of a device gives. -/
structure DeviceEnvironment where
  kernel : Option String
  scooter : Option String

namespace DeviceSettings

/-- The settings of a device without a file. -/
def usual : DeviceSettings where
  kernel := "ws://127.0.0.1:8080/devices/ws"
  scooter := none
  reconnectSeconds := 5
  welcomeSeconds := 10
  motion := .usual

def toJson (s : DeviceSettings) : Json :=
  .object [("kernel_url", .text s.kernel), ("scooter_id", .ofOption .ofWord s.scooter),
    ("reconnect_secs", .ofNat s.reconnectSeconds),
    ("handshake_timeout_secs", .ofNat s.welcomeSeconds), ("motion", s.motion.toJson)]

def record {σ : Type} [Format σ] : Record σ DeviceSettings :=
  DeviceSettings.mk
    <$> defaulted "kernel_url" Format.text usual.kernel
    <*> defaulted "scooter_id" (Decoder.optional word) usual.scooter
    <*> defaulted "reconnect_secs" (below (Nat.pow 2 64)) usual.reconnectSeconds
    <*> defaulted "handshake_timeout_secs" (below (Nat.pow 2 64)) usual.welcomeSeconds
    <*> defaulted "motion" MotionProfile.record.decode usual.motion

/-- The settings of a file's text. -/
def ofText (name text : String) : Except SettingsFault DeviceSettings :=
  if isBlankText text then .ok usual
  else
    match Yaml.decodeText? record.decode text with
    | some s => .ok s
    | none => .error (.file name)

/-- What is set to blanks is not set. -/
def given (value : Option String) : Option String := value.filter fun s => !isBlankText s

def withScooter (s : DeviceSettings) (value : Option String) : Except SettingsFault DeviceSettings :=
  match given value with
  | none => .ok s
  | some text =>
    match wordOfChars? (trimmed text.toList) with
    | some id => .ok { s with scooter := some id }
    | none => .error (.scooter text)

/-- The same settings, if scooters can move in this way. -/
def checked (s : DeviceSettings) : Except SettingsFault DeviceSettings :=
  match s.motion.check with
  | .ok () => .ok s
  | .error _ => .error .motion

/-- The settings of a file, which may be missing, and an environment. -/
def load (name : String) (file : Option String) (environment : DeviceEnvironment) :
    Except SettingsFault DeviceSettings := do
  let s ← ofText name (file.getD "")
  let s := { s with kernel := (given environment.kernel).getD s.kernel }
  let s ← s.withScooter environment.scooter
  s.checked

/-- Seconds to wait for, at least one. -/
def patience (seconds : Nat) : Millis := max seconds 1 * 1000

/-- The time between two attempts to reach the kernel. -/
def reconnectPause (s : DeviceSettings) : Millis := patience s.reconnectSeconds

/-- The time in which the kernel has to welcome the device. -/
def welcomeLimit (s : DeviceSettings) : Millis := patience s.welcomeSeconds

end DeviceSettings
end ScooterFleet
