import ScooterFleet.Record.Json
import ScooterFleet.Wire.Frame

/-!
# The wire format

Frames are JSON objects with the field `type` in front.  Records that belong together are written and
read side by side: a `toJson` with the fields in their order, and a `record` with the same slots.  A
missing trip is left out, a missing scooter in a hello is `null`.
-/

namespace ScooterFleet

open Json (Fault Reading)
open Decoder Record

variable {σ : Type} [Format σ]

namespace Position

def toJson (p : Position Float) : Json :=
  .object [("latitude", .ofFloat p.latitude), ("longitude", .ofFloat p.longitude)]

def record : Record σ (Position Float) :=
  Position.mk <$> required "latitude" Format.real <*> required "longitude" Format.real

end Position

namespace Outcome

def names : List (String × Outcome) := [("arrived", .arrived), ("discharged", .discharged)]

def name : Outcome → String
  | .arrived => "arrived"
  | .discharged => "discharged"

end Outcome

/-- The field of a trip, left out where there is none. -/
def tripField : Option TripId → List (String × Json)
  | none => []
  | some trip => [("trip_id", .text trip.text)]

def tripSlot : Record σ (Option TripId) :=
  defaulted "trip_id" (Decoder.optional (parsed Uuid.ofText?)) none

namespace Telemetry

def fields (m : Telemetry Float) : List (String × Json) :=
  [("scooter_id", .ofWord m.scooter), ("latitude", .ofFloat m.position.latitude),
    ("longitude", .ofFloat m.position.longitude)]

def toJson (m : Telemetry Float) : Json := .object m.fields

def record : Record σ (Telemetry Float) :=
  (fun scooter latitude longitude => ⟨scooter, ⟨latitude, longitude⟩⟩)
    <$> required "scooter_id" word
    <*> required "latitude" Format.real
    <*> required "longitude" Format.real

end Telemetry

namespace Dispatch

def fields (d : Dispatch Float) : List (String × Json) :=
  [("scooter_id", .ofWord d.scooter), ("destination", d.destination.toJson)] ++ tripField d.trip

def toJson (d : Dispatch Float) : Json := .object d.fields

def record : Record σ (Dispatch Float) :=
  Dispatch.mk
    <$> required "scooter_id" word
    <*> required "destination" Position.record.decode
    <*> tripSlot

end Dispatch

namespace DeviceState

def toJson (s : DeviceState Float) : Json :=
  .object [("position", s.position.toJson), ("battery", .ofFloat s.battery)]

def record : Record σ (DeviceState Float) :=
  DeviceState.mk
    <$> required "position" Position.record.decode
    <*> required "battery" Format.real

end DeviceState

namespace TripReport

def fields (r : TripReport Float) : List (String × Json) :=
  [("scooter_id", .ofWord r.scooter), ("position", r.position.toJson),
    ("battery", .ofFloat r.battery), ("outcome", .text r.outcome.name)] ++ tripField r.trip

def toJson (r : TripReport Float) : Json := .object r.fields

def record : Record σ (TripReport Float) :=
  TripReport.mk
    <$> required "scooter_id" word
    <*> required "position" Position.record.decode
    <*> required "battery" Format.real
    <*> required "outcome" (oneOf Outcome.names)
    <*> tripSlot

end TripReport

/-- An object with its tag in front. -/
def tagged (tag : String) (fields : List (String × Json)) : Json :=
  .object (("type", .text tag) :: fields)

namespace DeviceFrame

def toJson : DeviceFrame Float → Json
  | .hello scooter => tagged "hello" [("scooter_id", .ofOption .ofWord scooter)]
  | .telemetry message => tagged "telemetry" message.fields
  | .tripEnded report => tagged "trip_ended" report.fields

def text (frame : DeviceFrame Float) : String := frame.toJson.toText

def tags : List String := ["hello", "telemetry", "trip_ended"]

/-- The frame of a tag, out of its other fields. -/
def ofTagged (tag : String) : Decoder Json (DeviceFrame Float) := fun v =>
  if tag = "hello" then (Record.optional "scooter_id" word).decode v |>.map .hello
  else if tag = "telemetry" then Telemetry.record.decode v |>.map .telemetry
  else TripReport.record.decode v |>.map .tripEnded

def decode : Decoder Reading (DeviceFrame Float) := fun v => do
  let (tag, rest) ← Json.untag "type" tags v
  ofTagged tag rest

def ofText (s : String) : Except Fault (DeviceFrame Float) := Json.decodeText decode s

end DeviceFrame

namespace ServerFrame

def toJson : ServerFrame Float → Json
  | .welcome scooter state =>
    tagged "welcome" [("scooter_id", .ofWord scooter), ("state", state.toJson)]
  | .dispatch command => tagged "dispatch" command.fields
  | .rejected reason => tagged "rejected" [("reason", .text reason)]

def text (frame : ServerFrame Float) : String := frame.toJson.toText

def tags : List String := ["welcome", "dispatch", "rejected"]

/-- The slots of a welcome. -/
def welcomeRecord : Record σ (ServerFrame Float) :=
  ServerFrame.welcome <$> required "scooter_id" word <*> required "state" DeviceState.record.decode

/-- The frame of a tag, out of its other fields. -/
def ofTagged (tag : String) : Decoder Json (ServerFrame Float) := fun v =>
  if tag = "welcome" then welcomeRecord.decode v
  else if tag = "dispatch" then Dispatch.record.decode v |>.map .dispatch
  else (required "reason" Format.text).decode v |>.map .rejected

def decode : Decoder Reading (ServerFrame Float) := fun v => do
  let (tag, rest) ← Json.untag "type" tags v
  ofTagged tag rest

def ofText (s : String) : Except Fault (ServerFrame Float) := Json.decodeText decode s

end ServerFrame
end ScooterFleet
