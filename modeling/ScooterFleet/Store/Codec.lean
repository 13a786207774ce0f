import ScooterFleet.Store.Model
import ScooterFleet.Wire.Codec

/-!
# Stored values in JSON

The objects that files and answers show, each beside the record that reads it.
-/

namespace ScooterFleet

open Decoder Record

variable {σ : Type} [Format σ]

namespace Scooter

def fields (s : Scooter Float) : List (String × Json) :=
  [("id", .ofWord s.id), ("model", .text s.model), ("position", s.position.toJson),
    ("battery_percent", .ofFloat s.battery), ("station_id", .ofOption .ofWord s.station)]

def toJson (s : Scooter Float) : Json := .object s.fields

def record : Record σ (Scooter Float) :=
  Scooter.mk
    <$> required "id" word
    <*> defaulted "model" Format.text ""
    <*> required "position" Position.record.decode
    <*> required "battery_percent" Format.real
    <*> defaulted "station_id" (Decoder.optional word) none

end Scooter

namespace Station

def toJson (s : Station Float) : Json :=
  .object [("id", .ofWord s.id), ("name", .text s.name), ("is_active", .bool s.active),
    ("position", s.position.toJson)]

def record : Record σ (Station Float) :=
  Station.mk
    <$> required "id" word
    <*> required "name" Format.text
    <*> defaulted "is_active" Format.flag true
    <*> required "position" Position.record.decode

end Station

def timestamp : Decoder σ Timestamp := parsed Timestamp.ofText?

namespace Snapshot

def toJson (s : Snapshot Float) : Json :=
  .object [("id", .ofWord s.id), ("scooter_id", .ofWord s.scooter),
    ("position", s.position.toJson), ("battery", .ofFloat s.battery),
    ("timestamp", .text s.time.text)]

def record : Record σ (Snapshot Float) :=
  Snapshot.mk
    <$> required "id" word
    <*> required "scooter_id" word
    <*> required "position" Position.record.decode
    <*> required "battery" Format.real
    <*> required "timestamp" timestamp

end Snapshot

namespace Order

def toJson (o : Order Float) : Json :=
  .object [("id", .ofWord o.id), ("user_id", .ofWord o.user), ("scooter_id", .ofWord o.scooter),
    ("status_start_id", .ofWord o.start), ("status_end_id", .ofWord o.finish),
    ("distance", .ofFloat o.distance), ("created_at", .text o.time.text)]

def record : Record σ (Order Float) :=
  (fun id user scooter start finish distance time =>
      ⟨⟨user, scooter, start, finish, distance⟩, id, time⟩)
    <$> required "id" word
    <*> required "user_id" word
    <*> required "scooter_id" word
    <*> required "status_start_id" word
    <*> required "status_end_id" word
    <*> required "distance" Format.real
    <*> required "created_at" timestamp

end Order

namespace TripOutcome

def name : TripOutcome → String
  | .arrived => "arrived"
  | .batteryDepleted => "battery_depleted"
  | .interrupted => "interrupted"

def names : List (String × TripOutcome) :=
  [("arrived", .arrived), ("battery_depleted", .batteryDepleted), ("interrupted", .interrupted)]

end TripOutcome

namespace Trip

def toJson (t : Trip Float) : Json :=
  .object [("order_id", .ofWord t.order), ("scooter_id", .ofWord t.scooter),
    ("user_id", .ofWord t.user), ("start_snapshot_id", .ofWord t.start),
    ("end_snapshot_id", .ofWord t.finish), ("distance", .ofFloat t.distance),
    ("outcome", .text t.outcome.name), ("battery", .ofFloat t.battery)]

def record : Record σ (Trip Float) :=
  Trip.mk
    <$> required "order_id" word
    <*> required "scooter_id" word
    <*> required "user_id" word
    <*> required "start_snapshot_id" word
    <*> required "end_snapshot_id" word
    <*> required "distance" Format.real
    <*> required "outcome" (oneOf TripOutcome.names)
    <*> required "battery" Format.real

end Trip
end ScooterFleet
