import ScooterFleet.Http.Request
import ScooterFleet.Kernel.Broadcast

/-!
# The kernel over HTTP

What each request does and what it is answered.  The key is looked at first, then path and method, then
the number in the path, the media type and the body.

A request for a rental is answered when the rental is over; a request for live positions opens a
stream.  All others are answered at once.
-/

namespace ScooterFleet
namespace Http

open Decoder Record
open Json (Fault)

/-- What a request leads to. -/
inductive Outcome where
  | reply (response : Response)
  | rental (request : RentalRequest)
  | stream
  deriving DecidableEq, Repr

def RentalRequest.record {σ : Type} [Format σ] : Record σ RentalRequest :=
  RentalRequest.mk
    <$> required "scooter_id" word
    <*> required "station_id" word
    <*> required "user_id" word

/-- A scooter as requests see it: stored and live. -/
def view (r : Registry Float) (s : Scooter Float) : Json :=
  let live := r.lastKnown s.id
  .object (s.fields ++
    [("rentable", .bool s.isRentable),
     ("connected", .bool (r.isConnected s.id)),
     ("in_trip", .bool (r.hasTrip s.id)),
     ("live_position", .ofOption (fun l => l.position.toJson) live),
     ("last_seen", .ofOption (fun l => .text l.time.text) live),
     ("connected_since", .ofOption (fun t => .text t.text) (r.connectedSince s.id))])

def answer (status : Nat) (body : Json) : Response := ⟨status, some body.toText⟩

/-- A fault of a rental, told to the client. -/
def failure (fault : RentalFault Float) : Response :=
  answer fault.status (.object [("error", .text fault.message)])

/-- The answer to a rental that is over. -/
def ofRental : Except (RentalFault Float) (Trip Float) → Response
  | .ok trip => answer 201 trip.toJson
  | .error fault => failure fault

def ofStore {β : Type} (toJson : β → Json) : Except StoreFault β → Response
  | .ok b => answer 200 (toJson b)
  | .error fault => failure (.store fault)

/-- A body of another type is not the same fault as a body that is no JSON. -/
def bodyStatus : Fault → Nat
  | .mistyped => 422
  | _ => 400

/-- The body of a request, decoded, or the status of the refusal. -/
def decodeBody {β : Type} (d : Decoder Json.Reading β) (r : Request) : Except Nat β :=
  if r.hasJson then
    match Json.decodeText d r.body with
    | .ok b => .ok b
    | .error f => .error (bodyStatus f)
  else .error 415

/-- What requests depend on beside the kernel. -/
structure Setting where
  key : Option String
  broker : Broker
  gauges : Gauges

/-- Sends a scooter somewhere outside of any trip. -/
def redirect (id : ScooterId) (destination : Position Float) (k : Kernel Float) :
    Response × Kernel Float :=
  if !destination.isFinite then
    (answer 400 (.object [("error", .text "destination must be finite")]), k)
  else
    match k.call (Store.getScooter id) with
    | (.error fault, k) => (failure (.store fault), k)
    | (.ok _, k) =>
      match Redirect.run id destination k.registry with
      | (.ok (), registry) =>
        (answer 202 (.object [("ok", .bool true), ("scooter_id", .ofWord id)]), { k with registry })
      | (.error fault, registry) => (failure fault, { k with registry })

/-- A request whose route and method are right. -/
def serve (s : Setting) (r : Request) (k : Kernel Float) : Route → Outcome × Kernel Float
  | .health => (.reply ⟨200, some "ok"⟩, k)
  | .systemHealth =>
    let (health, k) := k.health s.broker s.gauges
    (.reply (answer 200 health.toJson), k)
  | .scooters =>
    let (result, k) := k.call Store.listScooters
    (.reply (ofStore (fun l => .list (l.map (view k.registry))) result), k)
  | .scooter segment =>
    match Route.id? segment with
    | none => (.reply (.refusal 400), k)
    | some id =>
      let (result, k) := k.call (Store.getScooter id)
      (.reply (ofStore (view k.registry) result), k)
  | .stations =>
    let (result, k) := k.call Store.listStations
    (.reply (ofStore (fun l => .list (l.map Station.toJson)) result), k)
  | .orders =>
    let (result, k) := k.call Store.listOrders
    (.reply (ofStore (fun l => .list (l.map Order.toJson)) result), k)
  | .live => (.stream, k)
  | .socket => (.reply (.refusal (if r.wantsSocket then 426 else 400)), k)
  | .dispatch segment =>
    match Route.id? segment with
    | none => (.reply (.refusal 400), k)
    | some id =>
      match decodeBody Position.record.decode r with
      | .error status => (.reply (.refusal status), k)
      | .ok destination =>
        let (response, k) := redirect id destination k
        (.reply response, k)
  | .trips =>
    match decodeBody RentalRequest.record.decode r with
    | .error status => (.reply (.refusal status), k)
    | .ok request => (.rental request, k)

/-- A request for the head alone gets the status, and an empty body in place of the kernel's. -/
def headOnly (route : Route) : Outcome × Kernel Float → Outcome × Kernel Float
  | (.reply response, k) =>
    if route = .socket then (.reply (.refusal 405), k)
    else (.reply ⟨response.status, response.body.map fun _ => ""⟩, k)
  | (_, k) => (.reply ⟨200, some ""⟩, k)

def handle (s : Setting) (r : Request) (k : Kernel Float) : Outcome × Kernel Float :=
  if !r.passes s.key then (.reply (.refusal 401), k)
  else match Route.ofPath? r.path with
    | none => (.reply (.refusal 404), k)
    | some route =>
      if r.method = "POST" then
        if route.isCommand then serve s r k route else (.reply (.refusal 405), k)
      else if route.isCommand then (.reply (.refusal 405), k)
      else if r.method = "GET" then serve s r k route
      else if r.method = "HEAD" then headOnly route (serve s r k route)
      else (.reply (.refusal 405), k)

end Http
end ScooterFleet
