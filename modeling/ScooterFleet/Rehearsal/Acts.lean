import ScooterFleet.Link.Socket
import ScooterFleet.Rehearsal.Stage

/-!
# The acts of a rehearsal

What a script can do to a stage.  A name that is given anew drops what it stood for.
-/

namespace ScooterFleet
namespace Stage

/-- A name is given to something; what it stood for before is dropped. -/
def rename {κ : Type} (names : Table String κ) (name : String) (item : κ)
    (drop : κ → Stage → Stage) (s : Stage) : Table String κ × Stage :=
  (names.insert name item,
    match names.get? name with
    | some old => drop old s
    | none => s)

/-- A name is taken away together with what it stands for; none if it stands for nothing. -/
def discard? {κ : Type} (names : Table String κ) (name : String) (drop : κ → Stage → Stage)
    (s : Stage) : Option (Table String κ × Stage) :=
  (names.get? name).map fun old => (names.erase name, drop old s)

/-! ### Viewers -/

def dropViewer (id : ViewerId) (s : Stage) : Stage := s.setHub (s.hub.drop id)

def subscribe (s : Stage) (name : String) : Stage :=
  let (id, hub) := s.hub.subscribe
  let (viewers, s) := rename s.viewers name id dropViewer (s.setHub hub)
  { s with viewers }

/-- Unknown names are ignored. -/
def unsubscribe (s : Stage) (name : String) : Stage :=
  match s.viewers.get? name with
  | some id => s.setHub (s.hub.unsubscribe id)
  | none => s

def closeViewer? (s : Stage) (name : String) : Option Stage :=
  (s.viewers.get? name).map fun id => s.setHub (s.hub.close id)

def leaveViewer? (s : Stage) (name : String) : Option Stage :=
  (discard? s.viewers name dropViewer s).map fun (viewers, s) => { s with viewers }

/-- What a viewer finds; none if the name stands for nobody. -/
def receive? (s : Stage) (name : String) : Option (Channel.Receipt (Telemetry Float) × Stage) :=
  (s.viewers.get? name).map fun id =>
    match s.hub.receive id with
    | .item m rest => (.item m rest, s.setHub (s.hub.leave id rest))
    | other => (other, s)

/-- All that a viewer finds. -/
def drain? (s : Stage) (name : String) : Option (List (Telemetry Float) × Stage) :=
  (s.viewers.get? name).map fun id =>
    match s.hub.viewers.get? id with
    | some c => (c.items, s.setHub (s.hub.leave id { c with items := [] }))
    | none => ([], s)

def publish (s : Stage) (m : Telemetry Float) : Nat × Stage :=
  let (count, hub) := s.hub.publish m
  (count, s.setHub hub)

/-- Publishes `n` positions, one degree of latitude apart. -/
def flood (s : Stage) (id : ScooterId) : Nat → List Nat × Stage
  | 0 => ([], s)
  | n + 1 =>
    let (counts, s) := s.flood id n
    let (count, s) := s.publish ⟨id, ⟨n.toFloat, 0⟩⟩
    (counts ++ [count], s)

/-! ### Connections -/

def dropRegistration (g : Registration) (s : Stage) : Stage :=
  s.setRegistry (s.registry.release g)

def dropQueue (c : ConnectionId) (s : Stage) : Stage := s.setRegistry (s.registry.dropQueue c)

def claimed (s : Stage) (name : String) :
    Except RegistryFault (Registration × Registry Float) → Except RegistryFault ScooterId × Stage
  | .error fault => (.error fault, s)
  | .ok (g, registry) =>
    let (registrations, s) := rename s.registrations name g dropRegistration (s.setRegistry registry)
    let (queues, s) := rename s.queues name g.connection dropQueue s
    (.ok g.scooter, { s with registrations, queues })

def register (s : Stage) (name : String) (id : ScooterId) : Except RegistryFault ScooterId × Stage :=
  s.claimed name (s.registry.register s.system.wall id)

def registerFirstFree (s : Stage) (name : String) (ids : List ScooterId) :
    Except RegistryFault ScooterId × Stage :=
  s.claimed name (s.registry.registerFirstFree s.system.wall ids)

def unregister (s : Stage) (id : ScooterId) : Bool × Stage :=
  match s.registry.unregister? id with
  | some registry => (true, s.setRegistry registry)
  | none => (false, s)

def release (s : Stage) (name : String) : Bool × Stage :=
  match discard? s.registrations name dropRegistration s with
  | some (registrations, s) => (true, { s with registrations })
  | none => (false, s)

def leaveQueue (s : Stage) (name : String) : Bool × Stage :=
  match discard? s.queues name dropQueue s with
  | some (queues, s) => (true, { s with queues })
  | none => (false, s)

/-- A connection that was held lets go of its slot and its queue. -/
def letGo (s : Stage) (name : String) : Bool × Stage :=
  let (held, s) := s.release name
  (held, (s.leaveQueue name).2)

/-- A connection that is held takes no new commands. -/
def deafen (s : Stage) (name : String) : Stage :=
  match s.queues.get? name with
  | some c => s.setRegistry (s.registry.deafen c)
  | none => s

/-- What a connection finds in its queue; none if it has none. -/
def command? (s : Stage) (name : String) : Option (Channel.Receipt (Dispatch Float) × Stage) :=
  (s.queues.get? name).map fun c =>
    match s.registry.receive c with
    | .item m rest => (.item m rest, s.setRegistry (s.registry.leave c rest))
    | other => (other, s)

def dispatch (s : Stage) (id : ScooterId) (destination : Position Float) (trip : Option TripId) :
    Except RegistryFault Unit × Stage :=
  match s.registry.dispatch id destination trip with
  | .ok registry => (.ok (), s.setRegistry registry)
  | .error fault => (.error fault, s)

def telemetry (s : Stage) (m : Telemetry Float) : Nat × Stage :=
  let (count, registry) := s.registry.telemetry s.system.wall m
  (count, s.setRegistry registry)

def report (s : Stage) (report : TripReport Float) : Bool × Stage :=
  let (taken, registry) := s.registry.tripEnded s.system.wall report
  (taken, s.setRegistry registry)

/-! ### Trips -/

def dropTicket (t : Ticket) (s : Stage) : Stage := s.setRegistry (s.registry.abandon t)

def begin (s : Stage) (name : String) (id : ScooterId) : Except RegistryFault Ticket × Stage :=
  match s.registry.begin id s.system.moment.fresh with
  | .error fault => (.error fault, s)
  | .ok (ticket, registry) =>
    let s := s.setSystem { s.system.withRegistry registry with fresh := s.system.fresh + 1 }
    let (tickets, s) := rename s.tickets name ticket dropTicket s
    (.ok ticket, { s with tickets })

/-- Waits with a ticket, which is used up; none if there is no such ticket. -/
def wait? (s : Stage) (name : String) (idle : Millis) : Option Stage :=
  (s.tickets.get? name).map fun ticket =>
    let (task, s) := s.spawn (.waiter ticket idle (.waiting (.start s.now idle)))
    { s with tickets := s.tickets.erase name }.join name (.waiter task)

def leaveTicket (s : Stage) (name : String) : Bool × Stage :=
  match discard? s.tickets name dropTicket s with
  | some (tickets, s) => (true, { s with tickets })
  | none => (false, s)

def rent (s : Stage) (name : String) (request : RentalRequest) : Stage :=
  let (task, s) := s.spawn (.rental (.start request))
  s.join name (.rental task)

def redirect (s : Stage) (id : ScooterId) (destination : Position Float) :
    Except (RentalFault Float) Unit × Stage :=
  let (result, registry) := Redirect.run id destination s.registry
  (result, s.setRegistry registry)

/-! ### Devices -/

/-- The frames that a link inside the kernel holds in each direction. -/
def innerBuffer : Nat := 32

/-- Devices that run inside the kernel; each takes the first free slot. -/
def employ (s : Stage) : Nat → Stage
  | 0 => s
  | n + 1 =>
    let (link, s) := s.open_ (.pair innerBuffer)
    let (_, s) := s.spawn (.gateway link (.start s.now))
    let (_, s) := s.spawn (.device link (.offering none s.profile))
    s.employ n

/-- Opens a connection, and gives the link and the gateway behind it. -/
def attach (s : Stage) (name : String) (fuse : Option (Nat × LinkFault)) : LinkId × TaskId × Stage :=
  let (link, s) := s.open_ { (Link.unbounded : Link Float) with down.fuse := fuse }
  let (task, s) := s.spawn (.gateway link (.start s.now))
  (link, task, { s with lines := s.lines.insert name link })

/-- A scripted device. -/
def connect (s : Stage) (name : String) (fuse : Option (Nat × LinkFault)) : Stage :=
  let (link, task, s) := s.attach name fuse
  s.join name (.device link task)

/-- A device over a websocket. -/
def socket (s : Stage) (name : String) : Stage :=
  let (link, task, s) := s.attach name none
  s.join name (.socket link task)

/-- Something comes up a line; says whether the kernel listens.  None if there is no such line. -/
def send? (s : Stage) (name : String) (m : Except LinkFault (DeviceFrame Float)) :
    Option (Bool × Stage) :=
  (s.lines.get? name).map fun id =>
    let up := (s.link id).up
    if up.ended then (false, s)
    else match up.send m with
      | .sent up => (true, s.onLink id fun l => { l with up })
      | _ => (false, s)

/-- A device ends its side of a line; says whether it had not before. -/
def hangUp? (s : Stage) (name : String) : Option (Bool × Stage) :=
  (s.lines.get? name).map fun id =>
    (!(s.link id).up.ended, s.onLink id fun l => { l with up := l.up.finish })

/-- A message of a device comes over a websocket. -/
def hear? (s : Stage) (name : String) (m : SocketMessage) : Option Stage :=
  match m.reception DeviceFrame.ofText with
  | .frame frame => (s.send? name frame).map (·.2)
  | .nothing => some s
  | .ended => (s.hangUp? name).map (·.2)

/-- Frames of the kernel fail from some frame on. -/
def breakDown? (s : Stage) (name : String) (count : Nat) (fault : LinkFault) : Option Stage :=
  (s.lines.get? name).map fun id =>
    s.onLink id fun l => { l with down := l.down.breakAfter count fault }

/-! ### Requests -/

def openStream (s : Stage) : TaskId × Stage :=
  let (viewer, hub) := s.hub.subscribe
  (s.setHub hub).spawn (.feed (.start s.now viewer))

/-- A stream of live positions. -/
def watch (s : Stage) (name : String) : Stage :=
  let (task, s) := s.openStream
  ({ s with streams := s.streams.insert name task }.see name .streaming).join name (.stream task)

def unwatch (s : Stage) (name : String) : Stage :=
  match s.streams.get? name with
  | some task => { s.setSystem (s.system.cancel task) with streams := s.streams.erase name }
  | none => s

/-- A request; its answer is seen at once or when the rental that it asks for is over. -/
def request (s : Stage) (name : String) (r : Http.Request) : Stage :=
  let (outcome, kernel) := Http.handle { s.setting with broker := s.system.broker } r s.system.kernel
  let s := s.setKernel kernel
  match outcome with
  | .reply response => s.see name (.response response)
  | .rental request =>
    let (task, s) := s.spawn (.rental (.start request))
    s.join name (.request task)
  | .stream => s.openStream.2

/-! ### Bus and health -/

/-- A new bus, to which live positions are handed. -/
def attachBus (s : Stage) : Stage :=
  let (viewer, hub) := s.hub.subscribe
  let s := s.setHub hub
  ((s.setSystem { s.system with bus := .create }).spawn (.bridge viewer .listening)).2

/-- Health goes to the bus in equal periods. -/
def reportHealth (s : Stage) (period : Millis) : Stage :=
  if period = 0 then s else (s.spawn (.reporter ⟨period, s.now⟩)).2

def takeMessages (s : Stage) : List (Notice Float) × Stage :=
  (s.system.bus.messages, s.setSystem { s.system with bus := s.system.bus.clear })

def failBus (s : Stage) (failing : Bool) : Stage :=
  s.setSystem { s.system with bus.failing := failing }

def health (s : Stage) : Health × Stage :=
  let (health, kernel) := s.system.kernel.health s.system.broker s.system.gauges
  (health, s.setKernel kernel)

def setBroker (s : Stage) (broker : Broker) : Stage := s.setSystem { s.system with broker }

/-- The time between two looks at the number of connections. -/
def lookPause : Millis := 5

/-- Waits for a number of connections; gives up after so many looks. -/
def awaitConnected (s : Stage) (count : Nat) : Nat → Bool × Stage
  | 0 => (decide (count ≤ s.registry.connected.length), s)
  | looks + 1 =>
    if count ≤ s.registry.connected.length then (true, s)
    else (s.advance lookPause).awaitConnected count looks

/-- Two seconds of looks. -/
def lookLimit : Nat := 400

/-- What is said when there are not enough connections in time. -/
def shortage (s : Stage) (count : Nat) : String :=
  "only " ++ toString s.registry.connected.length ++ " of " ++ toString count ++
    " devices connected"

end Stage
end ScooterFleet
