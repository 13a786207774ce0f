import ScooterFleet.Kernel.Rental
import ScooterFleet.Link.Pair

/-!
# The gateway

The kernel's end of one device connection.  The device says hello within ten seconds; the kernel claims
the slot of the scooter it names, or the first free one, and welcomes it with its position and battery.
Then commands go down and reports come up, until the slot is taken away, the link ends or breaks.

`Gateway.step` is one atomic step; where more than one is enabled, the order is left open.  However a
connection ends, it frees the slot that it claimed, if the slot is still its own.
-/

namespace ScooterFleet

/-- Why a connection was refused or torn down. -/
inductive DeviceFault where
  | noHello
  | registry (fault : RegistryFault)
  | store (fault : StoreFault)
  | link (fault : LinkFault)
  deriving DecidableEq, Repr

def DeviceFault.message : DeviceFault → String
  | .noHello => "device did not say hello"
  | .registry fault => fault.message
  | .store fault => fault.message
  | .link fault => fault.message

/-- What a refused device is told. -/
def DeviceFault.reason : DeviceFault → String
  | .noHello => "expected hello"
  | fault => fault.message

/-- What a connection does next, and what it knows. -/
inductive Gateway (α : Type) where
  | greeting (deadline : Millis)
  | checking (id : ScooterId)
  | registering (id : ScooterId)
  | listing
  | choosing (candidates : List ScooterId)
  | looking (owned : Registration)
  | locating (owned : Registration) (scooter : Scooter α)
  | welcoming (owned : Registration) (state : DeviceState α)
  | serving (owned : Registration)
  | forwarding (owned : Registration) (command : Dispatch α)
  | hearing (owned : Registration) (frame : DeviceFrame α)
  /-- Tells the device why it is refused. -/
  | refusing (fault : DeviceFault)
  /-- Frees the slot. -/
  | leaving (owned : Registration) (result : Except DeviceFault Unit)
  | finished (result : Except DeviceFault ScooterId)

namespace Gateway

variable {α : Type}

/-- The time that a device has for its hello. -/
def helloLimit : Millis := 10000

def start (now : Millis) : Gateway α := .greeting (now + helloLimit)

/-- The slot that the connection claimed and has not freed yet. -/
def owned? : Gateway α → Option Registration
  | .looking g => some g
  | .locating g _ => some g
  | .welcoming g _ => some g
  | .serving g => some g
  | .forwarding g _ => some g
  | .hearing g _ => some g
  | .leaving g _ => some g
  | _ => none

def result? : Gateway α → Option (Except DeviceFault ScooterId)
  | .finished r => some r
  | _ => none

def alarm? : Gateway α → Option Millis
  | .greeting deadline => some deadline
  | _ => none

/-- What a connection and the rest of the kernel share. -/
structure Site (α : Type) where
  kernel : Kernel α
  link : Link α

namespace Site

def withRegistry (s : Site α) (registry : Registry α) : Site α :=
  { s with kernel := { s.kernel with registry } }

/-- Frees the slot and forgets the commands that were not taken. -/
def free (s : Site α) (g : Registration) : Site α :=
  s.withRegistry ((s.kernel.registry.release g).dropQueue g.connection)

end Site

/-- The connection goes, and its end of the link with it. -/
def finish (s : Site α) (result : Except DeviceFault ScooterId) : Gateway α × Site α :=
  (.finished result, { s with link := s.link.leaveAbove })

/-- A connection that is dropped in the middle frees its slot. -/
def cancel (g : Gateway α) (s : Site α) : Site α :=
  let s := match g.owned? with
    | some owned => s.free owned
    | none => s
  { s with link := s.link.leaveAbove }

/-- The ways in which a connection goes on. -/
inductive Choice where
  /-- The one way that there is, in most states. -/
  | proceed
  | command
  | inbound
  | expiry
  deriving DecidableEq, Repr

def greet (s : Site α) : Except LinkFault (DeviceFrame α) → Gateway α × Site α
  | .ok (.hello (some id)) => (.checking id, s)
  | .ok (.hello none) => (.listing, s)
  | .ok _ => (.refusing .noHello, s)
  | .error fault => finish s (.error (.link fault))

/-- What comes up while commands are served; what cannot be decoded is passed over. -/
def hear (owned : Registration) (s : Site α) : Except LinkFault (DeviceFrame α) → Gateway α × Site α
  | .ok frame => (.hearing owned frame, s)
  | .error (.encoding _) => (.serving owned, s)
  | .error fault => (.leaving owned (.error (.link fault)), s)

/-- A frame counts if it carries the scooter of the connection. -/
def apply (wall : Timestamp) (owned : Registration) (r : Registry α) : DeviceFrame α → Registry α
  | .telemetry m => if m.scooter = owned.scooter then (r.telemetry wall m).2 else r
  | .tripEnded report => if report.scooter = owned.scooter then (r.tripEnded wall report).2 else r
  | .hello _ => r

/-- Sends a frame down, and goes on according to what became of it. -/
def send (s : Site α) (frame : ServerFrame α) (sent : Site α → Gateway α × Site α)
    (failed : LinkFault → Site α → Gateway α × Site α) : Option (Gateway α × Site α) :=
  match s.link.down.send (.ok frame) with
  | .sent down => some (sent { s with link := { s.link with down } })
  | .failed fault => some (failed fault s)
  | .waits => none

/-- The states with one way to go on. -/
def advance (wall : Timestamp) (s : Site α) : Gateway α → Option (Gateway α × Site α)
  | .checking id =>
    match s.kernel.call (Store.getScooter id) with
    | (.ok _, kernel) => some (.registering id, { s with kernel })
    | (.error fault, kernel) => some (.refusing (.store fault), { s with kernel })
  | .registering id =>
    match s.kernel.registry.register wall id with
    | .ok (owned, registry) => some (.looking owned, s.withRegistry registry)
    | .error fault => some (.refusing (.registry fault), s)
  | .listing =>
    match s.kernel.call Store.listScooters with
    | (.ok scooters, kernel) => some (.choosing (scooters.map (·.id)), { s with kernel })
    | (.error fault, kernel) => some (.refusing (.store fault), { s with kernel })
  | .choosing candidates =>
    match s.kernel.registry.registerFirstFree wall candidates with
    | .ok (owned, registry) => some (.looking owned, s.withRegistry registry)
    | .error fault => some (.refusing (.registry fault), s)
  | .looking owned =>
    match s.kernel.call (Store.getScooter owned.scooter) with
    | (.ok scooter, kernel) => some (.locating owned scooter, { s with kernel })
    | (.error fault, kernel) => some (.leaving owned (.error (.store fault)), { s with kernel })
  | .locating owned scooter =>
    let position := (s.kernel.registry.lastPosition owned.scooter).getD scooter.position
    some (.welcoming owned ⟨position, scooter.battery⟩, s)
  | .welcoming owned state =>
    send s (.welcome owned.scooter state) (fun s => (.serving owned, s))
      fun fault s => (.leaving owned (.error (.link fault)), s)
  | .forwarding owned command =>
    send s (.dispatch command) (fun s => (.serving owned, s))
      fun fault s => (.leaving owned (.error (.link fault)), s)
  | .hearing owned frame =>
    some (.serving owned, s.withRegistry (apply wall owned s.kernel.registry frame))
  | .refusing fault =>
    send s (.rejected fault.reason) (fun s => finish s (.error fault))
      fun _ s => finish s (.error fault)
  | .leaving owned result =>
    some (finish (s.free owned) (result.map fun _ => owned.scooter))
  | .greeting _ => none
  | .serving _ => none
  | .finished _ => none

/-- One atomic step; none if it is not enabled. -/
def step (now : Millis) (wall : Timestamp) (s : Site α) :
    Gateway α → Choice → Option (Gateway α × Site α)
  | g, .proceed => g.advance wall s
  | .serving owned, .command =>
    match s.kernel.registry.receive owned.connection with
    | .item command rest =>
      some (.forwarding owned command,
        s.withRegistry (s.kernel.registry.leave owned.connection rest))
    | .ended => some (.leaving owned (.ok ()), s)
    | .waits => none
  | .serving owned, .inbound =>
    match s.link.up.receive with
    | .item m up => some (hear owned { s with link := { s.link with up } } m)
    | .ended => some (.leaving owned (.ok ()), s)
    | .waits => none
  | .greeting _, .inbound =>
    match s.link.up.receive with
    | .item m up => some (greet { s with link := { s.link with up } } m)
    | .ended => some (finish s (.error (.link .closed)))
    | .waits => none
  | .greeting deadline, .expiry =>
    if deadline ≤ now then some (.refusing .noHello, s) else none
  | _, _ => none

end Gateway
end ScooterFleet
