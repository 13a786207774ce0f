import ScooterFleet.Device.Run
import ScooterFleet.Kernel.Gateway
import ScooterFleet.Kernel.Broadcast

/-!
# A fleet at work

A system is a kernel with its links, its bus, its clock and everything that runs: devices, gateways,
rentals, waiters, bridges, reporters and feeds.

* `System.step` — one atomic step of one task, where its choice is enabled;
* `System.choices` — the choices of a task, the one that is taken first in front;
* `System.next?` — the step that a task makes when it is its turn.
-/

namespace ScooterFleet

abbrev LinkId := Nat
abbrev TaskId := Nat

inductive Task (α : Type) where
  | device (link : LinkId) (device : Device α)
  | gateway (link : LinkId) (gateway : Gateway α)
  | rental (rental : Rental α)
  | waiter (ticket : Ticket) (idle : Millis) (waiter : Waiter α)
  | bridge (viewer : ViewerId) (bridge : Bridge α)
  | reporter (reporter : Reporter)
  | feed (feed : Feed α)

/-- How a task goes on. -/
inductive Choice where
  | device (choice : Device.Choice)
  | gateway (choice : Gateway.Choice)
  | rental (choice : Rental.Choice)
  | waiter (choice : Wait.Choice)
  | bridge
  | reporter
  | feed (choice : Feed.Choice)
  deriving DecidableEq, Repr

structure System (α : Type) where
  now : Millis
  /-- The time of day that entries get. -/
  wall : Timestamp
  terms : RentalTerms α
  kernel : Kernel α
  bus : Bus (Notice α)
  broker : Broker
  gauges : Gauges
  links : Table LinkId (Link α)
  tasks : Table TaskId (Task α)
  /-- The next number for a link, a task or a trip. -/
  fresh : Nat

namespace Task

variable {α : Type}

def alarm? : Task α → Option Millis
  | .device _ d => d.alarm?
  | .gateway _ g => g.alarm?
  | .rental r => r.alarm?
  | .waiter _ _ w => w.alarm?
  | .bridge _ _ => none
  | .reporter r => some r.due
  | .feed f => some f.due

/-- The choices of a task in the order in which they are tried. -/
def choices : Task α → List Choice
  | .device _ _ => [.device .receive, .device .tick, .device .send]
  | .gateway _ _ =>
    [.gateway .command, .gateway .inbound, .gateway .expiry, .gateway .proceed]
  | .rental _ =>
    [.rental .proceed, .rental (.wake .signal), .rental (.wake .activity), .rental (.wake .expiry)]
  | .waiter _ _ _ => [.waiter .expiry, .waiter .activity, .waiter .signal]
  | .bridge _ _ => [.bridge]
  | .reporter _ => [.reporter]
  | .feed _ => [.feed .message, .feed .comment]

end Task

namespace System

variable {α : Type}

def registry (s : System α) : Registry α := s.kernel.registry

def withRegistry (s : System α) (registry : Registry α) : System α :=
  { s with kernel := { s.kernel with registry } }

def withHub (s : System α) (hub : Hub α) : System α :=
  s.withRegistry { s.registry with hub }

def setTask (s : System α) (id : TaskId) (task : Task α) : System α :=
  { s with tasks := s.tasks.insert id task }

def setLink (s : System α) (id : LinkId) (link : Link α) : System α :=
  { s with links := s.links.insert id link }

/-- Adds a link. -/
def open_ (s : System α) (link : Link α) : LinkId × System α :=
  (s.fresh, { s.setLink s.fresh link with fresh := s.fresh + 1 })

/-- Adds a task. -/
def spawn (s : System α) (task : Task α) : TaskId × System α :=
  (s.fresh, { s.setTask s.fresh task with fresh := s.fresh + 1 })

/-- Names of trips look like any others, and no two of them are equal. -/
def tripBase : Nat := 0x5c007e12000040008000000000000000

def moment (s : System α) : Rental.Moment := ⟨s.now, s.wall, .ofNat (tripBase + s.fresh)⟩

variable [Coordinate α]

def stepDevice (s : System α) (id : TaskId) (link : LinkId) (d : Device α) (c : Device.Choice) :
    Option (System α) := do
  let l ← s.links.get? link
  let (d, l) ← d.step s.now l c
  return (s.setLink link l).setTask id (.device link d)

def stepGateway (s : System α) (id : TaskId) (link : LinkId) (g : Gateway α)
    (c : Gateway.Choice) : Option (System α) := do
  let l ← s.links.get? link
  let (g, site) ← g.step s.now s.wall ⟨s.kernel, l⟩ c
  return ({ s with kernel := site.kernel }.setLink link site.link).setTask id (.gateway link g)

/-- A step of a rental uses up a name for a trip. -/
def stepRental (s : System α) (id : TaskId) (r : Rental α) (c : Rental.Choice) :
    Option (System α) := do
  let (r, kernel) ← r.step s.moment s.terms s.kernel c
  return { s with kernel, fresh := s.fresh + 1 }.setTask id (.rental r)

def stepWaiter (s : System α) (id : TaskId) (ticket : Ticket) (idle : Millis) (w : Waiter α)
    (c : Wait.Choice) : Option (System α) := do
  let (w, registry) ← w.step s.now idle s.registry ticket c
  return (s.withRegistry registry).setTask id (.waiter ticket idle w)

def stepBridge (s : System α) (id : TaskId) (viewer : ViewerId) (b : Bridge α) :
    Option (System α) := do
  let (b, hub, bus) ← b.step viewer s.registry.hub s.bus
  return { s.withHub hub with bus }.setTask id (.bridge viewer b)

def stepReporter (s : System α) (id : TaskId) (r : Reporter) : Option (System α) := do
  let (r, kernel, bus) ← r.step s.now s.kernel s.broker s.gauges s.bus
  return { s with kernel, bus }.setTask id (.reporter r)

def stepFeed (s : System α) (id : TaskId) (f : Feed α) (c : Feed.Choice) : Option (System α) := do
  let (f, hub) ← f.step s.now s.registry.hub c
  return (s.withHub hub).setTask id (.feed f)

/-- One atomic step of a task; none if the choice is not enabled. -/
def step (s : System α) (id : TaskId) (c : Choice) : Option (System α) :=
  match s.tasks.get? id, c with
  | some (.device link d), .device c => s.stepDevice id link d c
  | some (.gateway link g), .gateway c => s.stepGateway id link g c
  | some (.rental r), .rental c => s.stepRental id r c
  | some (.waiter ticket idle w), .waiter c => s.stepWaiter id ticket idle w c
  | some (.bridge viewer b), .bridge => s.stepBridge id viewer b
  | some (.reporter r), .reporter => s.stepReporter id r
  | some (.feed f), .feed c => s.stepFeed id f c
  | _, _ => none

def choices (s : System α) (id : TaskId) : List Choice :=
  match s.tasks.get? id with
  | some task => task.choices
  | none => []

/-- The step that a task makes when it is its turn; none if it has to wait. -/
def next? (s : System α) (id : TaskId) : Option (System α) :=
  (s.choices id).firstM fun c => s.step id c

def isReady (s : System α) (id : TaskId) : Bool := (s.next? id).isSome

/-- The earliest alarm that is set for later than now. -/
def alarm? (s : System α) : Option Millis :=
  (s.tasks.values.filterMap Task.alarm?).filter (s.now < ·) |>.min?

/-! ### Ending tasks -/

/-- Drops a task in the middle of what it does. -/
def cancel (s : System α) (id : TaskId) : System α :=
  let s' := { s with tasks := s.tasks.erase id }
  match s.tasks.get? id with
  | some (.device link _) =>
    { s' with links := s'.links.modify link Link.leaveBelow }
  | some (.gateway link g) =>
    match s'.links.get? link with
    | some l =>
      let site := g.cancel ⟨s'.kernel, l⟩
      { s' with kernel := site.kernel }.setLink link site.link
    | none => s'
  | some (.rental r) => { s' with kernel := r.cancel s'.kernel }
  | some (.waiter ticket _ _) => s'.withRegistry (s'.registry.abandon ticket)
  | some (.bridge viewer _) => s'.withHub (s'.registry.hub.drop viewer)
  | some (.feed f) => s'.withHub (s'.registry.hub.drop f.viewer)
  | _ => s'

end System
end ScooterFleet
