import ScooterFleet.Http.Service
import ScooterFleet.Kernel.Agenda

/-!
# Rehearsals

A stage is a kernel on a stopped clock with a cast: scripted devices, viewers, rentals, requests and
whatever else takes part, each under a name.  Between two acts everything runs until nothing can go on;
what the cast has seen since is handed out by `Stage.collect`.

The acts of a script are in `Rehearsal.Acts`.
-/

namespace ScooterFleet

/-- Who takes part under a name, and what is seen of it. -/
inductive Role where
  | waiter (task : TaskId)
  | rental (task : TaskId)
  /-- A rental that was asked for over HTTP. -/
  | request (task : TaskId)
  | device (link : LinkId) (task : TaskId)
  | socket (link : LinkId) (task : TaskId)
  | stream (task : TaskId)
  deriving DecidableEq, Repr

/-- What is seen. -/
inductive Sight where
  | frame (frame : ServerFrame Float)
  | served (result : Except DeviceFault ScooterId)
  | signal (signal : TripSignal Float)
  | rented (result : Except (RentalFault Float) (Trip Float))
  | response (response : Http.Response)
  | streaming
  | event (event : FeedEvent Float)
  /-- A frame as a text over a websocket. -/
  | text (frame : ServerFrame Float)
  | closing
  | gone

structure Stage where
  agenda : Agenda Float
  setting : Http.Setting
  /-- The motion of devices that run inside the kernel. -/
  profile : MotionProfile Float
  cast : List (String × Role)
  /-- What was seen already. -/
  seen : List (String × Sight)
  registrations : Table String Registration
  queues : Table String ConnectionId
  tickets : Table String Ticket
  viewers : Table String ViewerId
  lines : Table String LinkId
  streams : Table String TaskId

namespace Stage

/-- A stage with a kernel and nobody else. -/
def create (kernel : Kernel Float) (terms : RentalTerms Float) (profile : MotionProfile Float)
    (key : Option String) (wall : Timestamp) : Stage where
  agenda := .create
    { now := 0, wall, terms, kernel, bus := .create, broker := .initial, gauges := ⟨0, 0⟩
      links := ∅, tasks := ∅, fresh := 1 }
  setting := ⟨key, .initial, ⟨0, 0⟩⟩
  profile
  cast := []
  seen := []
  registrations := ∅
  queues := ∅
  tickets := ∅
  viewers := ∅
  lines := ∅
  streams := ∅

def system (s : Stage) : System Float := s.agenda.system

def registry (s : Stage) : Registry Float := s.system.registry

def hub (s : Stage) : Hub Float := s.registry.hub

def now (s : Stage) : Millis := s.system.now

def setSystem (s : Stage) (system : System Float) : Stage := { s with agenda.system := system }

def setRegistry (s : Stage) (registry : Registry Float) : Stage :=
  s.setSystem (s.system.withRegistry registry)

def setHub (s : Stage) (hub : Hub Float) : Stage := s.setSystem (s.system.withHub hub)

def setKernel (s : Stage) (kernel : Kernel Float) : Stage :=
  s.setSystem { s.system with kernel }

def link (s : Stage) (id : LinkId) : Link Float := (s.system.links.get? id).getD .unbounded

def onLink (s : Stage) (id : LinkId) (f : Link Float → Link Float) : Stage :=
  s.setSystem (s.system.setLink id (f (s.link id)))

/-- Adds a task that nobody looks at. -/
def spawn (s : Stage) (task : Task Float) : TaskId × Stage :=
  let (id, system) := s.system.spawn task
  (id, s.setSystem system)

def open_ (s : Stage) (link : Link Float) : LinkId × Stage :=
  let (id, system) := s.system.open_ link
  (id, s.setSystem system)

def join (s : Stage) (name : String) (role : Role) : Stage :=
  { s with cast := s.cast ++ [(name, role)] }

def see (s : Stage) (name : String) (sight : Sight) : Stage :=
  { s with seen := s.seen ++ [(name, sight)] }

/-- Everything runs until nothing can go on. -/
def settle (s : Stage) : Stage := { s with agenda := s.agenda.settle }

/-- Everything runs on while time passes. -/
def advance (s : Stage) (span : Millis) : Stage :=
  { s with agenda := s.agenda.settle.advance span }

/-! ### What the cast sees -/

/-- The frames that came down a link. -/
def takeFrames (s : Stage) (id : LinkId) : List (ServerFrame Float) × Stage :=
  ((s.link id).down.items.filterMap Except.toOption,
    s.onLink id fun l => { l with down.items := [] })

/-- What a role has seen, and whether there is more to come. -/
def look (s : Stage) : Role → List Sight × Bool × Stage
  | .waiter task =>
    match s.system.tasks.get? task with
    | some (.waiter _ _ (.finished signal)) => ([.signal signal], false, s)
    | _ => ([], true, s)
  | .rental task =>
    match s.system.tasks.get? task with
    | some (.rental ⟨_, .finished result⟩) => ([.rented result], false, s)
    | _ => ([], true, s)
  | .request task =>
    match s.system.tasks.get? task with
    | some (.rental ⟨_, .finished result⟩) => ([.response (Http.ofRental result)], false, s)
    | _ => ([], true, s)
  | .device link task =>
    let (frames, s) := s.takeFrames link
    match s.system.tasks.get? task with
    | some (.gateway _ (.finished result)) =>
      (frames.map .frame ++ [.served result], false, s)
    | _ => (frames.map .frame, true, s)
  | .socket link task =>
    let (frames, s) := s.takeFrames link
    match s.system.tasks.get? task with
    | some (.gateway _ (.finished _)) => (frames.map .text ++ [.closing, .gone], false, s)
    | _ => (frames.map .text, true, s)
  | .stream task =>
    match s.system.tasks.get? task with
    | some (.feed f) =>
      (f.written.map .event, true, s.setSystem (s.system.setTask task (.feed { f with written := [] })))
    | _ => ([], false, s)

/-- What was seen since the last time, with names. -/
def collect (s : Stage) : List (String × Sight) × Stage :=
  let s := s.cast.foldl (fun s (name, role) =>
    let (sights, more, s) := s.look role
    let s := { s with seen := s.seen ++ sights.map fun sight => (name, sight) }
    if more then s.join name role else s) { s with cast := [] }
  (s.seen, { s with seen := [] })

end Stage
end ScooterFleet
