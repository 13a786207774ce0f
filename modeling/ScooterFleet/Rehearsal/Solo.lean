import ScooterFleet.Kernel.Agenda

/-!
# A device alone

A device on a link whose other end is scripted: a script sends frames or faults down, breaks or closes
the link, lets time pass, and sees what the device sent and when.
-/

namespace ScooterFleet

structure Solo where
  agenda : Agenda Float
  task : TaskId
  link : LinkId
  /-- Was the device seen attached? -/
  attached : Bool
  /-- Was the end of its session seen? -/
  ended : Bool
  /-- What was sent, each with its instant. -/
  sent : List (Millis × DeviceFrame Float)

namespace Solo

def start (system : System Float) (device : Device Float) (attached : Bool)
    (fuse : Option (Nat × LinkFault)) : Solo :=
  let (link, system) := system.open_ { (Link.unbounded : Link Float) with up.fuse := fuse }
  let (task, system) := system.spawn (.device link device)
  ⟨.create system, task, link, attached, false, []⟩

def now (s : Solo) : Millis := s.agenda.system.now

def theLink (s : Solo) : Link Float := (s.agenda.system.links.get? s.link).getD .unbounded

def onLink (s : Solo) (f : Link Float → Link Float) : Solo :=
  { s with agenda.system := s.agenda.system.setLink s.link (f s.theLink) }

def device? (s : Solo) : Option (Device Float) :=
  match s.agenda.system.tasks.get? s.task with
  | some (.device _ d) => some d
  | _ => none

/-- Takes what was sent. -/
def collect (s : Solo) : Solo :=
  let frames := s.theLink.up.items.filterMap Except.toOption
  { s with sent := s.sent ++ frames.map fun f => (s.now, f) }.onLink fun l =>
    { l with up.items := [] }

def settle (s : Solo) : Solo := { s with agenda := s.agenda.settle }.collect

/-- Lets time pass up to an instant, with at most `fuel` alarms on the way. -/
def advanceTo (target : Millis) : Nat → Solo → Solo
  | 0, s => s
  | fuel + 1, s =>
    match s.agenda.pass? target with
    | some agenda => advanceTo target fuel { s with agenda }.collect
    | none => { s with agenda.system.now := target }

def advance (s : Solo) (span : Millis) : Solo := s.settle.advanceTo (s.now + span) Agenda.plenty

/-- Something comes down the link; says whether the device listens. -/
def send (s : Solo) (m : Except LinkFault (ServerFrame Float)) : Bool × Solo :=
  match s.theLink.down.send m with
  | .sent down => (true, (s.onLink fun l => { l with down }).settle)
  | _ => (false, s)

def hangUp (s : Solo) : Solo := (s.onLink fun l => { l with down := l.down.finish }).settle

def breakUp (s : Solo) (fuse : Nat × LinkFault) : Solo :=
  s.onLink fun l => { l with up.fuse := some fuse }

/-- What was seen since the last time. -/
structure View where
  sent : List (Millis × DeviceFrame Float)
  attached : Option (Session Float)
  result : Option (Except (SessionFault Float) SessionEnd)

def look (s : Solo) : View × Solo :=
  let session := s.device?.bind Device.session?
  let result := s.device?.bind Device.result?
  (⟨s.sent, if s.attached then none else session, if s.ended then none else result⟩,
    { s with
      sent := []
      attached := s.attached || session.isSome
      ended := s.ended || result.isSome })

end Solo
end ScooterFleet
