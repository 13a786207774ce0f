import ScooterFleet.Kernel.System

/-!
# One schedule

An agenda runs a system in one certain order.  Tasks that can go on stand in a queue; the first one
runs until it has to wait, and what it enables joins the queue at its end.  Time moves only when
nothing can go on, from alarm to alarm; tasks whose alarms go off together join the queue in the order
in which they began to wait.

Every step is one of `System.step`, and time goes forward only; so what holds for all schedules holds for
this one (`Proofs.Fleet.Schedule`).
-/

namespace ScooterFleet

structure Agenda (α : Type) where
  system : System α
  queue : List TaskId
  /-- When each task began to wait. -/
  parked : Table TaskId Nat
  /-- The number of the next wait. -/
  turn : Nat

namespace Agenda

variable {α : Type} [Coordinate α]

def create (system : System α) : Agenda α := ⟨system, [], ∅, 0⟩

/-- Tasks that can go on join the queue. -/
def enlist (a : Agenda α) (current : Option TaskId) : Agenda α :=
  let ready := a.system.tasks.keys.filter fun id =>
    some id ≠ current ∧ ¬ a.queue.contains id ∧ a.system.isReady id
  { a with queue := a.queue ++ ready }

def park (a : Agenda α) (id : TaskId) : Agenda α :=
  { a with parked := a.parked.insert id a.turn, turn := a.turn + 1 }

/-- At most `fuel` steps of one task. -/
def runTask (id : TaskId) : Nat → Agenda α → Nat × Agenda α
  | 0, a => (0, a)
  | fuel + 1, a =>
    match a.system.next? id with
    | none => (fuel, a.park id)
    | some system => runTask id fuel ({ a with system }.enlist (some id))

/-- At most `fuel` turns of tasks, each of at most `fuel` steps. -/
def drain : Nat → Agenda α → Agenda α
  | 0, a => a
  | fuel + 1, a =>
    match a.queue with
    | [] => a
    | id :: queue => drain fuel (runTask id (fuel + 1) { a with queue }).2

/-- More steps than any run needs. -/
def plenty : Nat := 100000000

/-- Runs until nothing can go on. -/
def settle (a : Agenda α) : Agenda α := (a.enlist none).drain plenty

/-- The tasks that can go on, in the order in which they began to wait. -/
def wake (a : Agenda α) : Agenda α :=
  let ready := a.system.tasks.keys.filter fun id => a.system.isReady id
  let since := fun id => (a.parked.get? id).getD 0
  { a with queue := ready.mergeSort fun i j => decide (since i ≤ since j) }

/-- Time passes up to the next alarm, if there is one before `target`. -/
def pass? (target : Millis) (a : Agenda α) : Option (Agenda α) :=
  match a.system.alarm? with
  | some t => if t ≤ target then some ({ a with system.now := t }.wake.drain plenty) else none
  | none => none

/-- Lets time pass up to an instant, with at most `fuel` alarms on the way. -/
def advanceTo (target : Millis) : Nat → Agenda α → Agenda α
  | 0, a => a
  | fuel + 1, a =>
    match a.pass? target with
    | some a => advanceTo target fuel a
    | none => { a with system.now := target }

/-- Lets time pass. -/
def advance (a : Agenda α) (span : Millis) : Agenda α :=
  a.advanceTo (a.system.now + span) plenty

end Agenda
end ScooterFleet
