import ScooterFleet.Kernel.Registry
import ScooterFleet.Motion.Profile

/-!
# Waiting for a trip

A waiter holds a trip's ticket.  It takes the trip's signal, and gives the trip up after a silence as
long as its idle limit; each position that the scooter reports starts the silence anew.

Three things may wake a waiter, and more than one may have happened: `Wait.step` leaves open which of
them it sees first.
-/

namespace ScooterFleet

/-- The states of a waiter. -/
inductive Wait where
  /-- `seen` of the trip's positions have been noticed. -/
  | listening (seen : Nat) (deadline : Millis)
  /-- The trip has left the registry, only its signal is waited for. -/
  | draining (deadline : Millis)
  deriving DecidableEq, Repr

namespace Wait

/-- What wakes a waiter. -/
inductive Choice where
  | signal
  | activity
  | expiry
  deriving DecidableEq, Repr

/-- A wait that starts now. -/
def start (now idle : Millis) : Wait := .listening 0 (now + idle)

def deadline : Wait → Millis
  | .listening _ d => d
  | .draining d => d

variable {α : Type}

/-- Positions counted for a trip, also after it was resolved. -/
def ticksOf (r : Registry α) (t : Ticket) : Option Nat :=
  match r.trips.get? t.scooter with
  | some p => if p.trip = t.trip then some p.ticks else (r.resolutions.get? t.trip).map (·.ticks)
  | none => (r.resolutions.get? t.trip).map (·.ticks)

/-- What a step leaves: a waiter, or the signal that ends the wait. -/
inductive Progress (α : Type) where
  | waiting (wait : Wait)
  | done (signal : TripSignal α)
  deriving DecidableEq, Repr

/-- May the wait end for its silence?  One that is only for the signal looks for it first. -/
def mayExpire (now : Millis) (r : Registry α) (t : Ticket) : Wait → Bool
  | .listening _ deadline => deadline ≤ now
  | .draining deadline => deadline ≤ now && (r.resolutions.get? t.trip).isNone

/-- One atomic step; none if it is not enabled. -/
def step (now idle : Millis) (r : Registry α) (t : Ticket) (w : Wait) :
    Choice → Option (Progress α × Registry α)
  | .signal =>
    (r.resolutions.get? t.trip).map fun resolution => (.done resolution.signal, r)
  | .activity =>
    match w with
    | .draining _ => none
    | .listening seen _ =>
      match ticksOf r t with
      | none => some (.waiting (.draining (now + idle)), r)
      | some ticks =>
        if ticks ≠ seen then some (.waiting (.listening ticks (now + idle)), r)
        else if r.isPending t then none
        else some (.waiting (.draining (now + idle)), r)
  | .expiry =>
    if w.mayExpire now r t then
      let (signal, r) := r.giveUp t
      some (.done signal, r)
    else none

end Wait

/-- A waiter on its own: it waits, or has its signal. -/
inductive Waiter (α : Type) where
  | waiting (wait : Wait)
  | finished (signal : TripSignal α)
  deriving DecidableEq, Repr

namespace Waiter

variable {α : Type}

def alarm? : Waiter α → Option Millis
  | .waiting w => some w.deadline
  | .finished _ => none

/-- One atomic step; none if it is not enabled. -/
def step (now idle : Millis) (r : Registry α) (t : Ticket) (w : Waiter α) (c : Wait.Choice) :
    Option (Waiter α × Registry α) :=
  match w with
  | .finished _ => none
  | .waiting w =>
    (w.step now idle r t c).map fun (progress, r) =>
      match progress with
      | .waiting w => (.waiting w, r)
      | .done signal => (.finished signal, r)

end Waiter
end ScooterFleet
