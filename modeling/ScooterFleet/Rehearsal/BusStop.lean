import ScooterFleet.Kernel.Bus

/-!
# Watching a bus

A bus alone on a stopped clock, with watches that look at it from time to time.
-/

namespace ScooterFleet

structure BusStop where
  bus : Bus BusMessage
  now : Millis
  watches : List (String × BusWatch)
  /-- The watches that came to an end, each with its answer. -/
  done : List (String × Bool)

namespace BusStop

def create : BusStop := ⟨.create, 0, [], []⟩

/-- Lets every watch that is due look at the bus. -/
def look (s : BusStop) : BusStop :=
  s.watches.foldl (fun s (name, w) =>
    if s.now < w.due then { s with watches := s.watches ++ [(name, w)] }
    else match w.look s.now s.bus with
      | .error answer => { s with done := s.done ++ [(name, answer)] }
      | .ok w => { s with watches := s.watches ++ [(name, w)] }) { s with watches := [] }

def watch (s : BusStop) (name topic : String) (count : Nat) (limit : Millis) : BusStop :=
  { s with watches := s.watches ++ [(name, BusWatch.start s.now limit topic count)] }.look

/-- Lets time pass up to an instant, with at most `fuel` looks on the way. -/
def advanceTo (target : Millis) : Nat → BusStop → BusStop
  | 0, s => s
  | fuel + 1, s =>
    match ((s.watches.map fun w => w.2.due).filter (· ≤ target)).min? with
    | some t => advanceTo target fuel { s with now := t }.look
    | none => { s with now := target }

def advance (s : BusStop) (span : Millis) : BusStop :=
  s.advanceTo (s.now + span) ((span / BusWatch.pause + 1) * (s.watches.length + 1))

end BusStop
end ScooterFleet
