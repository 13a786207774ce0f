/-!
# Channels

A channel takes messages from one side to the other in their order.  It may hold a bounded number of
them; then a sender waits while it is full.  Either side may go away: what was sent before is still
received, what is sent to a receiver that has gone is refused.

A channel with a fuse stands for a transport that breaks: after some more messages, each further one
fails in the same way.
-/

namespace ScooterFleet

/-- Why a message could not be sent or received. -/
inductive LinkFault where
  | closed
  | transport (detail : String)
  /-- A message that is none of the expected type. -/
  | encoding (detail : String)
  deriving DecidableEq, Repr

def LinkFault.message : LinkFault → String
  | .closed => "link closed"
  | .transport detail => "transport error: " ++ detail
  | .encoding detail => "frame encoding error: " ++ detail

structure Channel (μ : Type) where
  /-- What was sent and not yet received, the oldest first. -/
  items : List μ
  /-- The greatest number of items; none where there is no limit. -/
  capacity : Option Nat
  /-- The sender has gone. -/
  ended : Bool
  /-- The receiver takes only what was sent already. -/
  closed : Bool
  /-- The number of messages that still go through, and how the ones after them fail. -/
  fuse : Option (Nat × LinkFault)
  deriving DecidableEq, Repr

namespace Channel

variable {μ : Type}

/-- A channel without a limit. -/
def unbounded : Channel μ := ⟨[], none, false, false, none⟩

def bounded (capacity : Nat) : Channel μ := ⟨[], some capacity, false, false, none⟩

def isFull (c : Channel μ) : Bool :=
  match c.capacity with
  | none => false
  | some n => n ≤ c.items.length

/-- What became of a message. -/
inductive Sending (μ : Type) where
  | sent (channel : Channel μ)
  | failed (fault : LinkFault)
  /-- There is no room yet. -/
  | waits

def send (c : Channel μ) (m : μ) : Sending μ :=
  match c.fuse with
  | some (0, fault) => .failed fault
  | fuse =>
    if c.closed then .failed .closed
    else if c.isFull then .waits
    else .sent { c with items := c.items ++ [m], fuse := fuse.map fun f => (f.1 - 1, f.2) }

/-- What a receiver finds. -/
inductive Receipt (μ : Type) where
  | item (message : μ) (rest : Channel μ)
  /-- Nothing comes any more. -/
  | ended
  /-- Nothing is there yet. -/
  | waits

def receive (c : Channel μ) : Receipt μ :=
  match c.items with
  | m :: items => .item m { c with items }
  | [] => if c.ended || c.closed then .ended else .waits

/-- The sender goes. -/
def finish (c : Channel μ) : Channel μ := { c with ended := true }

/-- The receiver takes nothing new. -/
def close (c : Channel μ) : Channel μ := { c with closed := true }

/-- The receiver goes, and with it what was not received. -/
def abandon (c : Channel μ) : Channel μ := { c with items := [], closed := true }

def breakAfter (c : Channel μ) (count : Nat) (fault : LinkFault) : Channel μ :=
  { c with fuse := some (count, fault) }

end Channel
end ScooterFleet
