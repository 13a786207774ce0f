import ScooterFleet.Link.Channel
import ScooterFleet.Wire.Frame

/-!
# Links

A link joins one device with the kernel by two channels: frames of the device go up, frames of the
kernel come down.  Where a link stands for a transport with texts, what arrives may also be a fault.
-/

namespace ScooterFleet

structure Link (α : Type) where
  up : Channel (Except LinkFault (DeviceFrame α))
  down : Channel (Except LinkFault (ServerFrame α))

namespace Link

variable {α : Type}

/-- A link inside one process; each direction holds `buffer` frames, and at least one. -/
def pair (buffer : Nat) : Link α := ⟨.bounded (max buffer 1), .bounded (max buffer 1)⟩

/-- A link without limits. -/
def unbounded : Link α := ⟨.unbounded, .unbounded⟩

/-- The device goes. -/
def leaveBelow (l : Link α) : Link α := ⟨l.up.finish, l.down.abandon⟩

/-- The kernel goes. -/
def leaveAbove (l : Link α) : Link α := ⟨l.up.abandon, l.down.finish⟩

end Link
end ScooterFleet
