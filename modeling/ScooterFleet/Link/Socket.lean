import ScooterFleet.Link.Channel
import ScooterFleet.Wire.Codec

/-!
# Links over websockets

Each frame is the text of one websocket message.  A receiver also takes frames in binary messages, and
goes over pings and pongs; a message that holds no frame is a fault of that message only, and a closing
message ends the link.
-/

namespace ScooterFleet

/-- What comes over a websocket. -/
inductive SocketMessage where
  | text (content : String)
  | binary (bytes : ByteArray)
  | ping
  | pong
  | close

/-- What a message means to the receiver of frames. -/
inductive Reception (μ : Type) where
  | frame (frame : Except LinkFault μ)
  | nothing
  | ended

namespace SocketMessage

variable {μ : Type} (decode : String → Except Json.Fault μ)

/-- The frame in a text message. -/
def ofText (s : String) : Except LinkFault μ :=
  match decode s with
  | .ok f => .ok f
  | .error _ => .error (.encoding "no frame")

/-- The frame in a binary message, which holds a text. -/
def ofBytes (bytes : ByteArray) : Except LinkFault μ :=
  match String.fromUTF8? bytes with
  | some s => ofText decode s
  | none => .error (.encoding "no text")

def reception : SocketMessage → Reception μ
  | .text s => .frame (ofText decode s)
  | .binary bytes => .frame (ofBytes decode bytes)
  | .ping | .pong => .nothing
  | .close => .ended

end SocketMessage
end ScooterFleet
