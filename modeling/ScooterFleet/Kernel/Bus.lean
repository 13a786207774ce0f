import ScooterFleet.Kernel.Health
import ScooterFleet.Wire.Codec

/-!
# The bus

Telemetry and health are handed to a bus outside of the kernel.  A bus records what is handed to it;
while it fails, it records a message too and says that it failed.
-/

namespace ScooterFleet

structure Bus (μ : Type) where
  /-- Oldest first. -/
  messages : List μ
  failing : Bool
  deriving DecidableEq, Repr

/-- Why a message was not taken. -/
structure BusFault where
  detail : String
  deriving DecidableEq, Repr

def BusFault.message (fault : BusFault) : String := "bus publish failed: " ++ fault.detail

namespace Bus

variable {μ : Type}

def create : Bus μ := ⟨[], false⟩

def publish (b : Bus μ) (m : μ) : Except BusFault Unit × Bus μ :=
  (if b.failing then .error ⟨"mock bus failing"⟩ else .ok (),
    { b with messages := b.messages ++ [m] })

def clear (b : Bus μ) : Bus μ := { b with messages := [] }

end Bus

/-- A message as it goes over the bus. -/
structure BusMessage where
  topic : String
  payload : String
  deriving DecidableEq, Repr

namespace Bus

def byTopic (b : Bus BusMessage) (topic : String) : List BusMessage :=
  b.messages.filter (·.topic = topic)

/-- The payloads of a topic, decoded; a fault if one of them is of another type. -/
def decoded {α : Type} (read : String → Except Json.Fault α) (b : Bus BusMessage) (topic : String) :
    Except Json.Fault (List α) :=
  (b.byTopic topic).mapM fun m => read m.payload

/-- The last payload of a topic, decoded. -/
def lastDecoded {α : Type} (read : String → Except Json.Fault α) (b : Bus BusMessage)
    (topic : String) : Except Json.Fault (Option α) :=
  match (b.byTopic topic).getLast? with
  | none => .ok none
  | some m => (read m.payload).map some

end Bus

/-- Waits until a topic has a number of messages, by looking at it from time to time. -/
structure BusWatch where
  topic : String
  count : Nat
  deadline : Millis
  /-- The instant of the next look. -/
  due : Millis
  deriving DecidableEq, Repr

namespace BusWatch

/-- The time between two looks. -/
def pause : Millis := 5

def start (now limit : Millis) (topic : String) (count : Nat) : BusWatch :=
  ⟨topic, count, now + limit, now⟩

/-- One look: an answer, or a watch that looks again later. -/
def look (now : Millis) (b : Bus BusMessage) (w : BusWatch) : Except Bool BusWatch :=
  if w.count ≤ (b.byTopic w.topic).length then .error true
  else if w.deadline ≤ now then .error false
  else .ok { w with due := now + pause }

end BusWatch

/-- What the kernel hands to the bus. -/
inductive Notice (α : Type) where
  | telemetry (message : Telemetry α)
  | health (report : Health)

namespace Notice

def topic {α : Type} : Notice α → String
  | .telemetry _ => "fleet/scooters/telemetry@v1"
  | .health _ => "fleet/kernel/health@v1"

def payload : Notice Float → String
  | .telemetry m => m.toJson.toText
  | .health h => h.toJson.toText

def toMessage (n : Notice Float) : BusMessage := ⟨n.topic, n.payload⟩

end Notice
end ScooterFleet
