import ScooterFleet.Decimal.Word
import ScooterFleet.Text.Uuid

/-!
# Routes

What paths stand for.  A path has to be one of the kernel's exactly; a scooter's number in it is looked
at later, so that a route is known before the number is.
-/

namespace ScooterFleet
namespace Http

inductive Route where
  | health
  | systemHealth
  | scooters
  | scooter (segment : String)
  | dispatch (segment : String)
  | stations
  | trips
  | orders
  | live
  | socket
  deriving DecidableEq, Repr

namespace Route

/-- The path without what follows a question mark or a number sign. -/
def pathOf (target : String) : String :=
  String.ofList (target.toList.takeWhile fun c => c ≠ '?' && c ≠ '#')

/-- The parts of a path between slashes. -/
def segments : List Char → List (List Char)
  | [] => [[]]
  | '/' :: cs => [] :: segments cs
  | c :: cs =>
    match segments cs with
    | s :: rest => (c :: s) :: rest
    | [] => [[c]]

def ofPath? (path : String) : Option Route :=
  match (segments path.toList).map String.ofList with
  | ["", "health"] => some .health
  | ["", "system", "health"] => some .systemHealth
  | ["", "scooters"] => some .scooters
  | ["", "scooters", id] => if id.isEmpty then none else some (.scooter id)
  | ["", "scooters", id, "dispatch"] => if id.isEmpty then none else some (.dispatch id)
  | ["", "stations"] => some .stations
  | ["", "trips"] => some .trips
  | ["", "orders"] => some .orders
  | ["", "live"] => some .live
  | ["", "devices", "ws"] => some .socket
  | _ => none

/-- Is the route for requests that change something? -/
def isCommand : Route → Bool
  | .trips => true
  | .dispatch _ => true
  | _ => false

/-- Paths that need no key. -/
def isOpen (path : String) : Bool := path = "/health" || path = "/live" || path = "/devices/ws"

/-! ### Numbers in paths -/

/-- Escapes of two hexadecimal digits behind a percent sign stand for bytes; only those of ASCII
characters can be part of a number. -/
def unescape : List Char → List Char
  | '%' :: a :: b :: cs =>
    match Uuid.hexValue? a, Uuid.hexValue? b with
    | some a, some b => Char.ofNat (16 * a + b) :: unescape cs
    | _, _ => '%' :: unescape (a :: b :: cs)
  | c :: cs => c :: unescape cs
  | [] => []
termination_by cs => cs.length

def id? (segment : String) : Option UInt64 := wordOfChars? (unescape segment.toList)

end Route
end Http
end ScooterFleet
