import ScooterFleet.Http.MediaType
import ScooterFleet.Http.Route

/-!
# Requests and responses

A response without a body is a refusal by the rules of HTTP; whatever the kernel itself answers has
one.
-/

namespace ScooterFleet
namespace Http

structure Request where
  method : String
  /-- The path, and a query behind it. -/
  target : String
  headers : List (String × String)
  body : String
  deriving DecidableEq, Repr

structure Response where
  status : Nat
  body : Option String
  deriving DecidableEq, Repr

namespace Request

def path (r : Request) : String := Route.pathOf r.target

def lower (s : String) : String := String.ofList (s.toList.map Char.toLower)

/-- The first value of a header; letter case does not count in names. -/
def header? (r : Request) (name : String) : Option String :=
  (r.headers.find? fun h => lower h.1 = name).map (·.2)

/-- A header's value can be read as a text if it holds visible characters, blanks and tabs alone. -/
def isReadable (value : String) : Bool :=
  value.toList.all fun c => (32 ≤ c.toNat && c.toNat < 127) || c = '\t'

def readable? (r : Request) (name : String) : Option String :=
  match r.header? name with
  | some value => if isReadable value then some value else none
  | none => none

/-- Does the request carry the key, where one is needed? -/
def passes (r : Request) (key : Option String) : Bool :=
  match key with
  | none => true
  | some key => Route.isOpen r.path || r.readable? "x-api-key" == some key

def hasJson (r : Request) : Bool :=
  match (r.readable? "content-type").bind MediaType.ofText? with
  | some type => type.isJson
  | none => false

/-- Is `part` somewhere in a text? -/
def holds (part : List Char) : List Char → Bool
  | [] => part.isEmpty
  | c :: cs => part.isPrefixOf (c :: cs) || holds part cs

def headerIs (r : Request) (name value : String) : Bool :=
  match r.header? name with
  | some v => lower v = value
  | none => false

/-- Does the request ask for a websocket in the right way? -/
def wantsSocket (r : Request) : Bool :=
  let connection := match r.header? "connection" with
    | some v => holds "upgrade".toList (lower v).toList
    | none => false
  connection && r.headerIs "upgrade" "websocket" && (r.header? "sec-websocket-key").isSome &&
    r.headerIs "sec-websocket-version" "13"

end Request

namespace Response

def refusal (status : Nat) : Response := ⟨status, none⟩

end Response
end Http
end ScooterFleet
