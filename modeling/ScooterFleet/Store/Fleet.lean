import ScooterFleet.Store.Ledger
import ScooterFleet.Table

/-!
# The store

Scooters, stations and the ledger, in memory.  Every call may fail for reasons of its own (what is
asked for is not there) or because of a mishap: the plan of mishaps says which of the calls of each
kind fail and how.  A mishap before the call changes nothing; a mishap in saving leaves the new entry
in the ledger.

A call is one atomic step.
-/

namespace ScooterFleet

inductive StoreFault where
  | scooterNotFound (id : ScooterId)
  | stationNotFound (id : StationId)
  /-- Reading or writing failed. -/
  | device (detail : String)
  /-- The data directory is missing. -/
  | noDirectory
  /-- The ledger's file cannot be read. -/
  | encoding (fault : Json.Fault)
  deriving DecidableEq, Repr

def StoreFault.message : StoreFault → String
  | .scooterNotFound id => "scooter " ++ toString id.toNat ++ " not found"
  | .stationNotFound id => "station " ++ toString id.toNat ++ " not found"
  | .device detail => "storage io: " ++ detail
  | .noDirectory => "storage io: No such file or directory (os error 2)"
  | .encoding _ => "storage encoding: unreadable ledger"

/-- The kinds of calls. -/
inductive StoreCall where
  | getScooter
  | listScooters
  | getStation
  | listStations
  | updateScooter
  | createOrder
  | listOrders
  | recordSnapshot
  deriving DecidableEq, Repr

inductive Mishap where
  /-- The call is not carried out. -/
  | refused (fault : StoreFault)
  /-- The call is carried out, but what it wrote could not be saved. -/
  | unsaved (fault : StoreFault)
  deriving DecidableEq, Repr

/-- The mishap of each call: calls of one kind are counted from one. -/
abbrev Mishaps := StoreCall → Nat → Option Mishap

structure Store (α : Type) where
  scooters : Table ScooterId (Scooter α)
  stations : Table StationId (Station α)
  ledger : Ledger α
  mishaps : Mishaps
  /-- The calls so far. -/
  calls : Table StoreCall Nat

namespace Store

variable {α : Type}

/-- A store with its first scooters and stations; of two with one number the later one counts. -/
def seeded (scooters : List (Scooter α)) (stations : List (Station α)) : Store α where
  scooters := .ofList (scooters.map fun s => (s.id, s))
  stations := .ofList (stations.map fun s => (s.id, s))
  ledger := .empty
  mishaps _ _ := none
  calls := ∅

/-- A call gives a value or fails, and leaves a store. -/
abbrev Op (α β : Type) := Store α → Except StoreFault β × Store α

def callCount (s : Store α) (call : StoreCall) : Nat := (s.calls.get? call).getD 0

def count (s : Store α) (call : StoreCall) : Store α :=
  { s with calls := s.calls.insert call (s.callCount call + 1) }

/-- The mishap of the next call of a kind. -/
def mishap? (s : Store α) (call : StoreCall) : Option Mishap :=
  s.mishaps call (s.callCount call + 1)

/-- A counted call. -/
def perform {β : Type} (call : StoreCall) (op : Op α β) : Op α β := fun s =>
  match s.mishap? call with
  | some (.refused fault) => (.error fault, s.count call)
  | some (.unsaved fault) => (.error fault, (op (s.count call)).2)
  | none => op (s.count call)

def getScooter (id : ScooterId) : Op α (Scooter α) := perform .getScooter fun s =>
  match s.scooters.get? id with
  | some scooter => (.ok scooter, s)
  | none => (.error (.scooterNotFound id), s)

/-- In ascending order of their numbers. -/
def scooterList (s : Store α) : List (Scooter α) :=
  s.scooters.values.mergeSort fun a b => decide (a.id ≤ b.id)

def stationList (s : Store α) : List (Station α) :=
  s.stations.values.mergeSort fun a b => decide (a.id ≤ b.id)

def listScooters : Op α (List (Scooter α)) := perform .listScooters fun s => (.ok s.scooterList, s)

def getStation (id : StationId) : Op α (Station α) := perform .getStation fun s =>
  match s.stations.get? id with
  | some station => (.ok station, s)
  | none => (.error (.stationNotFound id), s)

def listStations : Op α (List (Station α)) := perform .listStations fun s => (.ok s.stationList, s)

def updateScooter [Coordinate α] (id : ScooterId) (update : StatusUpdate α) : Op α (Scooter α) :=
  perform .updateScooter fun s =>
    match s.scooters.get? id with
    | some scooter =>
      let scooter := scooter.update update
      (.ok scooter, { s with scooters := s.scooters.insert id scooter })
    | none => (.error (.scooterNotFound id), s)

def createOrder (time : Timestamp) (request : OrderRequest α) : Op α (Order α) :=
  perform .createOrder fun s =>
    let order := s.ledger.order time request
    (.ok order, { s with ledger := s.ledger.addOrder order })

def listOrders : Op α (List (Order α)) := perform .listOrders fun s => (.ok s.ledger.orders, s)

def recordSnapshot (time : Timestamp) (scooter : ScooterId) (position : Position α) (battery : α) :
    Op α (Snapshot α) :=
  perform .recordSnapshot fun s =>
    let snapshot := s.ledger.snapshot time scooter position battery
    (.ok snapshot, { s with ledger := s.ledger.addSnapshot snapshot })

end Store
end ScooterFleet
