import ScooterFleet.Store.Codec

/-!
# The ledger

Orders and snapshots in the order in which they were made.  A new entry takes the number after the one
of the last entry, and the first one takes 1.
-/

namespace ScooterFleet

structure Ledger (α : Type) where
  orders : List (Order α)
  snapshots : List (Snapshot α)
  deriving DecidableEq, Repr

namespace Ledger

variable {α : Type}

def empty : Ledger α := ⟨[], []⟩

/-- The number after the last one in a list. -/
def following (ids : List UInt64) : UInt64 :=
  match ids.getLast? with
  | some id => id + 1
  | none => 1

def nextOrder (l : Ledger α) : OrderId := following (l.orders.map (·.id))

def nextSnapshot (l : Ledger α) : SnapshotId := following (l.snapshots.map (·.id))

def order (l : Ledger α) (time : Timestamp) (request : OrderRequest α) : Order α :=
  { request with id := l.nextOrder, time }

def snapshot (l : Ledger α) (time : Timestamp) (scooter : ScooterId) (position : Position α)
    (battery : α) : Snapshot α :=
  ⟨l.nextSnapshot, scooter, position, battery, time⟩

def addOrder (l : Ledger α) (o : Order α) : Ledger α := { l with orders := l.orders ++ [o] }

def addSnapshot (l : Ledger α) (s : Snapshot α) : Ledger α :=
  { l with snapshots := l.snapshots ++ [s] }

/-! ### The file -/

open Decoder Record

def toJson (l : Ledger Float) : Json :=
  .object [("orders", .list (l.orders.map Order.toJson)),
    ("snapshots", .list (l.snapshots.map Snapshot.toJson))]

def record {σ : Type} [Format σ] : Record σ (Ledger Float) :=
  Ledger.mk
    <$> required "orders" (Decoder.list Order.record.decode)
    <*> required "snapshots" (Decoder.list Snapshot.record.decode)

/-- The text of the ledger's file. -/
def text (l : Ledger Float) : String := l.toJson.toLines

def ofText (s : String) : Except Json.Fault (Ledger Float) :=
  Json.decodeText record.decode s

end Ledger
end ScooterFleet
