import ScooterFleet.Store.Fleet

/-!
# The ledger on disk

An archive is a store whose ledger is saved to the file `orders.json` of a data directory.  An entry
is appended to the ledger, the ledger is written out as a text, and the text replaces the file: three
steps, between which other calls may make theirs.  `Saving.step` is one of them; `Archive.add` is a
call with nothing in between.

Loading replaces the ledger by the one of the file, if there is a file.
-/

namespace ScooterFleet

structure Directory where
  present : Bool
  file : Option String
  deriving DecidableEq, Repr

namespace Directory

def empty : Directory := ⟨true, none⟩

/-- Replaces the file; fails where the directory is missing. -/
def write (d : Directory) (text : String) : Except StoreFault Directory :=
  if d.present then .ok { d with file := some text } else .error .noDirectory

def remove (_ : Directory) : Directory := ⟨false, none⟩

def make (d : Directory) : Directory := { d with present := true }

end Directory

structure Archive where
  store : Store Float
  /-- Is the ledger saved at all? -/
  persistent : Bool
  directory : Directory

/-- What a call adds to the ledger. -/
inductive Draft where
  | order (request : OrderRequest Float)
  | snapshot (scooter : ScooterId) (position : Position Float) (battery : Float)

/-- What was added. -/
inductive Entry where
  | order (order : Order Float)
  | snapshot (snapshot : Snapshot Float)

/-- The states of a call that adds to the ledger. -/
inductive Saving where
  | appending (draft : Draft)
  | rendering (entry : Entry)
  | writing (entry : Entry) (text : String)
  | finished (result : Except StoreFault Entry)

namespace Archive

/-- An archive over an empty ledger. -/
def opened (store : Store Float) (persistent : Bool) (directory : Directory) : Archive :=
  ⟨store, persistent, directory⟩

def call {β : Type} (a : Archive) (op : Store.Op Float β) : Except StoreFault β × Archive :=
  let (result, store) := op a.store
  (result, { a with store })

/-- Appends to the ledger in memory. -/
def append (time : Timestamp) (a : Archive) : Draft → Except StoreFault Entry × Archive
  | .order request =>
    let (result, a) := a.call (Store.createOrder time request)
    (result.map .order, a)
  | .snapshot scooter position battery =>
    let (result, a) := a.call (Store.recordSnapshot time scooter position battery)
    (result.map .snapshot, a)

end Archive

namespace Saving

/-- One atomic step; none once the call is finished. -/
def step (time : Timestamp) (a : Archive) : Saving → Option (Saving × Archive)
  | .appending draft =>
    match a.append time draft with
    | (.error fault, a) => some (.finished (.error fault), a)
    | (.ok entry, a) =>
      some (if a.persistent then .rendering entry else .finished (.ok entry), a)
  | .rendering entry => some (.writing entry a.store.ledger.text, a)
  | .writing entry text =>
    match a.directory.write text with
    | .ok directory => some (.finished (.ok entry), { a with directory })
    | .error fault => some (.finished (.error fault), a)
  | .finished _ => none

/-- At most `fuel` steps. -/
def run (time : Timestamp) (a : Archive) : Nat → Saving → Saving × Archive
  | 0, s => (s, a)
  | fuel + 1, s =>
    match s.step time a with
    | some (s, a) => run time a fuel s
    | none => (s, a)

end Saving

namespace Archive

/-- The number of steps of one call. -/
def stepsOfCall : Nat := 3

/-- Adds to the ledger, with no other call in between.  An entry that could not be saved stays in the
ledger. -/
def add (time : Timestamp) (a : Archive) (draft : Draft) : Except StoreFault Entry × Archive :=
  match (Saving.appending draft).run time a stepsOfCall with
  | (.finished result, a) => (result, a)
  | (_, a) => (.error .noDirectory, a)

/-- Reads the file, and gives the number of orders in it; nothing is read where there is no file. -/
def load (a : Archive) : Except StoreFault Nat × Archive :=
  if !a.persistent then (.ok 0, a)
  else match a.directory.file with
    | none => (.ok 0, a)
    | some text =>
      match Ledger.ofText text with
      | .error fault => (.error (.encoding fault), a)
      | .ok ledger => (.ok ledger.orders.length, { a with store := { a.store with ledger } })

end Archive
end ScooterFleet
