import ScooterFleet.Kernel.Rental

/-!
# The records of scooters

What calls of the store do to the records of scooters: all but one leave them, whatever mishaps there
are, and an update writes one of them or none.

* `OnlyReads` — the calls that leave everything but their own count;
* `scooters_of_call` — a call that only reads, or only writes to the ledger;
* `written?` / `scooters_updateScooter` — what an update writes, also where it fails behind the write.
-/

namespace ScooterFleet
namespace Store

variable {α β : Type}

/-- A store but for its count of calls. -/
def contents (s : Store α) : Store α := { s with calls := ∅ }

theorem scooters_of_contents {s s' : Store α} (h : s'.contents = s.contents) :
    s'.scooters = s.scooters := by
  show s'.contents.scooters = s.contents.scooters
  rw [h]

theorem ledger_of_contents {s s' : Store α} (h : s'.contents = s.contents) :
    s'.ledger = s.ledger := by
  show s'.contents.ledger = s.contents.ledger
  rw [h]

/-- What neither a count nor an operation changes, the counted operation leaves. -/
theorem view_perform {γ : Type} {view : Store α → γ} {call : StoreCall} {op : Op α β}
    (hcount : ∀ s, view (s.count call) = view s) (h : ∀ s, view (op s).2 = view s) (s : Store α) :
    view (perform call op s).2 = view s := by
  unfold perform
  split
  · exact hcount s
  · exact (h _).trans (hcount s)
  · exact (h _).trans (hcount s)

/-- The calls that leave everything but the count of calls. -/
def OnlyReads (op : Op α β) : Prop := ∀ s, (op s).2.contents = s.contents

theorem onlyReads_getScooter (id : ScooterId) : OnlyReads (getScooter id : Op α _) := by
  refine view_perform (fun _ => rfl) fun s => ?_
  split <;> rfl

theorem onlyReads_getStation (id : StationId) : OnlyReads (getStation id : Op α _) := by
  refine view_perform (fun _ => rfl) fun s => ?_
  split <;> rfl

theorem onlyReads_listScooters : OnlyReads (listScooters : Op α _) :=
  view_perform (fun _ => rfl) fun _ => rfl

/-- The calls that leave the records of scooters. -/
def KeepsRecords (op : Op α β) : Prop := ∀ s, (op s).2.scooters = s.scooters

theorem OnlyReads.keepsRecords {op : Op α β} (h : OnlyReads op) : KeepsRecords op :=
  fun s => scooters_of_contents (h s)

theorem keepsRecords_perform {call : StoreCall} {op : Op α β} (h : KeepsRecords op) :
    KeepsRecords (perform call op) :=
  view_perform (fun _ => rfl) h

theorem keepsRecords_recordSnapshot (time : Timestamp) (scooter : ScooterId) (position : Position α)
    (battery : α) : KeepsRecords (recordSnapshot time scooter position battery) :=
  keepsRecords_perform fun _ => rfl

theorem keepsRecords_createOrder (time : Timestamp) (request : OrderRequest α) :
    KeepsRecords (createOrder time request) :=
  keepsRecords_perform fun _ => rfl

/-- A call that succeeds was carried out, and had no mishap. -/
theorem perform_eq_ok {call : StoreCall} {op : Op α β} {s s' : Store α} {value : β}
    (h : perform call op s = (.ok value, s')) :
    s.mishap? call = none ∧ op (s.count call) = (.ok value, s') := by
  unfold perform at h
  cases hm : s.mishap? call with
  | none =>
    rw [hm] at h
    exact ⟨rfl, h⟩
  | some mishap =>
    rw [hm] at h
    cases mishap <;> cases h

/-- A record that was read is the one that is there. -/
theorem record_of_getScooter {s s' : Store α} {id : ScooterId} {record : Scooter α}
    (h : getScooter id s = (.ok record, s')) : s.scooters.get? id = some record := by
  obtain ⟨-, h⟩ := perform_eq_ok h
  have hkeep : (s.count .getScooter).scooters = s.scooters := rfl
  rw [hkeep] at h
  cases hr : s.scooters.get? id with
  | none =>
    rw [hr] at h
    cases h
  | some found =>
    rw [hr] at h
    cases h
    rfl

/-- A snapshot says what it was asked to say. -/
theorem snapshot_of_recordSnapshot {s s' : Store α} {time : Timestamp} {scooter : ScooterId}
    {position : Position α} {battery : α} {snapshot : Snapshot α}
    (h : recordSnapshot time scooter position battery s = (.ok snapshot, s')) :
    snapshot.scooter = scooter ∧ snapshot.battery = battery := by
  obtain ⟨-, h⟩ := perform_eq_ok h
  cases h
  exact ⟨rfl, rfl⟩

variable [Coordinate α]

/-- What an update writes: nothing, if it is refused or there is no such scooter. -/
def written? (s : Store α) (id : ScooterId) (update : StatusUpdate α) : Option (Scooter α) :=
  match s.mishap? .updateScooter with
  | some (.refused _) => none
  | _ => (s.scooters.get? id).map (·.update update)

theorem scooters_updateScooter (s : Store α) (id : ScooterId) (update : StatusUpdate α) :
    (updateScooter id update s).2.scooters =
      match s.written? id update with
      | some record => s.scooters.insert id record
      | none => s.scooters := by
  have hkeep : (s.count .updateScooter).scooters = s.scooters := rfl
  unfold updateScooter perform written?
  cases s.mishap? .updateScooter with
  | none => cases hr : s.scooters.get? id <;> simp [hkeep, hr]
  | some mishap =>
    cases mishap with
    | refused fault => rfl
    | unsaved fault => cases hr : s.scooters.get? id <;> simp [hkeep, hr]

/-- An update that succeeds writes what it gives. -/
theorem written?_of_updateScooter {s s' : Store α} {id : ScooterId} {update : StatusUpdate α}
    {record : Scooter α} (h : updateScooter id update s = (.ok record, s')) :
    s.written? id update = some record := by
  obtain ⟨hm, h⟩ := perform_eq_ok h
  have hkeep : (s.count .updateScooter).scooters = s.scooters := rfl
  rw [hkeep] at h
  unfold written?
  rw [hm]
  cases hr : s.scooters.get? id with
  | none =>
    rw [hr] at h
    cases h
  | some found =>
    rw [hr] at h
    cases h
    rfl

/-- The battery is kept between 0 and 100. -/
theorem battery_of_written? {s : Store α} {id : ScooterId} {update : StatusUpdate α}
    {record : Scooter α} (h : s.written? id update = some record) :
    record.battery =
      Coordinate.clamp Coordinate.zero (Coordinate.ofNat 100) update.battery := by
  unfold written? at h
  split at h
  · cases h
  · obtain ⟨found, -, rfl⟩ := Option.map_eq_some_iff.mp h
    rfl

end Store

namespace Kernel

variable {α β : Type} {k k' : Kernel α} {op : Store.Op α β} {result : Except StoreFault β}

theorem registry_of_call (h : k.call op = (result, k')) : k'.registry = k.registry := by
  cases h
  rfl

theorem store_of_call (h : k.call op = (result, k')) : op k.store = (result, k'.store) := by
  cases h
  rfl

theorem contents_of_call (h : k.call op = (result, k')) (hop : Store.OnlyReads op) :
    k'.store.contents = k.store.contents := by
  cases h
  exact hop k.store

theorem scooters_of_call (h : k.call op = (result, k')) (hop : Store.KeepsRecords op) :
    k'.store.scooters = k.store.scooters := by
  cases h
  exact hop k.store

end Kernel
end ScooterFleet
