import ScooterFleet.Proofs.Fleet.Run

/-!
# The steps of a rental

What one step of a rental can do, said once: which phase follows which, what the rental calls, what is
noted of it, and what becomes of the records.

* `Rental.Stride` — every step, from phase to phase;
* `stride_of_step` — **there are no others**.
-/

namespace ScooterFleet

variable {α : Type}

/-- The records after an entry. -/
def Note.write (records : Table ScooterId (Scooter α)) : Note α → Table ScooterId (Scooter α)
  | .docked _ id record => records.insert id record
  | _ => records

/-- The records after a journal. -/
def Note.writeAll (records : Table ScooterId (Scooter α)) (journal : List (Note α)) :
    Table ScooterId (Scooter α) :=
  journal.foldl Note.write records

namespace Rental

open Registry

variable [Coordinate α]

/-- A step of the rental `id` with its request `q`: from a phase to a phase, with calls of the registry
and notes in the journal. -/
inductive Stride (id : TaskId) (m : Moment) (k : Kernel α) (q : RentalRequest) :
    Phase α → Phase α → List (Call α) → List (Note α) → Prop
  /-- A call of the store failed, at a time when the rental holds no ticket. -/
  | failed {p : Phase α} {fault : StoreFault} (free : (⟨q, p⟩ : Rental α).ticket? = none) :
      Stride id m k q p (.finished (.error (.store fault))) [] []
  | unrentable {record : Scooter α} {fault : RentalFault α}
      (read : k.store.scooters.get? q.scooter = some record) :
      Stride id m k q .checking (.finished (.error fault)) [] [.checked id q.scooter record]
  | checked {record : Scooter α} (read : k.store.scooters.get? q.scooter = some record)
      (rentable : record.isRentable = true) :
      Stride id m k q .checking (.locating record) [] [.checked id q.scooter record]
  | located {scooter : Scooter α} {station : Station α} :
      Stride id m k q (.locating scooter) (.claiming scooter station) [] []
  | claimed {scooter : Scooter α} {station : Station α} :
      Stride id m k q (.claiming scooter station)
        (.observing scooter station ⟨q.scooter, m.fresh⟩) [.begin q.scooter m.fresh]
        [.claimed id ⟨q.scooter, m.fresh⟩]
  | refused {scooter : Scooter α} {station : Station α} {fault : RentalFault α} :
      Stride id m k q (.claiming scooter station) (.finished (.error fault)) [] []
  | observed {scooter : Scooter α} {station : Station α} {ticket : Ticket} {origin : Position α} :
      Stride id m k q (.observing scooter station ticket)
        (.opening ⟨scooter, station, ticket, origin⟩) [] []
  | opened {d : Departure α} {snapshot : Snapshot α} (scooter : snapshot.scooter = q.scooter)
      (battery : snapshot.battery = d.scooter.battery) :
      Stride id m k q (.opening d) (.dispatching d snapshot.id) [] [.opened id d snapshot]
  | unopened {d : Departure α} {fault : RentalFault α} :
      Stride id m k q (.opening d) (.releasing d.ticket fault) [] []
  | dispatched {d : Departure α} {start : SnapshotId} {wait : Wait} :
      Stride id m k q (.dispatching d start) (.waiting d start wait)
        [.dispatch q.scooter d.station.position (some d.ticket.trip)] [.dispatched id d]
  | undispatched {d : Departure α} {start : SnapshotId} {fault : RentalFault α} :
      Stride id m k q (.dispatching d start) (.releasing d.ticket fault) [] []
  | listened {d : Departure α} {start : SnapshotId} {wait wait' : Wait} :
      Stride id m k q (.waiting d start wait) (.waiting d start wait') [] []
  | returned {d : Departure α} {start : SnapshotId} {wait : Wait} {a : Arrival α}
      {resolution : Resolution α}
      (resolved : k.registry.resolutions.get? d.ticket.trip = some resolution) :
      Stride id m k q (.waiting d start wait) (.closing d start a) [] []
  | gaveUp {d : Departure α} {start : SnapshotId} {wait : Wait} {a : Arrival α} :
      Stride id m k q (.waiting d start wait) (.closing d start a) [.abandon d.ticket] []
  | closed {d : Departure α} {start finish : SnapshotId} {a : Arrival α} :
      Stride id m k q (.closing d start a) (.docking d start finish a) [] []
  | docked {d : Departure α} {start finish : SnapshotId} {a : Arrival α} {record : Scooter α} :
      Stride id m k q (.docking d start finish a) (.ordering d start finish a) []
        [.docked id q.scooter record]
  /-- The record was written, but not saved. -/
  | unsaved {d : Departure α} {start finish : SnapshotId} {a : Arrival α} {record : Scooter α}
      {fault : StoreFault} :
      Stride id m k q (.docking d start finish a) (.finished (.error (.store fault))) []
        [.docked id q.scooter record]
  | ordered {d : Departure α} {start finish : SnapshotId} {a : Arrival α} {trip : Trip α} :
      Stride id m k q (.ordering d start finish a) (.finished (.ok trip)) [] []
  | released {t : Ticket} {fault : RentalFault α} :
      Stride id m k q (.releasing t fault) (.finished (.error fault)) [.abandon t] []

/-- A step, and what it leaves of the kernel. -/
structure Strides (id : TaskId) (m : Moment) (k : Kernel α) (q : RentalRequest) (p p' : Phase α)
    (calls : List (Call α)) (es : List (Note α)) (k' : Kernel α) : Prop where
  stride : Stride id m k q p p' calls es
  registry : k'.registry = k.registry.run calls
  records : k'.store.scooters = Note.writeAll k.store.scooters es

variable {id : TaskId} {m : Moment} {terms : RentalTerms α} {k k' : Kernel α} {r r' : Rental α}

/-- A step that only calls the store. -/
theorem strides_of_call {β : Type} {op : Store.Op α β} {result : Except StoreFault β}
    {q : RentalRequest} {p p' : Phase α} {es : List (Note α)} (h : k.call op = (result, k'))
    (hop : Store.KeepsRecords op) (hes : Note.writeAll k.store.scooters es = k.store.scooters)
    (hs : Stride id m k q p p' [] es) : Strides id m k q p p' [] es k' :=
  ⟨hs, Kernel.registry_of_call h, (Kernel.scooters_of_call h hop).trans hes.symm⟩

theorem strides_of_wake {d : Departure α} {start : SnapshotId} {wait : Wait} {c : Wait.Choice}
    (hp : r.phase = .waiting d start wait) (h : r.step m terms k (.wake c) = some (r', k')) :
    ∃ calls, Strides id m k r.request r.phase r'.phase calls [] k' := by
  simp only [step, hp] at h ⊢
  split at h
  · cases h
  · next wait' registry hwake =>
    cases h
    rcases Wait.step_cases hwake with ⟨_, -, -, -, hp⟩ | ⟨_, -, rfl, -⟩ | ⟨-, -, -, hp⟩
    · cases hp
    · exact ⟨[], .listened, rfl, rfl⟩
    · cases hp
  · next signal registry hwake =>
    cases h
    rcases Wait.step_cases hwake with ⟨_, -, hr, rfl, -⟩ | ⟨_, -, -, hp⟩ | ⟨-, -, rfl, -⟩
    · exact ⟨[], .returned hr, rfl, rfl⟩
    · cases hp
    · exact ⟨[.abandon d.ticket], .gaveUp, rfl, rfl⟩

section Proceed

variable {q : RentalRequest} {p' : Phase α} {d : Departure α} {start finish : SnapshotId}

theorem strides_of_checking (id : TaskId) (h : advance m terms k q .checking = some (p', k')) :
    ∃ calls, Strides id m k q .checking p' calls (notes id m k ⟨q, .checking⟩ .proceed) k' := by
  have hkeep := (@Store.onlyReads_getScooter α q.scooter).keepsRecords
  simp only [advance] at h
  split at h
  · next fault k₁ hcall =>
    cases h
    simp only [notes, hcall]
    exact ⟨[], strides_of_call hcall hkeep rfl (.failed rfl)⟩
  · next record k₁ hcall =>
    have hread := Store.record_of_getScooter (Kernel.store_of_call hcall)
    simp only [notes, hcall]
    split at h
    · next hrentable =>
      cases h
      exact ⟨[], strides_of_call hcall hkeep rfl (.checked hread hrentable)⟩
    · cases h
      exact ⟨[], strides_of_call hcall hkeep rfl (.unrentable hread)⟩

theorem strides_of_claiming (id : TaskId) {scooter : Scooter α} {station : Station α}
    (h : advance m terms k q (.claiming scooter station) = some (p', k')) :
    ∃ calls, Strides id m k q (.claiming scooter station) p' calls
      (notes id m k ⟨q, .claiming scooter station⟩ .proceed) k' := by
  simp only [advance] at h
  split at h
  · next fault hbegin =>
    cases h
    simp only [notes, hbegin]
    exact ⟨[], .refused, rfl, rfl⟩
  · next ticket registry hbegin =>
    cases h
    have hticket : ticket = ⟨q.scooter, m.fresh⟩ := by
      unfold begin at hbegin
      grind
    subst hticket
    simp only [notes, hbegin]
    refine ⟨[.begin q.scooter m.fresh], .claimed, ?_, rfl⟩
    simp only [run_cons, run_nil, perform, hbegin]

theorem strides_of_opening (id : TaskId) (h : advance m terms k q (.opening d) = some (p', k')) :
    ∃ calls, Strides id m k q (.opening d) p' calls (notes id m k ⟨q, .opening d⟩ .proceed) k' := by
  have hkeep := Store.keepsRecords_recordSnapshot m.wall q.scooter d.origin d.scooter.battery
  simp only [advance] at h
  split at h
  · next fault k₁ hcall =>
    cases h
    simp only [notes, hcall]
    exact ⟨[], strides_of_call hcall hkeep rfl .unopened⟩
  · next snapshot k₁ hcall =>
    cases h
    obtain ⟨hscooter, hbattery⟩ := Store.snapshot_of_recordSnapshot (Kernel.store_of_call hcall)
    simp only [notes, hcall]
    exact ⟨[], strides_of_call hcall hkeep rfl (.opened hscooter hbattery)⟩

theorem strides_of_dispatching (id : TaskId)
    (h : advance m terms k q (.dispatching d start) = some (p', k')) :
    ∃ calls, Strides id m k q (.dispatching d start) p' calls
      (notes id m k ⟨q, .dispatching d start⟩ .proceed) k' := by
  simp only [advance] at h
  split at h
  · next fault hdispatch =>
    cases h
    simp only [notes, hdispatch]
    exact ⟨[], .undispatched, rfl, rfl⟩
  · next registry hdispatch =>
    cases h
    simp only [notes, hdispatch]
    refine ⟨[.dispatch q.scooter d.station.position (some d.ticket.trip)], .dispatched, ?_, rfl⟩
    simp only [run_cons, run_nil, perform, hdispatch]

/-- The record may have been written even where the update fails. -/
theorem strides_of_docking (id : TaskId) {a : Arrival α}
    (h : advance m terms k q (.docking d start finish a) = some (p', k')) :
    ∃ calls, Strides id m k q (.docking d start finish a) p' calls
      (notes id m k ⟨q, .docking d start finish a⟩ .proceed) k' := by
  have hwrites := Store.scooters_updateScooter k.store q.scooter (statusUpdate d a)
  simp only [advance] at h
  split at h
  · next fault k₁ hcall =>
    cases h
    rw [Kernel.store_of_call hcall] at hwrites
    simp only [notes]
    cases hw : k.store.written? q.scooter (statusUpdate d a) with
    | none =>
      rw [hw] at hwrites
      exact ⟨[], .failed rfl, Kernel.registry_of_call hcall, hwrites⟩
    | some record =>
      rw [hw] at hwrites
      exact ⟨[], .unsaved, Kernel.registry_of_call hcall, hwrites⟩
  · next record k₁ hcall =>
    cases h
    have hw := Store.written?_of_updateScooter (Kernel.store_of_call hcall)
    rw [Kernel.store_of_call hcall, hw] at hwrites
    simp only [notes, hw]
    exact ⟨[], .docked, Kernel.registry_of_call hcall, hwrites⟩

theorem strides_of_advance (id : TaskId) {p : Phase α} (h : advance m terms k q p = some (p', k')) :
    ∃ calls, Strides id m k q p p' calls (notes id m k ⟨q, p⟩ .proceed) k' := by
  cases p with
  | checking => exact strides_of_checking id h
  | claiming scooter station => exact strides_of_claiming id h
  | opening d => exact strides_of_opening id h
  | dispatching d start => exact strides_of_dispatching id h
  | docking d start finish a => exact strides_of_docking id h
  | locating scooter =>
    simp only [advance] at h
    have hkeep := (@Store.onlyReads_getStation α q.station).keepsRecords
    split at h
    · next fault k₁ hcall =>
      cases h
      exact ⟨[], strides_of_call hcall hkeep rfl (.failed rfl)⟩
    · next station k₁ hcall =>
      cases h
      exact ⟨[], strides_of_call hcall hkeep rfl .located⟩
  | observing scooter station ticket =>
    cases h
    exact ⟨[], .observed, rfl, rfl⟩
  | waiting d start wait => cases h
  | closing d start a =>
    simp only [advance] at h
    have hkeep := Store.keepsRecords_recordSnapshot m.wall q.scooter a.position a.battery
    split at h
    · next fault k₁ hcall =>
      cases h
      exact ⟨[], strides_of_call hcall hkeep rfl (.failed rfl)⟩
    · next snapshot k₁ hcall =>
      cases h
      exact ⟨[], strides_of_call hcall hkeep rfl .closed⟩
  | ordering d start finish a =>
    simp only [advance] at h
    have hkeep := Store.keepsRecords_createOrder m.wall (orderRequest q d start finish a)
    split at h
    · next fault k₁ hcall =>
      cases h
      exact ⟨[], strides_of_call hcall hkeep rfl (.failed rfl)⟩
    · next order k₁ hcall =>
      cases h
      exact ⟨[], strides_of_call hcall hkeep rfl .ordered⟩
  | releasing ticket fault =>
    cases h
    exact ⟨[.abandon ticket], .released, rfl, rfl⟩
  | finished result => cases h

end Proceed

/-- **Every step of a rental is a stride.** -/
theorem stride_of_step (id : TaskId) {c : Choice} (h : r.step m terms k c = some (r', k')) :
    r'.request = r.request ∧
      ∃ calls, Strides id m k r.request r.phase r'.phase calls (r.notes id m k c) k' := by
  cases c with
  | wake c =>
    have hwait : ∃ d start wait, r.phase = .waiting d start wait := by
      simp only [step] at h
      split at h
      · next d start wait hp => exact ⟨d, start, wait, hp⟩
      · cases h
    obtain ⟨d, start, wait, hp⟩ := hwait
    refine ⟨?_, strides_of_wake hp h⟩
    simp only [step, hp] at h
    split at h <;> cases h <;> rfl
  | proceed =>
    simp only [step, Option.map_eq_some_iff, Prod.exists] at h
    obtain ⟨p', k₁, hadvance, h⟩ := h
    cases h
    exact ⟨rfl, strides_of_advance id hadvance⟩

end Rental
end ScooterFleet
