import ScooterFleet.Proofs.Fleet.Rentals

/-!
# The status that a trip goes by

A rental reads its scooter's record before it claims the slot for trips, and writes it after the report
has freed the slot.  So another rental can come in between at both ends, and the slot alone does not put
trips in a row.

* `Recorded` / `recorded_run` — the store has what was written last, and a check reads just that;
* `Precedes` — who held the slot right before;
* `HandsOver` — every trip goes by the status that the trip before it wrote;
* `IsSerial` — every trip has written its status before the next one is checked;
* `status_handed_over_iff` — **the first is the case exactly if the second is**, in every run;
* `status_overtaken` — a run in which it is not the case, and both trips are closed all the same.
-/

namespace ScooterFleet

variable {α : Type}

/-! ### What was written last -/

namespace Note

theorem writeAll_append (records : Table ScooterId (Scooter α)) (journal es : List (Note α)) :
    writeAll records (journal ++ es) = writeAll (writeAll records journal) es :=
  List.foldl_append

/-- What docks nothing writes nothing. -/
theorem writeAll_of_undocked {es : List (Note α)} (h : ∀ id k record, .docked id k record ∉ es)
    (records : Table ScooterId (Scooter α)) : writeAll records es = records := by
  induction es with
  | nil => rfl
  | cons e es ih =>
    have hwrite : e.write records = records := by
      cases e with
      | docked id k record => exact absurd (List.mem_cons_self ..) (h id k record)
      | _ => rfl
    show writeAll (e.write records) es = records
    rw [hwrite]
    exact ih fun id k record hmem => h id k record (List.mem_cons_of_mem _ hmem)

/-- What is no part of a rental's story writes nothing. -/
theorem writeAll_of_aside {es : List (Note α)} (h : ∀ e ∈ es, e.chapter? = none)
    (records : Table ScooterId (Scooter α)) : writeAll records es = records := by
  refine writeAll_of_undocked (fun id k record hmem => ?_) records
  cases h _ hmem

/-- The record of a scooter is the one that was written last. -/
theorem get?_writeAll_of_last {journal : List (Note α)} {records : Table ScooterId (Scooter α)}
    {k : ScooterId} {a : TaskId} {record : Scooter α} {d : Nat}
    (h : journal[d]? = some (.docked a k record))
    (last : ∀ m, d < m → ∀ r other, journal[m]? ≠ some (.docked r k other)) :
    (writeAll records journal).get? k = some record := by
  induction journal using List.reverseRecOn with
  | nil => cases h
  | append_singleton journal e ih =>
    rw [writeAll_append]
    show (e.write (writeAll records journal)).get? k = some record
    have hlength : d < (journal ++ [e]).length := (List.getElem?_eq_some_iff.mp h).1
    rw [List.length_append, List.length_singleton] at hlength
    rcases Nat.lt_or_ge d journal.length with hd | hd
    · rw [List.getElem?_append_left hd] at h
      have hearlier := ih h fun m hm r other he => by
        have hlt : m < journal.length := (List.getElem?_eq_some_iff.mp he).1
        exact last m hm r other (by rw [List.getElem?_append_left hlt]; exact he)
      have hother : ∀ r other, e ≠ .docked r k other := by
        intro r other he
        subst he
        exact last journal.length hd r other List.getElem?_concat_length
      cases e with
      | docked r k' other =>
        show ((writeAll records journal).insert k' other).get? k = some record
        rw [Table.get?_insert, if_neg]
        · exact hearlier
        · intro he
          subst he
          exact hother r other rfl
      | _ => exact hearlier
    · have hd : d = journal.length := by omega
      subst hd
      rw [List.getElem?_concat_length] at h
      cases h
      exact Table.get?_insert_self ..

/-- Every check of this journal reads what was written last before it. -/
def Reads (records : Table ScooterId (Scooter α)) (journal : List (Note α)) : Prop :=
  ∀ (c : Nat) b k record, journal[c]? = some (.checked b k record) →
    (writeAll records (journal.take c)).get? k = some record

theorem Reads.append {records : Table ScooterId (Scooter α)} {journal es : List (Note α)}
    (h : Reads records journal) (hes : Reads (writeAll records journal) es) :
    Reads records (journal ++ es) := by
  intro c b k record hc
  rcases Nat.lt_or_ge c journal.length with hlt | hge
  · rw [List.getElem?_append_left hlt] at hc
    rw [List.take_append_of_le_length (Nat.le_of_lt hlt)]
    exact h c b k record hc
  · rw [List.getElem?_append_right hge] at hc
    rw [List.take_append, List.take_of_length_le hge, writeAll_append]
    exact hes (c - journal.length) b k record hc

theorem reads_of_aside {es : List (Note α)} (h : ∀ e ∈ es, e.chapter? = none)
    (records : Table ScooterId (Scooter α)) : Reads records es := by
  intro c b k record hc
  cases h _ (List.mem_of_getElem? hc)

end Note

/-- The store has what was written last, and so it was at every check. -/
structure Recorded (records : Table ScooterId (Scooter α)) (journal : List (Note α))
    (s : System α) : Prop where
  stored : s.kernel.store.scooters = Note.writeAll records journal
  reads : Note.Reads records journal

namespace Recorded

variable {records : Table ScooterId (Scooter α)} {journal es : List (Note α)} {s s' : System α}

theorem append (h : Recorded records journal s)
    (stored : s'.kernel.store.scooters = Note.writeAll s.kernel.store.scooters es)
    (reads : Note.Reads s.kernel.store.scooters es) : Recorded records (journal ++ es) s' where
  stored := by
    rw [stored, h.stored, Note.writeAll_append]
  reads := by
    rw [h.stored] at reads
    exact h.reads.append reads

/-- What is no step of a rental leaves the records. -/
theorem aside (h : Recorded records journal s) (hes : ∀ e ∈ es, e.chapter? = none)
    (stored : s'.kernel.store.scooters = s.kernel.store.scooters) :
    Recorded records (journal ++ es) s' := by
  refine h.append ?_ (Note.reads_of_aside hes _)
  rw [Note.writeAll_of_aside hes, stored]

end Recorded

/-! ### One trip after the other -/

/-- The rental `a` claimed the slot of the scooter `k` at this place of the journal. -/
def ClaimsAt (journal : List (Note α)) (k : ScooterId) (a : TaskId) (i : Nat) : Prop :=
  ∃ t : Ticket, journal[i]? = some (.claimed a t) ∧ t.scooter = k

/-- `a` held the slot right before `b`. -/
def Precedes (journal : List (Note α)) (k : ScooterId) (a b : TaskId) : Prop :=
  ∃ i j, ClaimsAt journal k a i ∧ ClaimsAt journal k b j ∧ i < j ∧
    ∀ r m, i < m → m < j → ¬ ClaimsAt journal k r m

/-- `b` checked the very record that `a` had written. -/
def ReadsFrom (journal : List (Note α)) (k : ScooterId) (a b : TaskId) : Prop :=
  ∃ (d c : Nat) (record : Scooter α), d < c ∧ journal[d]? = some (.docked a k record) ∧
    journal[c]? = some (.checked b k record) ∧
    ∀ m, d < m → m < c → ∀ r other, journal[m]? ≠ some (.docked r k other)

/-- Every trip goes by the status that the trip before it wrote. -/
def HandsOver (journal : List (Note α)) (k : ScooterId) : Prop :=
  ∀ a b, Precedes journal k a b → ReadsFrom journal k a b

/-- `a` had written the scooter's record when `b` checked it. -/
def ClosedBefore (journal : List (Note α)) (k : ScooterId) (a b : TaskId) : Prop :=
  ∃ (d c : Nat) (written record : Scooter α), d < c ∧ journal[d]? = some (.docked a k written) ∧
    journal[c]? = some (.checked b k record)

/-- Every trip has written its status when the next one is checked. -/
def IsSerial (journal : List (Note α)) (k : ScooterId) : Prop :=
  ∀ a b, Precedes journal k a b → ClosedBefore journal k a b

theorem isSerial_of_handsOver {journal : List (Note α)} {k : ScooterId}
    (h : HandsOver journal k) : IsSerial journal k := by
  intro a b hab
  obtain ⟨d, c, record, hdc, hd, hc, -⟩ := h a b hab
  exact ⟨d, c, record, record, hdc, hd, hc⟩

/-! ### In every run -/

variable [Coordinate α]

theorem Rental.Stride.reads {id : TaskId} {m : Moment} {k : Kernel α} {q : RentalRequest}
    {p p' : Phase α} {calls : List (Registry.Call α)} {es : List (Note α)}
    (h : Stride id m k q p p' calls es) : Note.Reads k.store.scooters es := by
  intro c b scooter record hc
  have hmem := List.mem_of_getElem? hc
  obtain ⟨hes, -⟩ := h.chapter.2 _ hmem
  have hzero : c = 0 := by
    have hlt := (List.getElem?_eq_some_iff.mp hc).1
    rw [hes, List.length_singleton] at hlt
    omega
  subst hzero
  cases h with
  | unrentable read =>
    cases hc
    exact read
  | checked read rentable =>
    cases hc
    exact read
  | _ => simp at hmem

theorem recorded_move {records : Table ScooterId (Scooter α)} {journal es : List (Note α)}
    {s s' : System α} {m : Move α} (h : Recorded records journal s) (hm : s.RentalMoves m es s') :
    Recorded records (journal ++ es) s' := by
  cases hm with
  | step task step =>
    obtain ⟨-, calls, hstrides⟩ := Rental.stride_of_step _ step
    exact h.append hstrides.records hstrides.stride.reads
  | @dropped id r task =>
    exact h.aside (fun _ he => nomatch he) (Store.scooters_of_contents (Rental.contents_of_cancel _ r))
  | aside notes contents => exact h.aside notes (Store.scooters_of_contents contents)

/-- **The store has what was written last, and every check reads what was written last.** -/
theorem recorded_run {allowed : Move α → Prop} {s₀ s : System α} {journal : List (Note α)}
    (run : Run allowed s₀ journal s) : Recorded s₀.kernel.store.scooters journal s := by
  induction run with
  | start => exact ⟨rfl, fun _ _ _ _ hc => nomatch hc⟩
  | move m _ _ step ih => exact recorded_move ih (System.rentalMoves_of_move? step)

/-! ### In a serial journal -/

namespace Chronicle

variable {journal : List (Note α)} {k : ScooterId} {a b r : TaskId} {i j : Nat}

variable {s : System α}

theorem check_of_claim (h : Chronicle journal s) (hb : ClaimsAt journal k b j) :
    ∃ c record, c < j ∧ journal[c]? = some (.checked b k record) ∧ record.isRentable = true := by
  obtain ⟨t, hj, rfl⟩ := hb
  obtain ⟨record, hmem, hrentable⟩ := h.grounded _ (List.mem_of_getElem? hj)
  obtain ⟨c, hc⟩ := List.mem_iff_getElem?.mp hmem
  exact ⟨c, record, h.place_lt hc hj rfl rfl rfl (by omega), hc, hrentable⟩

theorem claim_of_dock (h : Chronicle journal s) {d : Nat} {record : Scooter α}
    (hd : journal[d]? = some (.docked a k record)) : ∃ i, i < d ∧ ClaimsAt journal k a i := by
  obtain ⟨departure, hdispatched, hscooter⟩ := h.grounded _ (List.mem_of_getElem? hd)
  obtain ⟨i, hi⟩ := List.mem_iff_getElem?.mp (h.claimed_of_dispatched hdispatched)
  exact ⟨i, h.place_lt hi hd rfl rfl rfl (by omega), departure.ticket, hi, hscooter⟩

/-- In a serial journal, everyone who held the slot earlier, and not only the last one, had written the
record.  By induction on how much of the journal lies between the two claims. -/
theorem closedBefore_of_isSerial (h : Chronicle journal s) (serial : IsSerial journal k) (n : Nat) :
    ∀ {i j : Nat} {a b : TaskId}, j - i ≤ n → ClaimsAt journal k a i → ClaimsAt journal k b j →
      i < j → ClosedBefore journal k a b := by
  induction n with
  | zero =>
    intro i j a b hn _ _ hij
    omega
  | succ n ih =>
    intro i j a b hn hi hj hij
    by_cases hbetween : ∃ r m, i < m ∧ m < j ∧ ClaimsAt journal k r m
    · obtain ⟨r, m, him, hmj, hm⟩ := hbetween
      obtain ⟨d, c, written, record, hdc, hd, hc⟩ := ih (by omega) hi hm him
      obtain ⟨d', c', written', record', hdc', hd', hc'⟩ := ih (by omega) hm hj hmj
      -- `r` checked before it wrote, so what `a` wrote before the check is older than that
      have hcd' : c < d' := h.place_lt hc hd' rfl rfl rfl (by omega)
      exact ⟨d, c', written, record', by omega, hd, hc'⟩
    · exact serial a b ⟨i, j, hi, hj, hij, fun r m him hmj hm => hbetween ⟨r, m, him, hmj, hm⟩⟩

/-- Between a trip's dock and the check of the next one, nobody else docks. -/
theorem handsOver_of_isSerial (h : Chronicle journal s)
    {records : Table ScooterId (Scooter α)} (reads : Note.Reads records journal)
    (serial : IsSerial journal k) : HandsOver journal k := by
  intro a b hab
  obtain ⟨d, c, written, record, hdc, hd, hc⟩ := serial a b hab
  obtain ⟨i, j, hi, hj, hij, hnext⟩ := hab
  have hcj : c < j := by
    obtain ⟨t, hj, -⟩ := hj
    exact h.place_lt hc hj rfl rfl rfl (by omega)
  have hquiet : ∀ m, d < m → m < c → ∀ r other, journal[m]? ≠ some (.docked r k other) := by
    intro m hdm hmc r other hm
    obtain ⟨p, hpm, hp⟩ := h.claim_of_dock hm
    rcases Nat.lt_trichotomy p i with hpi | rfl | hip
    · -- an earlier trip: closed before `a` was checked
      obtain ⟨m', c', _, _, hmc', hm', hc'⟩ :=
        h.closedBefore_of_isSerial serial (i - p) (Nat.le_refl _) hp hi hpi
      have hmm' := h.place_eq hm hm' rfl rfl rfl
      have hcd' : c' < d := h.place_lt hc' hd rfl rfl rfl (by omega)
      omega
    · -- `a` itself, which docks once
      obtain ⟨t, hi, -⟩ := hi
      obtain ⟨t', hp, -⟩ := hp
      rw [hi] at hp
      cases hp
      have hmd := h.place_eq hm hd rfl rfl rfl
      omega
    · exact hnext r p hip (by omega) hp
  have hread := reads c b k record hc
  have hlast : (Note.writeAll records (journal.take c)).get? k = some written := by
    refine Note.get?_writeAll_of_last (a := a) (d := d) ?_ ?_
    · rw [List.getElem?_take_of_lt hdc]
      exact hd
    · intro m hdm r other hm
      rw [List.getElem?_take] at hm
      split at hm
      · next hmc => exact hquiet m hdm hmc r other hm
      · cases hm
  rw [hlast] at hread
  cases hread
  exact ⟨d, c, written, hdc, hd, hc, hquiet⟩

/-- In a serial journal, who claimed last docks last. -/
theorem last_dock (h : Chronicle journal s) (serial : IsSerial journal k)
    (ha : ClaimsAt journal k a i) (last : ∀ r m, ClaimsAt journal k r m → m ≤ i) {d : Nat}
    {record : Scooter α} (hd : journal[d]? = some (.docked a k record)) :
    ∀ m, d < m → ∀ r other, journal[m]? ≠ some (.docked r k other) := by
  intro m hdm r other hm
  obtain ⟨p, hpm, hp⟩ := h.claim_of_dock hm
  have hpi := last r p hp
  rcases Nat.lt_or_eq_of_le hpi with hpi | rfl
  · obtain ⟨m', c, _, _, hmc, hm', hc⟩ :=
      h.closedBefore_of_isSerial serial (i - p) (Nat.le_refl _) hp ha hpi
    have hmm' := h.place_eq hm hm' rfl rfl rfl
    have hcd : c < d := h.place_lt hc hd rfl rfl rfl (by omega)
    omega
  · obtain ⟨t, ha, -⟩ := ha
    obtain ⟨t', hp, -⟩ := hp
    rw [ha] at hp
    cases hp
    have hmd := h.place_eq hm hd rfl rfl rfl
    omega

/-- A rental that is done has docked the scooter that it claimed. -/
theorem dock_of_finished (h : Chronicle journal s) (ha : ClaimsAt journal k a i) {q : RentalRequest}
    {trip : Trip α} (task : s.tasks.get? a = some (.rental ⟨q, .finished (.ok trip)⟩)) :
    ∃ record, .docked a k record ∈ journal := by
  obtain ⟨record, hdocked⟩ := (h.rentals a _ task).known
  obtain ⟨d, hd⟩ := List.mem_iff_getElem?.mp hdocked
  obtain ⟨p, -, t, hp, hscooter⟩ := h.claim_of_dock hd
  obtain ⟨t', hi, rfl⟩ := ha
  have hpi := h.place_eq hp hi rfl rfl rfl
  subst hpi
  rw [hi] at hp
  cases hp
  rw [hscooter]
  exact ⟨record, hdocked⟩

end Chronicle

/-- **Trips on a scooter go by the statuses of the trips before them exactly if each of them is closed
before the next one is checked.**  In every run, whatever comes in between:

* a rental that claims the slot was checked against, and starts with, the record that was written last
  before its check;
* the store has the records that were written last;
* those are the records of the trips right before, if and only if the journal is serial;
* in a serial journal, a trip that claimed last and is done has left the stored record. -/
theorem status_handed_over_iff {allowed : Move α → Prop} {s₀ s : System α} {journal : List (Note α)}
    (tasks : s₀.tasks = ∅) (run : Run allowed s₀ journal s) (k : ScooterId) :
    (∀ b j, ClaimsAt journal k b j →
      ∃ c record, c < j ∧ journal[c]? = some (.checked b k record) ∧
        (Note.writeAll s₀.kernel.store.scooters (journal.take c)).get? k = some record ∧
        record.isRentable = true ∧
        ∀ d snapshot, .opened b d snapshot ∈ journal → snapshot.battery = record.battery) ∧
    s.kernel.store.scooters = Note.writeAll s₀.kernel.store.scooters journal ∧
    (HandsOver journal k ↔ IsSerial journal k) ∧
    (IsSerial journal k → ∀ a i q trip, ClaimsAt journal k a i →
      (∀ r m, ClaimsAt journal k r m → m ≤ i) →
      s.tasks.get? a = some (.rental ⟨q, .finished (.ok trip)⟩) →
      ∃ record, .docked a k record ∈ journal ∧ s.kernel.store.scooters.get? k = some record) := by
  have hchronicle := chronicle_run tasks run
  have hrecorded := recorded_run run
  refine ⟨?_, hrecorded.stored, ?_, ?_⟩
  · intro b j hb
    obtain ⟨c, record, hcj, hc, hrentable⟩ := hchronicle.check_of_claim hb
    refine ⟨c, record, hcj, hc, hrecorded.reads c b k record hc, hrentable, ?_⟩
    intro d snapshot hopened
    obtain ⟨-, hchecked, hbattery⟩ := hchronicle.grounded _ hopened
    have hsame : Note.checked b d.ticket.scooter d.scooter = .checked b k record :=
      hchronicle.chapter_unique hchecked (List.mem_of_getElem? hc) rfl rfl rfl
    cases hsame
    exact hbattery
  · exact ⟨isSerial_of_handsOver, hchronicle.handsOver_of_isSerial hrecorded.reads⟩
  · intro serial a i q trip ha last task
    obtain ⟨record, hdocked⟩ := hchronicle.dock_of_finished ha task
    obtain ⟨d, hd⟩ := List.mem_iff_getElem?.mp hdocked
    refine ⟨record, hdocked, ?_⟩
    rw [hrecorded.stored]
    exact Note.get?_writeAll_of_last hd (hchronicle.last_dock serial ha last hd)

/-! ### Two rentals of one scooter -/

section TwoRentals

attribute [local instance] exactRat

/-- Two rentals (tasks 3 and 4) of the one scooter, to the depot and to the harbour. -/
def twoRentals : List (Move Rat) :=
  connecting ++ [.rent ⟨1, 1, 42⟩, .rent ⟨1, 2, 43⟩]

/-- The second rental begins when the first one is done. -/
def inTurn : List (Move Rat) :=
  twoRentals ++ settingOut 3 ++ moving ++ closing 3 ++ settingOut 4 ++ moving ++ closing 4

/-- The second rental begins when the report of the first one is there, and is done before the first
one takes notice of it. -/
def overtaking : List (Move Rat) :=
  twoRentals ++ settingOut 3 ++ moving ++ settingOut 4 ++ moving ++ closing 4 ++ closing 3

/-- Who checked, claimed or docked which scooter, and with which charge. -/
inductive Landmark where
  | checked (rental : TaskId) (scooter : ScooterId) (battery : Rat)
  | claimed (rental : TaskId) (scooter : ScooterId)
  | docked (rental : TaskId) (scooter : ScooterId) (battery : Rat)
  deriving DecidableEq

def Note.landmark? : Note Rat → Option Landmark
  | .checked a k record => some (.checked a k record.battery)
  | .claimed a t => some (.claimed a t.scooter)
  | .docked a k record => some (.docked a k record.battery)
  | _ => none

/-- The landmarks of a journal, with their places. -/
def landmarks (journal : List (Note Rat)) : List (Nat × Landmark) :=
  journal.zipIdx.filterMap fun (e, i) => e.landmark?.map (i, ·)

theorem mem_landmarks {journal : List (Note Rat)} {i : Nat} {x : Landmark} :
    (i, x) ∈ landmarks journal ↔ ∃ e, journal[i]? = some e ∧ e.landmark? = some x := by
  simp only [landmarks, List.mem_filterMap, Option.map_eq_some_iff, Prod.exists, Prod.mk.injEq]
  constructor
  · intro h
    obtain ⟨e, j, hj, y, hy, rfl, rfl⟩ := h
    exact ⟨e, List.mem_zipIdx_iff_getElem?.mp hj, hy⟩
  · intro h
    obtain ⟨e, hi, hx⟩ := h
    exact ⟨e, i, List.mem_zipIdx_iff_getElem?.mpr hi, x, hx, rfl, rfl⟩

theorem claimed_landmark {journal : List (Note Rat)} {i : Nat} {a : TaskId} {k : ScooterId} :
    (i, .claimed a k) ∈ landmarks journal ↔ ClaimsAt journal k a i := by
  rw [mem_landmarks]
  constructor
  · intro h
    obtain ⟨e, hi, he⟩ := h
    cases e <;> cases he
    exact ⟨_, hi, rfl⟩
  · intro h
    obtain ⟨t, hi, rfl⟩ := h
    exact ⟨_, hi, rfl⟩

theorem checked_landmark {journal : List (Note Rat)} {c : Nat} {a : TaskId} {k : ScooterId}
    {battery : Rat} : (c, .checked a k battery) ∈ landmarks journal ↔
      ∃ record, journal[c]? = some (.checked a k record) ∧ record.battery = battery := by
  rw [mem_landmarks]
  constructor
  · intro h
    obtain ⟨e, hc, he⟩ := h
    cases e <;> cases he
    exact ⟨_, hc, rfl⟩
  · intro h
    obtain ⟨record, hc, rfl⟩ := h
    exact ⟨_, hc, rfl⟩

theorem docked_landmark {journal : List (Note Rat)} {d : Nat} {a : TaskId} {k : ScooterId}
    {battery : Rat} : (d, .docked a k battery) ∈ landmarks journal ↔
      ∃ record, journal[d]? = some (.docked a k record) ∧ record.battery = battery := by
  rw [mem_landmarks]
  constructor
  · intro h
    obtain ⟨e, hd, he⟩ := h
    cases e <;> cases he
    exact ⟨_, hd, rfl⟩
  · intro h
    obtain ⟨record, hd, rfl⟩ := h
    exact ⟨_, hd, rfl⟩

/-- The charge with which a rental's trip was closed. -/
def System.charge? (s : System Rat) (id : TaskId) : Option Rat :=
  match s.tasks.get? id with
  | some (.rental ⟨_, .finished (.ok trip)⟩) => some trip.battery
  | _ => none

/-- One trip after the other: the second one goes by what the first one wrote, and leaves its own. -/
theorem status_handed_over_inTurn :
    ∃ journal s, Run (fun _ => True) smallFleet journal s ∧ IsSerial journal 1 ∧
      HandsOver journal 1 ∧
      ∃ record, .docked 4 1 record ∈ journal ∧ s.kernel.store.scooters.get? 1 = some record := by
  have hplay : ((smallFleet.play inTurn).map fun out => (landmarks out.1, out.2.charge? 4)) =
      some ([(0, .checked 3 1 80), (1, .claimed 3 1), (6, .docked 3 1 79),
        (7, .checked 4 1 79), (8, .claimed 4 1), (13, .docked 4 1 78)], some 78) := by
    decide +kernel
  simp only [Option.map_eq_some_iff, Prod.exists, Prod.mk.injEq] at hplay
  obtain ⟨journal, s, hplay, hlandmarks, hcharge⟩ := hplay
  have run : Run (fun _ => True) smallFleet journal s :=
    System.run_of_play hplay .start fun _ _ => trivial
  have hclaims : ∀ a i, ClaimsAt journal 1 a i → i = 1 ∧ a = 3 ∨ i = 8 ∧ a = 4 := by
    intro a i hi
    rw [← claimed_landmark, hlandmarks] at hi
    simpa using hi
  have serial : IsSerial journal 1 := by
    intro a b h
    obtain ⟨i, j, hi, hj, hij, -⟩ := h
    have hboth : a = 3 ∧ b = 4 := by
      rcases hclaims a i hi with ⟨rfl, rfl⟩ | ⟨rfl, rfl⟩ <;>
        rcases hclaims b j hj with ⟨rfl, rfl⟩ | ⟨rfl, rfl⟩
      · omega
      · exact ⟨rfl, rfl⟩
      · omega
      · omega
    obtain ⟨rfl, rfl⟩ := hboth
    have hdock : (6, .docked 3 1 79) ∈ landmarks journal := by simp [hlandmarks]
    have hcheck : (7, .checked 4 1 79) ∈ landmarks journal := by simp [hlandmarks]
    obtain ⟨written, hd, -⟩ := docked_landmark.mp hdock
    obtain ⟨record, hc, -⟩ := checked_landmark.mp hcheck
    exact ⟨6, 7, written, record, by omega, hd, hc⟩
  have hlast : ClaimsAt journal 1 4 8 := by
    rw [← claimed_landmark, hlandmarks]
    simp
  have hend : ∀ r m, ClaimsAt journal 1 r m → m ≤ 8 := by
    intro r m hm
    rcases hclaims r m hm with h | h <;> omega
  obtain ⟨-, -, hiff, hstored⟩ := status_handed_over_iff rfl run 1
  refine ⟨journal, s, run, serial, hiff.mpr serial, ?_⟩
  unfold System.charge? at hcharge
  split at hcharge
  · next q trip htask => exact hstored serial 4 8 q trip hlast hend htask
  · cases hcharge

/-- **A trip that is overtaken.**  Both rentals are done without an error.  The second one was checked
against a status that the trip before it had not written yet, and the stored status is the one that the
first trip wrote, not the one of the trip that claimed the slot last. -/
theorem status_overtaken :
    ∃ journal s, Run (fun _ => True) smallFleet journal s ∧
      (s.charge? 3).isSome ∧ (s.charge? 4).isSome ∧
      Precedes journal 1 3 4 ∧ ¬ ReadsFrom journal 1 3 4 ∧
      (∀ r m, ClaimsAt journal 1 r m → r = 4 ∨ ∃ j, m < j ∧ ClaimsAt journal 1 4 j) ∧
      ∀ record, .docked 4 1 record ∈ journal →
        s.kernel.store.scooters.get? 1 ≠ some record := by
  have hplay : ((smallFleet.play overtaking).map fun out =>
      (landmarks out.1, out.2.charge? 3, out.2.charge? 4,
        (out.2.kernel.store.scooters.get? 1).map (·.battery))) =
      some ([(0, .checked 3 1 80), (1, .claimed 3 1), (6, .checked 4 1 80), (7, .claimed 4 1),
        (12, .docked 4 1 78), (13, .docked 3 1 79)], some 79, some 78, some 79) := by
    decide +kernel
  simp only [Option.map_eq_some_iff, Prod.exists, Prod.mk.injEq] at hplay
  obtain ⟨journal, s, hplay, hlandmarks, hfirst, hsecond, hstored⟩ := hplay
  have run : Run (fun _ => True) smallFleet journal s :=
    System.run_of_play hplay .start fun _ _ => trivial
  have hclaims : ∀ a i, ClaimsAt journal 1 a i ↔ i = 1 ∧ a = 3 ∨ i = 7 ∧ a = 4 := by
    intro a i
    rw [← claimed_landmark, hlandmarks]
    simp
  have hclaim : ClaimsAt journal 1 4 7 := (hclaims 4 7).mpr (.inr ⟨rfl, rfl⟩)
  refine ⟨journal, s, run, by simp [hfirst], by simp [hsecond], ?_, ?_, ?_, ?_⟩
  · refine ⟨1, 7, (hclaims 3 1).mpr (.inl ⟨rfl, rfl⟩), hclaim, by omega, ?_⟩
    intro r m hm hm' hr
    rcases (hclaims r m).mp hr with ⟨rfl, -⟩ | ⟨rfl, -⟩ <;> omega
  · intro h
    obtain ⟨d, c, record, hdc, hd, hc, -⟩ := h
    have hdock := docked_landmark.mpr ⟨record, hd, rfl⟩
    have hcheck := checked_landmark.mpr ⟨record, hc, rfl⟩
    rw [hlandmarks] at hdock hcheck
    simp at hdock hcheck
    omega
  · intro r m hm
    rcases (hclaims r m).mp hm with ⟨rfl, rfl⟩ | ⟨rfl, rfl⟩
    · exact .inr ⟨7, by omega, hclaim⟩
    · exact .inl rfl
  · intro record hdocked hrecord
    obtain ⟨d, hd⟩ := List.mem_iff_getElem?.mp hdocked
    have hdock := docked_landmark.mpr ⟨record, hd, rfl⟩
    rw [hlandmarks] at hdock
    rw [hrecord] at hstored
    simp at hdock hstored
    rw [hdock.2] at hstored
    revert hstored
    decide

end TwoRentals
end ScooterFleet
