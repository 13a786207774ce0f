import ScooterFleet.Proofs.Store.Ledger
import ScooterFleet.Proofs.Store.Saving

/-!
# Restarts

An archive that is opened again over the directory of another one loads its ledger from the file.

* `Archive.History` — calls made one after another, all of them successful;
* `Archive.IsMirrored` / `mirrored_history` — **after each such call the file is the ledger**;
* `Archive.load_of_mirrored` — what an archive over such a file loads;
* `Archive.restart_keeps_ledger` — the run: all of the ledger is kept if its numbers are finite, and
  nothing can be loaded otherwise.

The ledger takes numbers that its file cannot hold: `Archive.overflow_unreadable`.
-/

namespace ScooterFleet

open Json (ReadsBack readsBack_of_map readsBack_of_not_isFinite)

namespace Archive

/-- Calls with nothing in between, all of them successful, and what they added. -/
inductive History (a₀ : Archive) : List Entry → Archive → Prop where
  | start : History a₀ [] a₀
  | add {entries : List Entry} {a a' : Archive} {time : Timestamp} {draft : Draft} {entry : Entry}
      (before : History a₀ entries a) (clock : time.isSound = true)
      (added : a.add time draft = (.ok entry, a')) : History a₀ (entries ++ [entry]) a'

/-- The file is the ledger; there is none for a ledger without entries. -/
structure IsMirrored (a : Archive) : Prop where
  persistent : a.persistent = true
  dated : a.store.ledger.IsDated
  file : a.directory.file = some a.store.ledger.text ∨
    a.directory.file = none ∧ a.store.ledger = .empty

/-- A new archive, over a directory without a file. -/
theorem isMirrored_opened (scooters : List (Scooter Float)) (stations : List (Station Float))
    {d : Directory} (h : d.file = none) : (opened (.seeded scooters stations) true d).IsMirrored where
  persistent := rfl
  dated := ⟨nofun, nofun⟩
  file := .inr ⟨h, rfl⟩

theorem isDated_extend {l : Ledger Float} (h : l.IsDated) {e : Entry} (he : e.time.isSound = true) :
    (l.extend e).IsDated := by
  cases e with
  | order o =>
    refine ⟨fun o' ho' => ?_, h.snapshots⟩
    rcases List.mem_append.mp ho' with ho' | ho'
    · exact h.orders o' ho'
    · rw [List.mem_singleton.mp ho']
      exact he
  | snapshot s =>
    refine ⟨h.orders, fun s' hs' => ?_⟩
    rcases List.mem_append.mp hs' with hs' | hs'
    · exact h.snapshots s' hs'
    · rw [List.mem_singleton.mp hs']
      exact he

/-- **Successful calls keep the file and the ledger together.** -/
theorem mirrored_history {a₀ a : Archive} {entries : List Entry} (mirrored : a₀.IsMirrored)
    (history : History a₀ entries a) :
    a.IsMirrored ∧ a.store.ledger = a₀.store.ledger.grown entries := by
  induction history with
  | start => exact ⟨mirrored, rfl⟩
  | @add entries a a' time draft entry _ clock added ih =>
    obtain ⟨hmirrored, hgrown⟩ := ih
    obtain ⟨hanswers, hpersistent⟩ := answers_add added
    cases hanswers with
    | saved taken ledger file =>
      refine ⟨⟨hpersistent.trans hmirrored.persistent, ?_, .inl (file hmirrored.persistent)⟩, ?_⟩
      · rw [ledger]
        exact isDated_extend hmirrored.dated ((a.time_entry time draft).symm ▸ clock)
      · rw [Ledger.grown_append, ← hgrown]
        exact ledger

section Load

variable {a : Archive} (mirrored : a.IsMirrored)
  (readBack : ∀ x ∈ a.store.ledger.numbers, ReadsBack x) (scooters : List (Scooter Float))
  (stations : List (Station Float))
include mirrored readBack

/-- What an archive finds that is opened over a mirrored ledger. -/
theorem load_of_mirrored :
    (opened (.seeded scooters stations) true a.directory).load =
      if allFinite a.store.ledger.numbers then
        (.ok a.store.ledger.orders.length,
          opened { Store.seeded scooters stations with ledger := a.store.ledger } true a.directory)
      else
        (.error (.encoding .mistyped), opened (.seeded scooters stations) true a.directory) := by
  rcases mirrored.file with hfile | ⟨hfile, hempty⟩
  · simp only [load, opened, hfile, Ledger.ofText_text readBack mirrored.dated]
    cases allFinite a.store.ledger.numbers <;> rfl
  · rw [hempty]
    simp only [load, opened, hfile]
    rfl

end Load

theorem following_of_getLast? {ids : List UInt64} {id : UInt64} (h : ids.getLast? = some id) :
    Ledger.following ids = id + 1 := by
  rw [Ledger.following, h]

/-- **A restart keeps a ledger of finite numbers, and no other one.**  An archive adds entries by any
calls that succeed, and another one is opened over its directory.  If every position, battery and
distance in the ledger is finite, loading gives the number of its orders and the very ledger, and new
entries are numbered on from the last ones.  If one of them is not finite, loading fails and restores
nothing.  Of the decimal texts of numbers it is only asked that the finite doubles in the ledger are
read from them. -/
theorem restart_keeps_ledger {a₀ a : Archive} {entries : List Entry} (mirrored : a₀.IsMirrored)
    (history : History a₀ entries a) (readBack : ∀ x ∈ a.store.ledger.numbers, ReadsBack x)
    (scooters : List (Scooter Float)) (stations : List (Station Float)) :
    a.store.ledger = a₀.store.ledger.grown entries ∧
      (allFinite a.store.ledger.numbers = true →
        ∃ b, (opened (.seeded scooters stations) true a.directory).load =
            (.ok a.store.ledger.orders.length, b) ∧
          b.store.ledger = a.store.ledger ∧
          (∀ o, a.store.ledger.orders.getLast? = some o → b.store.ledger.nextOrder = o.id + 1) ∧
          ∀ s, a.store.ledger.snapshots.getLast? = some s →
            b.store.ledger.nextSnapshot = s.id + 1) ∧
      (allFinite a.store.ledger.numbers = false →
        (opened (.seeded scooters stations) true a.directory).load =
          (.error (.encoding .mistyped), opened (.seeded scooters stations) true a.directory)) := by
  obtain ⟨hmirrored, hgrown⟩ := mirrored_history mirrored history
  have hload := load_of_mirrored hmirrored readBack scooters stations
  refine ⟨hgrown, fun hfinite => ?_, fun hfinite => ?_⟩
  · rw [hfinite, if_pos rfl] at hload
    refine ⟨_, hload, rfl, fun o ho => ?_, fun s hs => ?_⟩
    · exact following_of_getLast? (by rw [List.getLast?_map, opened, ho]; rfl)
    · exact following_of_getLast? (by rw [List.getLast?_map, opened, hs]; rfl)
  · rw [hfinite, if_neg Bool.false_ne_true] at hload
    exact hload

/-! ### Two archives -/

/-- Makes calls one after another, all at one time; none if one of them fails. -/
def addAll (time : Timestamp) (a : Archive) : List Draft → Option (List Entry × Archive)
  | [] => some ([], a)
  | draft :: more =>
    match a.add time draft with
    | (.ok entry, a) => (addAll time a more).map fun out => (entry :: out.1, out.2)
    | (.error _, _) => none

theorem history_of_addAll {a₀ a a' : Archive} {time : Timestamp} {drafts : List Draft}
    {entries entries' : List Entry} (clock : time.isSound = true)
    (h : a.addAll time drafts = some (entries', a')) (before : History a₀ entries a) :
    History a₀ (entries ++ entries') a' := by
  induction drafts generalizing a entries entries' with
  | nil =>
    cases h
    rw [List.append_nil]
    exact before
  | cons draft more ih =>
    simp only [addAll] at h
    split at h
    · next entry a₁ added =>
      obtain ⟨out, hout, he⟩ := Option.map_eq_some_iff.mp h
      cases he
      rw [List.append_cons]
      exact ih hout (before.add clock added)
    · cases h

def quarterPastNoon : Timestamp := ⟨2024, 5, 1, 12, 15, 0, 250000000, 0⟩

/-- An archive over an empty directory. -/
def untouched : Archive := opened (.seeded [] []) true .empty

def origin : Snapshot Float := ⟨1, 1, ⟨52.520008, -0.0⟩, 80, quarterPastNoon⟩

def goal : Snapshot Float := ⟨2, 1, ⟨52.5214, 1e-7⟩, 66.1, quarterPastNoon⟩

def ride : Order Float := ⟨⟨9, 1, 1, 2, 0.0014⟩, 1, quarterPastNoon⟩

theorem restart_keeps_ledger_ride : ∃ a b,
    History untouched [.snapshot origin, .snapshot goal, .order ride] a ∧
      (opened (.seeded [] []) true a.directory).load = (.ok 1, b) ∧
      b.store.ledger = ⟨[ride], [origin, goal]⟩ ∧
      b.store.ledger.nextOrder = 2 ∧ b.store.ledger.nextSnapshot = 3 := by
  obtain ⟨a, hadd, hledger⟩ : ∃ a, untouched.addAll quarterPastNoon
      [.snapshot 1 origin.position origin.battery, .snapshot 1 goal.position goal.battery,
        .order ride.toOrderRequest] =
        some ([.snapshot origin, .snapshot goal, .order ride], a) ∧
      a.store.ledger = ⟨[ride], [origin, goal]⟩ := ⟨_, rfl, rfl⟩
  have history : History untouched ([] ++ [.snapshot origin, .snapshot goal, .order ride]) a :=
    history_of_addAll (by decide) hadd .start
  have hnumbers : ∀ x ∈ Ledger.numbers ⟨[ride], [origin, goal]⟩,
      (Layout.json.ofFloat x).map Numeral.toFloat = some x := by
    decide +kernel
  have hfinite : allFinite (Ledger.numbers ⟨[ride], [origin, goal]⟩) = true := by decide +kernel
  have readBack : ∀ x ∈ a.store.ledger.numbers, ReadsBack x := by
    rw [hledger]
    exact fun x hx => readsBack_of_map (hnumbers x hx)
  obtain ⟨-, hkept, -⟩ := restart_keeps_ledger (isMirrored_opened [] [] rfl) history readBack [] []
  obtain ⟨b, hload, hb, horder, hsnapshot⟩ := hkept (hledger ▸ hfinite)
  rw [hledger] at hload hb horder hsnapshot
  exact ⟨a, b, history, hload, hb, horder ride rfl, hsnapshot goal rfl⟩

/-- An order over a distance that is beyond all doubles. -/
def endless : Order Float := ⟨⟨9, 1, 1, 2, 1 / 0⟩, 1, quarterPastNoon⟩

/-- **A ledger that cannot be loaded any more.**  The order was taken and saved, and all entries that
were made before it are lost with it. -/
theorem overflow_unreadable : ∃ a, History untouched [.snapshot origin, .order endless] a ∧
    a.store.ledger = ⟨[endless], [origin]⟩ ∧
    a.directory.file = some a.store.ledger.text ∧
    (opened (.seeded [] []) true a.directory).load =
      (.error (.encoding .mistyped), opened (.seeded [] []) true a.directory) := by
  obtain ⟨a, hadd, hledger, hfile⟩ : ∃ a, untouched.addAll quarterPastNoon
      [.snapshot 1 origin.position origin.battery, .order endless.toOrderRequest] =
        some ([.snapshot origin, .order endless], a) ∧
      a.store.ledger = ⟨[endless], [origin]⟩ ∧
      a.directory.file = some a.store.ledger.text := ⟨_, rfl, rfl, rfl⟩
  have history : History untouched ([] ++ [.snapshot origin, .order endless]) a :=
    history_of_addAll (by decide) hadd .start
  have hnumbers : ∀ x ∈ Ledger.numbers ⟨[endless], [origin]⟩, x.isFinite = true →
      (Layout.json.ofFloat x).map Numeral.toFloat = some x := by
    decide +kernel
  have hinfinite : allFinite (Ledger.numbers ⟨[endless], [origin]⟩) = false := by decide +kernel
  have readBack : ∀ x ∈ a.store.ledger.numbers, ReadsBack x := by
    rw [hledger]
    intro x hx
    cases hfinite : x.isFinite with
    | true => exact readsBack_of_map (hnumbers x hx hfinite)
    | false => exact readsBack_of_not_isFinite hfinite
  have hload := load_of_mirrored (mirrored_history (isMirrored_opened [] [] rfl) history).1 readBack
    [] []
  rw [hledger, hinfinite, if_neg Bool.false_ne_true] at hload
  exact ⟨a, history, hledger, hfile, hload⟩

end Archive
end ScooterFleet
