import ScooterFleet.Proofs.Store.Leftover
import ScooterFleet.Proofs.Store.Numbering
import ScooterFleet.Proofs.Store.Restart

/-!
# The numbers that follow a loaded ledger

A new entry takes the number after that of the last entry.  A ledger that an archive has made counts up
from one.  One that is loaded may have any numbers in any order: nothing looks at them.

* `Ledger.lastNumber` / `Ledger.allot` — the number of the last entry, and the numbers with more entries;
* `Ledger.IsNext` — a number is the one after the last, and a new one;
* `Ledger.Clear` — the numbers behind the last one are free;
* `Ledger.clear_add_one_iff` — **one entry**: its number is new just if there is one free number more;
* `Ledger.Series` / `Ledger.EachNext` — orders or snapshots, and entries that take new numbers;
* `Archive.eachNext_iff` — the run;
* `Archive.numbers_new_iff` — **after a load** all numbers are new if and only if none that was loaded
  stands among those to come, and these end before the last word.

A file may have them stand there: `Archive.number_taken_twice`.
-/

namespace ScooterFleet
namespace Ledger

/-! ### Numbers -/

/-- The number of the last entry, and zero where there is none. -/
def lastNumber (ids : List UInt64) : Nat := (ids.getLast?.map UInt64.toNat).getD 0

theorem lastNumber_lt (ids : List UInt64) : lastNumber ids < numberCount := by
  unfold lastNumber
  cases ids.getLast? with
  | none => decide
  | some id => exact id.toNat_lt

/-- Behind the last word the numbers begin anew. -/
theorem following_eq (ids : List UInt64) : following ids = UInt64.ofNat (lastNumber ids + 1) := by
  unfold following lastNumber
  cases ids.getLast? with
  | none => rfl
  | some id =>
    show id + 1 = UInt64.ofNat (id.toNat + 1)
    rw [UInt64.ofNat_add, UInt64.ofNat_toNat]
    rfl

/-- The numbers with more entries. -/
def allot (ids : List UInt64) : Nat → List UInt64
  | 0 => ids
  | n + 1 => allot ids n ++ [following (allot ids n)]

/-- The number comes after the last one, and no entry has it. -/
structure IsNext (ids : List UInt64) (id : UInt64) : Prop where
  number : id.toNat = lastNumber ids + 1
  new : id ∉ ids

/-- So many numbers behind the last one are free. -/
structure Clear (ids : List UInt64) (n : Nat) : Prop where
  room : lastNumber ids + n < numberCount
  apart : ∀ id ∈ ids, id.toNat ≤ lastNumber ids ∨ lastNumber ids + n < id.toNat

theorem clear_zero (ids : List UInt64) : Clear ids 0 :=
  ⟨lastNumber_lt ids, fun id _ => (Nat.lt_or_ge (lastNumber ids) id.toNat).symm⟩

theorem toNat_following {ids : List UInt64} (room : lastNumber ids + 1 < numberCount) :
    (following ids).toNat = lastNumber ids + 1 := by
  rw [following_eq, UInt64.toNat_ofNat_of_lt' room]

/-- With room, the numbers go on one by one. -/
theorem allot_of_room {ids : List UInt64} {n : Nat} (room : lastNumber ids + n < numberCount) :
    lastNumber (allot ids n) = lastNumber ids + n ∧
      ∀ id ∈ allot ids n, id ∈ ids ∨ lastNumber ids < id.toNat ∧ id.toNat ≤ lastNumber ids + n := by
  induction n with
  | zero => exact ⟨rfl, fun id hid => .inl hid⟩
  | succ n ih =>
    obtain ⟨hlast, hids⟩ := ih (by omega)
    have hnumber : (following (allot ids n)).toNat = lastNumber ids + (n + 1) := by
      rw [toNat_following (by omega), hlast, Nat.add_assoc]
    refine ⟨?_, fun id hid => ?_⟩
    · rw [lastNumber, allot, List.getLast?_concat]
      exact hnumber
    · rcases List.mem_append.mp hid with hid | hid
      · rcases hids id hid with hid | ⟨hlow, hhigh⟩
        · exact .inl hid
        · exact .inr ⟨hlow, by omega⟩
      · rw [List.mem_singleton.mp hid, hnumber]
        exact .inr ⟨by omega, Nat.le_refl _⟩

/-- New entries leave the others their numbers. -/
theorem mem_allot_of_mem {ids : List UInt64} {id : UInt64} (h : id ∈ ids) (n : Nat) :
    id ∈ allot ids n := by
  induction n with
  | zero => exact h
  | succ n ih => exact List.mem_append_left _ ih

/-- **One free number more is one new number more.** -/
theorem clear_add_one_iff (ids : List UInt64) (n : Nat) :
    Clear ids (n + 1) ↔ Clear ids n ∧ IsNext (allot ids n) (following (allot ids n)) := by
  constructor
  · rintro ⟨room, apart⟩
    have hroom : lastNumber ids + n < numberCount := by omega
    obtain ⟨hlast, hids⟩ := allot_of_room hroom
    have hnumber : (following (allot ids n)).toNat = lastNumber (allot ids n) + 1 :=
      toNat_following (by omega)
    refine ⟨⟨by omega, fun id hid => (apart id hid).imp_right fun h => by omega⟩,
      ⟨hnumber, fun hmem => ?_⟩⟩
    rcases hids _ hmem with hold | hbetween
    · have := apart _ hold
      omega
    · omega
  · rintro ⟨clear, next⟩
    obtain ⟨hlast, -⟩ := allot_of_room clear.room
    have hnumber := next.number
    have hword : (following (allot ids n)).toNat < numberCount := UInt64.toNat_lt _
    refine ⟨by omega, fun id hid => (clear.apart id hid).imp_right fun h => ?_⟩
    -- an old number in this place would be the new one
    have hne : id.toNat ≠ lastNumber ids + n + 1 := by
      intro heq
      have hsame : id = following (allot ids n) := UInt64.toNat_inj.mp (by omega)
      exact next.new (hsame ▸ mem_allot_of_mem hid n)
    omega

/-! ### Series -/

/-- Orders and snapshots are numbered each for themselves. -/
inductive Series where
  | orders
  | snapshots
  deriving DecidableEq, Repr

namespace Series

def ids {α : Type} : Series → Ledger α → List UInt64
  | .orders, l => l.orders.map (·.id)
  | .snapshots, l => l.snapshots.map (·.id)

def id? : Series → Entry → Option UInt64
  | .orders, e => e.order?.map (·.id)
  | .snapshots, e => e.snapshot?.map (·.id)

theorem ids_extend (k : Series) (l : Ledger Float) (e : Entry) :
    k.ids (l.extend e) = k.ids l ++ (k.id? e).toList := by
  cases k <;> cases e <;> simp [ids, id?, extend, addOrder, addSnapshot, Entry.order?, Entry.snapshot?]

/-- A call takes the number that follows. -/
theorem id?_entry (k : Series) {a : Archive} {time : Timestamp} {draft : Draft} {id : UInt64}
    (h : k.id? (a.entry time draft) = some id) : id = following (k.ids a.store.ledger) := by
  cases k <;> cases draft <;> cases h <;> rfl

end Series

/-- Each entry takes the next number of its series. -/
def EachNext (k : Series) (l : Ledger Float) : List Entry → Prop
  | [] => True
  | e :: es => (∀ id ∈ k.id? e, IsNext (k.ids l) id) ∧ EachNext k (l.extend e) es

theorem eachNext_append_singleton (k : Series) (l : Ledger Float) (es : List Entry) (e : Entry) :
    EachNext k l (es ++ [e]) ↔
      EachNext k l es ∧ ∀ id ∈ k.id? e, IsNext (k.ids (l.grown es)) id := by
  induction es generalizing l with
  | nil => exact and_comm
  | cons e' es ih =>
    show (_ ∧ EachNext k (l.extend e') (es ++ [e])) ↔ _
    rw [ih]
    exact and_assoc.symm

end Ledger

namespace Archive

open Ledger

variable {a a₀ : Archive} {es : List Entry}

/-- The numbers of a run. -/
theorem ids_of_continues (run : Continues a₀ es a) (k : Series) :
    k.ids a.store.ledger = allot (k.ids a₀.store.ledger) (es.filterMap k.id?).length := by
  induction run with
  | start => rfl
  | refused before refuses answer ih =>
    obtain ⟨hanswers, -⟩ := answers_add answer
    cases hanswers with
    | refused _ ledger => rw [ledger, ih]
    | unsaved taken => exact absurd refuses taken
    | saved taken => exact absurd refuses taken
  | @entered es a a' time draft result before taken answer ih =>
    have hledger : a'.store.ledger = a.store.ledger.extend (a.entry time draft) := by
      rw [ledger_of_continues (before.entered taken answer), grown_append,
        ← ledger_of_continues before]
      rfl
    rw [hledger, Series.ids_extend, List.filterMap_append, List.length_append, ih]
    cases hid : k.id? (a.entry time draft) with
    | none => simp [hid]
    | some id =>
      have hnext := k.id?_entry hid
      rw [ih] at hnext
      simp [hid, hnext, allot]
  | others before ledger directory ih => exact (congrArg k.ids ledger).trans ih

/-- **The run takes new numbers as long as they are free.** -/
theorem eachNext_iff (run : Continues a₀ es a) (k : Series) :
    EachNext k a₀.store.ledger es ↔ Clear (k.ids a₀.store.ledger) (es.filterMap k.id?).length := by
  induction run with
  | start => exact ⟨fun _ => clear_zero _, fun _ => trivial⟩
  | refused before refuses answer ih => exact ih
  | @entered es a a' time draft result before taken answer ih =>
    rw [eachNext_append_singleton, ih, List.filterMap_append, List.length_append,
      ← ledger_of_continues before, ids_of_continues before k]
    cases hid : k.id? (a.entry time draft) with
    | none => simp [hid]
    | some id =>
      have hnext := k.id?_entry hid
      rw [ids_of_continues before k] at hnext
      simp [hid, hnext, clear_add_one_iff]
  | others before ledger directory ih => exact ih

/-- What is loaded is what the file says. -/
theorem ledger_of_load {a₁ : Archive} {text : String} {n : Nat} (saved : a.persistent = true)
    (file : a.directory.file = some text) (loaded : a.load = (.ok n, a₁)) :
    ofText text = .ok a₁.store.ledger ∧ n = a₁.store.ledger.orders.length := by
  simp only [load, saved, file, Bool.not_true, Bool.false_eq_true, if_false] at loaded
  split at loaded
  · cases loaded
  · next l hl =>
    cases loaded
    exact ⟨hl, rfl⟩

/-- **The numbers after a load.**  An archive loads its file, and calls follow with whatever answers and
whatever happens to the directory.  The entries that they make take one number after the other, each one
new in its series and none beyond the last word, if and only if the file left these numbers free: none of
the numbers in it stands among as many behind its last one as there are entries to come, and so many are
left before the last word. -/
theorem numbers_new_iff {a₁ a₂ : Archive} {text : String} {n : Nat} (saved : a.persistent = true)
    (file : a.directory.file = some text) (loaded : a.load = (.ok n, a₁)) (run : Continues a₁ es a₂)
    (k : Series) :
    ∃ l, ofText text = .ok l ∧ n = l.orders.length ∧ a₂.store.ledger = l.grown es ∧
      (EachNext k l es ↔ Clear (k.ids l) (es.filterMap k.id?).length) := by
  obtain ⟨htext, hcount⟩ := ledger_of_load saved file loaded
  exact ⟨_, htext, hcount, ledger_of_continues run, eachNext_iff run k⟩

/-! ### Files with numbers in any order -/

theorem continues_of_addAll {time : Timestamp} {drafts : List Draft} {es' : List Entry} {a' : Archive}
    (h : a.addAll time drafts = some (es', a')) (before : Continues a₀ es a) :
    Continues a₀ (es ++ es') a' := by
  induction drafts generalizing a es es' with
  | nil =>
    cases h
    rw [List.append_nil]
    exact before
  | cons draft more ih =>
    simp only [addAll] at h
    split at h
    · next entry a₁ added =>
      obtain ⟨out, hout, he⟩ := Option.map_eq_some_iff.mp h
      cases he
      obtain ⟨hanswers, -⟩ := answers_add added
      cases hanswers with
      | saved taken =>
        rw [List.append_cons]
        exact ih hout (before.entered taken added)
    · cases h

/-- Orders with these numbers. -/
def numbered (ids : List UInt64) : Ledger Float :=
  ⟨ids.map fun id => { ride with id }, []⟩

/-- A new archive over the file of such a ledger. -/
def overNumbers (ids : List UInt64) : Archive :=
  opened (.seeded [] []) true ⟨true, some (numbered ids).text⟩

/-- The archive that has loaded it. -/
def withNumbers (ids : List UInt64) : Archive :=
  opened { Store.seeded [] [] with ledger := numbered ids } true ⟨true, some (numbered ids).text⟩

theorem load_overNumbers (ids : List UInt64) :
    (overNumbers ids).load = (.ok ids.length, withNumbers ids) := by
  have hdistance : (Layout.json.ofFloat ride.distance).map Numeral.toFloat = some ride.distance := by
    decide +kernel
  have hnumbers : ∀ x ∈ (numbered ids).numbers, x = ride.distance := by
    simp [numbered, Ledger.numbers, Order.numbers]
  have hfinite : allFinite (numbered ids).numbers = true := by
    rw [allFinite, List.all_eq_true]
    intro x hx
    rw [hnumbers x hx]
    decide +kernel
  have mirrored : (withNumbers ids).IsMirrored := by
    refine ⟨rfl, ⟨fun o ho => ?_, fun s hs => absurd hs List.not_mem_nil⟩, .inl rfl⟩
    obtain ⟨id, -, rfl⟩ := List.mem_map.mp ho
    show ride.time.isSound = true
    decide
  have hload := load_of_mirrored mirrored
    (fun x hx => hnumbers x hx ▸ Json.readsBack_of_map hdistance) [] []
  have hcount : (numbered ids).orders.length = ids.length := List.length_map _
  rw [← hcount]
  exact hload.trans (if_pos hfinite)

/-- Two orders behind the numbers 3, 9 and 5. -/
theorem numbers_new_iff_between : ∃ a₂ es,
    (overNumbers [3, 9, 5]).load = (.ok 3, withNumbers [3, 9, 5]) ∧
      Continues (withNumbers [3, 9, 5]) es a₂ ∧ es.filterMap Series.orders.id? = [6, 7] ∧
      EachNext .orders (numbered [3, 9, 5]) es := by
  obtain ⟨es, a₂, hadded, hes⟩ : ∃ es a₂,
      (withNumbers [3, 9, 5]).addAll quarterPastNoon
        [.order ride.toOrderRequest, .order ride.toOrderRequest] = some (es, a₂) ∧
      es.filterMap Series.orders.id? = [6, 7] := ⟨_, _, rfl, rfl⟩
  have run : Continues (withNumbers [3, 9, 5]) es a₂ := continues_of_addAll hadded .start
  have loaded := load_overNumbers [3, 9, 5]
  obtain ⟨l, htext, -, -, hiff⟩ := numbers_new_iff rfl rfl loaded run .orders
  have hl : l = numbered [3, 9, 5] :=
    Except.ok.inj (htext.symm.trans (ledger_of_load rfl rfl loaded).1)
  refine ⟨a₂, es, loaded, run, hes, hl ▸ hiff.mpr ?_⟩
  have hids : Series.orders.ids (numbered [3, 9, 5]) = [3, 9, 5] := rfl
  rw [hl, hids, hes]
  exact ⟨by decide, by simp [lastNumber]⟩

/-- **The numbers of a file are taken as they come.**  Behind the orders 2 and 1 comes a second order 2. -/
theorem number_taken_twice :
    (overNumbers [2, 1]).load = (.ok 2, withNumbers [2, 1]) ∧
      ∃ o a₂, o.id = 2 ∧
        (withNumbers [2, 1]).add quarterPastNoon (.order ride.toOrderRequest) = (.ok (.order o), a₂) ∧
        Series.orders.ids a₂.store.ledger = [2, 1, 2] :=
  ⟨load_overNumbers [2, 1], _, _, rfl, rfl, rfl⟩

end Archive
end ScooterFleet
