import ScooterFleet.Proofs.Json.Spacing
import ScooterFleet.Proofs.Record.Fields
import ScooterFleet.Proofs.Text.Timestamp
import ScooterFleet.Store.Ledger

/-!
# Ledgers read back

The text of a ledger's file is read as the ledger, with all its orders and snapshots, as long as every
number in it is finite.  A number that is not stands in the file as `null`, which no field for a number
takes: then nothing of the file is read.

* `Position.decode_toJson`, `Snapshot.decode_toJson`, `Order.decode_toJson` — the verdict on one entry;
* `Ledger.decode_toJson` — the verdict on all of them;
* `Ledger.ofText_text` — **the verdict on a file**.

That doubles are read from the decimals that are written for them is asked of the numbers that occur
(`Json.ReadsBack`).
-/

namespace ScooterFleet

open Json (Fault Reading ReadsBack)
open Record

/-! ### Numbers -/

def allFinite (xs : List Float) : Bool := xs.all Float.isFinite

theorem allFinite_append (xs ys : List Float) :
    allFinite (xs ++ ys) = (allFinite xs && allFinite ys) := List.all_append

theorem allFinite_flatMap {β : Type} (numbers : β → List Float) (bs : List β) :
    allFinite (bs.flatMap numbers) = bs.all fun b => allFinite (numbers b) := by
  induction bs with
  | nil => rfl
  | cons b bs ih => rw [List.flatMap_cons, allFinite_append, ih, List.all_cons]

theorem isPlain_ofFloat (x : Float) : (Json.ofFloat x).IsPlain := by
  unfold Json.ofFloat Layout.ofFloat
  split
  · next n hn =>
    split at hn
    · cases hn
      rw [Json.IsPlain]
      exact Layout.places_numeral _ _ _
    · cases hn
  · rw [Json.IsPlain]
    trivial

theorem isPlain_ofWord (n : UInt64) : (Json.ofWord n).IsPlain := by
  rw [Json.ofWord, Json.ofNat, Json.IsPlain]
  intro h
  cases h

theorem arePlain_map {β : Type} {write : β → Json} (h : ∀ b, (write b).IsPlain) (bs : List β) :
    Json.ArePlain (bs.map write) := by
  induction bs with
  | nil => rw [List.map_nil, Json.ArePlain]; trivial
  | cons b bs ih => rw [List.map_cons, Json.ArePlain]; exact ⟨h b, ih⟩

/-! ### Positions -/

namespace Position

def numbers (p : Position Float) : List Float := [p.latitude, p.longitude]

theorem isPlain_toJson (p : Position Float) : p.toJson.IsPlain := by
  simp only [toJson, Json.IsPlain, Json.FieldsPlain, isPlain_ofFloat, and_self]

theorem decode_toJson {p : Position Float} (h : ∀ x ∈ p.numbers, ReadsBack x) :
    Position.record.decode (Reading.ofJson p.toJson) = verdict (allFinite p.numbers) p := by
  have hlatitude := Json.real_ofFloat (h p.latitude (by simp [numbers]))
  have hlongitude := Json.real_ofFloat (h p.longitude (by simp [numbers]))
  have hjudges := judges_seq
    (judges_map Position.mk
      (judges_required "latitude" Format.real (Reading.ofJson (.ofFloat p.latitude))))
    (judges_required "longitude" Format.real (Reading.ofJson (.ofFloat p.longitude)))
  have hnames : ["latitude", "longitude"].Nodup := by decide
  have hdecode : Position.record.decode (Reading.ofJson p.toJson) = _ :=
    Json.decode_object _ hjudges hnames
  rw [hlatitude, hlongitude, map_verdict, bind_verdict] at hdecode
  have hgood : (p.latitude.isFinite && p.longitude.isFinite) = allFinite p.numbers := by
    simp [allFinite, numbers]
  rw [hgood] at hdecode
  exact hdecode

end Position

/-! ### Entries -/

theorem timestamp_text {t : Timestamp} (h : t.isSound = true) :
    timestamp (Reading.ofJson (.text t.text)) = verdict true t := by
  have htext : Format.text (Reading.ofJson (.text t.text)) = .ok t.text := by
    rw [Reading.ofJson]
    rfl
  simp only [timestamp, Decoder.parsed, htext, bind, Except.bind, Timestamp.ofText?_text h]
  rfl

namespace Snapshot

def numbers (s : Snapshot Float) : List Float := s.position.numbers ++ [s.battery]

theorem isPlain_toJson (s : Snapshot Float) : s.toJson.IsPlain := by
  simp only [toJson, Json.IsPlain, Json.FieldsPlain, isPlain_ofFloat, isPlain_ofWord,
    Position.isPlain_toJson, and_self]

theorem decode_toJson {s : Snapshot Float} (hnumbers : ∀ x ∈ s.numbers, ReadsBack x)
    (htime : s.time.isSound = true) :
    Snapshot.record.decode (Reading.ofJson s.toJson) = verdict (allFinite s.numbers) s := by
  have hposition := Position.decode_toJson (p := s.position)
    fun x hx => hnumbers x (List.mem_append_left _ hx)
  have hbattery := Json.real_ofFloat (hnumbers s.battery (by simp [numbers]))
  have hjudges := judges_seq (judges_seq (judges_seq (judges_seq
    (judges_map Snapshot.mk
      (judges_required "id" Decoder.word (Reading.ofJson (.ofWord s.id))))
    (judges_required "scooter_id" Decoder.word (Reading.ofJson (.ofWord s.scooter))))
    (judges_required "position" Position.record.decode (Reading.ofJson s.position.toJson)))
    (judges_required "battery" Format.real (Reading.ofJson (.ofFloat s.battery))))
    (judges_required "timestamp" timestamp (Reading.ofJson (.text s.time.text)))
  have hnames : ["id", "scooter_id", "position", "battery", "timestamp"].Nodup := by decide
  have hdecode : Snapshot.record.decode (Reading.ofJson s.toJson) = _ :=
    Json.decode_object _ hjudges hnames
  rw [Json.word_ofWord, Json.word_ofWord, hposition, hbattery, timestamp_text htime, map_verdict,
    bind_verdict, bind_verdict, bind_verdict, bind_verdict] at hdecode
  have hgood : (true && true && allFinite s.position.numbers && s.battery.isFinite && true) =
      allFinite s.numbers := by
    simp [allFinite, numbers]
  rw [hgood] at hdecode
  exact hdecode

end Snapshot

namespace Order

def numbers (o : Order Float) : List Float := [o.distance]

theorem isPlain_toJson (o : Order Float) : o.toJson.IsPlain := by
  simp only [toJson, Json.IsPlain, Json.FieldsPlain, isPlain_ofFloat, isPlain_ofWord,
    and_self]

theorem decode_toJson {o : Order Float} (hnumbers : ∀ x ∈ o.numbers, ReadsBack x)
    (htime : o.time.isSound = true) :
    Order.record.decode (Reading.ofJson o.toJson) = verdict (allFinite o.numbers) o := by
  have hdistance := Json.real_ofFloat (hnumbers o.distance (by simp [numbers]))
  have hjudges := judges_seq (judges_seq (judges_seq (judges_seq (judges_seq (judges_seq
    (judges_map (fun id user scooter start finish distance time =>
        (⟨⟨user, scooter, start, finish, distance⟩, id, time⟩ : Order Float))
      (judges_required "id" Decoder.word (Reading.ofJson (.ofWord o.id))))
    (judges_required "user_id" Decoder.word (Reading.ofJson (.ofWord o.user))))
    (judges_required "scooter_id" Decoder.word (Reading.ofJson (.ofWord o.scooter))))
    (judges_required "status_start_id" Decoder.word (Reading.ofJson (.ofWord o.start))))
    (judges_required "status_end_id" Decoder.word (Reading.ofJson (.ofWord o.finish))))
    (judges_required "distance" Format.real (Reading.ofJson (.ofFloat o.distance))))
    (judges_required "created_at" timestamp (Reading.ofJson (.text o.time.text)))
  have hnames : ["id", "user_id", "scooter_id", "status_start_id", "status_end_id", "distance",
      "created_at"].Nodup := by decide
  have hdecode : Order.record.decode (Reading.ofJson o.toJson) = _ :=
    Json.decode_object _ hjudges hnames
  rw [Json.word_ofWord, Json.word_ofWord, Json.word_ofWord, Json.word_ofWord, Json.word_ofWord,
    hdistance, timestamp_text htime, map_verdict, bind_verdict, bind_verdict, bind_verdict,
    bind_verdict, bind_verdict, bind_verdict] at hdecode
  have hgood : (true && true && true && true && true && o.distance.isFinite && true) =
      allFinite o.numbers := by
    simp [allFinite, numbers]
  rw [hgood] at hdecode
  exact hdecode

end Order

/-! ### Ledgers -/

namespace Ledger

/-- All numbers in the ledger. -/
def numbers (l : Ledger Float) : List Float :=
  l.orders.flatMap Order.numbers ++ l.snapshots.flatMap Snapshot.numbers

/-- All instants in the ledger are sound, as a clock gives them. -/
structure IsDated (l : Ledger Float) : Prop where
  orders : ∀ o ∈ l.orders, o.time.isSound = true
  snapshots : ∀ s ∈ l.snapshots, s.time.isSound = true

theorem isPlain_toJson (l : Ledger Float) : l.toJson.IsPlain := by
  have horders := arePlain_map Order.isPlain_toJson l.orders
  have hsnapshots := arePlain_map Snapshot.isPlain_toJson l.snapshots
  simp only [toJson, Json.IsPlain, Json.FieldsPlain, horders, hsnapshots, and_self]

theorem decode_toJson {l : Ledger Float} (hnumbers : ∀ x ∈ l.numbers, ReadsBack x)
    (hdated : l.IsDated) :
    Ledger.record.decode (Reading.ofJson l.toJson) = verdict (allFinite l.numbers) l := by
  have horders : Decoder.list Order.record.decode
      (Reading.ofJson (.list (l.orders.map Order.toJson))) =
      verdict (l.orders.all fun o => allFinite o.numbers) l.orders :=
    Json.items_verdict fun o ho => Order.decode_toJson
      (fun x hx => hnumbers x (List.mem_append_left _ (List.mem_flatMap.mpr ⟨o, ho, hx⟩)))
      (hdated.orders o ho)
  have hsnapshots : Decoder.list Snapshot.record.decode
      (Reading.ofJson (.list (l.snapshots.map Snapshot.toJson))) =
      verdict (l.snapshots.all fun s => allFinite s.numbers) l.snapshots :=
    Json.items_verdict fun s hs => Snapshot.decode_toJson
      (fun x hx => hnumbers x (List.mem_append_right _ (List.mem_flatMap.mpr ⟨s, hs, hx⟩)))
      (hdated.snapshots s hs)
  have hjudges := judges_seq
    (judges_map (Ledger.mk (α := Float))
      (judges_required "orders" (Decoder.list Order.record.decode)
        (Reading.ofJson (.list (l.orders.map Order.toJson)))))
    (judges_required "snapshots" (Decoder.list Snapshot.record.decode)
      (Reading.ofJson (.list (l.snapshots.map Snapshot.toJson))))
  have hnames : ["orders", "snapshots"].Nodup := by decide
  have hdecode : Ledger.record.decode (Reading.ofJson l.toJson) = _ :=
    Json.decode_object _ hjudges hnames
  rw [horders, hsnapshots, map_verdict, bind_verdict, ← allFinite_flatMap, ← allFinite_flatMap,
    ← allFinite_append] at hdecode
  exact hdecode

/-- **A file is read as the ledger that it was written for, or not at all.** -/
theorem ofText_text {l : Ledger Float} (hnumbers : ∀ x ∈ l.numbers, ReadsBack x)
    (hdated : l.IsDated) : ofText l.text = verdict (allFinite l.numbers) l := by
  have hread : Reading.ofChars (l.toJson.prettyChars 0) = (Reading.ofJson l.toJson, some []) :=
    Json.ofChars_prettyChars l.isPlain_toJson
  simp only [ofText, Json.decodeText, text, Json.toLines, String.toList_ofList, Json.decodeChars,
    hread, decode_toJson hnumbers hdated]
  cases allFinite l.numbers <;> rfl

end Ledger
end ScooterFleet
