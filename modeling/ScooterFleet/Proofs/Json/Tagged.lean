import ScooterFleet.Proofs.Json.Whole
import ScooterFleet.Proofs.Store.Ledger
import ScooterFleet.Proofs.Text.Uuid
import ScooterFleet.Wire.Codec

/-!
# Tagged objects read back

A tagged object is taken in as a whole before its tag is looked at.  What is written is read again by way
of such a whole, and the reader is told the place of no fault that lies inside.

* `Json.word_value`, `Json.real_value`, `Json.decode_trip`, … — what is read of a value that was taken in
  as a whole;
* `Json.Legible` — a value that is read and taken in as itself, at some depth;
* `Json.decodeText_tagged` — **the text of a tagged object is read as the object.**

That doubles are read from the decimals that are written for them is asked of the numbers that occur
(`Json.ReadsBack`).
-/

namespace ScooterFleet

open Json (Fault Reading ReadsBack)
open Record

/-! ### Values taken in as wholes -/

namespace Json

theorem word_value (n : UInt64) : Decoder.word (.ofWord n : Json) = verdict true n := by
  have hnatural : Format.natural (.ofWord n : Json) = .ok n.toNat := rfl
  have hbelow : n.toNat < Nat.pow 2 64 := n.toNat_lt
  simp only [Decoder.word, Decoder.map, Decoder.below, hnatural, bind, Except.bind, if_pos hbelow,
    pure, Except.pure, Except.map, Nat.toUInt64_eq, UInt64.ofNat_toNat]
  rfl

theorem real_value {x : Float} (h : ReadsBack x) :
    Format.real (.ofFloat x : Json) = verdict x.isFinite x := by
  cases hx : x.isFinite with
  | true =>
    obtain ⟨n, hn⟩ : ∃ n, Layout.json.ofFloat x = some n := by simp [Layout.ofFloat, hx]
    simp only [ofFloat, hn, Format.real, h n hn]
    rfl
  | false =>
    have hn : Layout.json.ofFloat x = none := by simp [Layout.ofFloat, hx]
    simp only [ofFloat, hn, Format.real]
    rfl

theorem outcome_value (o : Outcome) :
    Decoder.oneOf Outcome.names (.text o.name : Json) = verdict true o := by
  cases o <;> rfl

theorem trip_value (trip : TripId) :
    Decoder.optional (Decoder.parsed Uuid.ofText?) (.text trip.text : Json) =
      verdict true (some trip) := by
  have htext : Format.text (.text trip.text : Json) = .ok trip.text := rfl
  have hpresent : Format.present (.text trip.text : Json) = .ok (some (.text trip.text)) := rfl
  simp only [Decoder.optional, hpresent, Decoder.parsed, htext, bind, Except.bind,
    Uuid.ofText?_text]
  rfl

/-- A scooter, or `null` for none. -/
theorem optional_word_value (n : Option UInt64) :
    Decoder.optional Decoder.word (.ofOption .ofWord n : Json) = verdict true n := by
  cases n with
  | none => rfl
  | some n =>
    have hpresent : Format.present (.ofWord n : Json) = .ok (some (.ofWord n)) := rfl
    simp only [ofOption, Decoder.optional, hpresent, bind, Except.bind, word_value]
    rfl

theorem shape_value (fs : List (String × Json)) :
    Format.shape (.object fs : Json) = .fields (fs.map fun f => .pair (.ok f.1) f.2) := rfl

/-- An object of a record's own fields, taken in as a whole. -/
theorem decode_value {α : Type} {r : Record Json α} {fs : List (String × Json)}
    {found : Except Fault α} (h : Record.Judges r fs found) (hnodup : (fs.map (·.1)).Nodup) :
    r.decode (.object fs) = found :=
  Record.decode_of_judges h hnodup (shape_value fs)

/-- The verdict on a record that ends with a trip, or without one. -/
theorem decode_trip {α : Type} {r : Record Json (Option TripId → α)} {fs : List (String × Json)}
    {good : Bool} {f : Option TripId → α} (h : Record.Judges r fs (verdict good f))
    (hnodup : (fs.map (·.1) ++ ["trip_id"]).Nodup) (trip : Option TripId) :
    (r <*> tripSlot).decode (.object (fs ++ tripField trip)) = verdict good (f trip) := by
  cases trip with
  | none =>
    have hdecode : (r <*> tripSlot).decode (.object (fs ++ tripField none)) =
        (verdict good f >>= fun f => (Except.ok none).map f) := by
      have hshape := shape_value (fs ++ tripField none)
      rw [show fs ++ tripField none = fs from List.append_nil fs] at hshape ⊢
      exact Record.decode_of_judges_unfilled h (by decide) _ _ hnodup hshape
    rw [hdecode]
    cases good <;> rfl
  | some trip =>
    have hjudges := Record.judges_seq h (Record.judges_slot "trip_id" .usual
      (Decoder.optional (Decoder.parsed Uuid.ofText?)) (.ok none) (.text trip.text : Json))
    have hnames : ((fs ++ tripField (some trip)).map (·.1)).Nodup := by
      rw [List.map_append]
      exact hnodup
    have hdecode : (r <*> tripSlot).decode (.object (fs ++ tripField (some trip))) = _ :=
      decode_value hjudges hnames
    rw [hdecode, trip_value, bind_verdict, Bool.and_true]

end Json

/-! ### Tagged objects -/

namespace Json

/-- A value whose text can be read, as a whole and with no more than `depth` lists and objects inside one
another. -/
structure Legible (depth : Nat) (v : Json) : Prop where
  plain : v.IsPlain
  inRange : v.InRange
  shallow : v.nesting ≤ depth

theorem legible_ofWord (depth : Nat) (n : UInt64) : Legible depth (ofWord n) where
  plain := isPlain_ofWord n
  inRange := by
    rw [ofWord, ofNat, InRange]
    exact Numeral.inRange_ofNat n.toNat_lt
  shallow := by
    rw [ofWord, ofNat, nesting]
    exact Nat.zero_le _

theorem legible_null (depth : Nat) : Legible depth .null where
  plain := by
    rw [IsPlain]
    trivial
  inRange := by
    rw [InRange]
    trivial
  shallow := by
    rw [nesting]
    exact Nat.zero_le _

theorem legible_text (depth : Nat) (s : String) : Legible depth (.text s) where
  plain := by
    rw [IsPlain]
    trivial
  inRange := by
    rw [InRange]
    trivial
  shallow := by
    rw [nesting]
    exact Nat.zero_le _

theorem legible_ofFloat (depth : Nat) {x : Float} (h : ReadsBack x) : Legible depth (ofFloat x) := by
  cases hx : x.isFinite with
  | true =>
    obtain ⟨n, hn⟩ : ∃ n, Layout.json.ofFloat x = some n := by simp [Layout.ofFloat, hx]
    have hnumber : ofFloat x = .number n := by simp only [ofFloat, hn]
    refine ⟨isPlain_ofFloat x, ?_, ?_⟩
    · rw [hnumber, InRange, Numeral.inRange, h n hn, hx, Bool.or_true]
    · rw [hnumber, nesting]
      exact Nat.zero_le _
  | false =>
    have hn : Layout.json.ofFloat x = none := by simp [Layout.ofFloat, hx]
    have hnull : ofFloat x = .null := by simp only [ofFloat, hn]
    rw [hnull]
    exact legible_null depth

theorem legible_fields {depth : Nat} {fs : List (String × Json)} (h : ∀ f ∈ fs, Legible depth f.2) :
    FieldsPlain fs ∧ FieldsInRange fs ∧ fieldsNesting fs ≤ depth := by
  induction fs with
  | nil =>
    rw [FieldsPlain, FieldsInRange, fieldsNesting]
    exact ⟨trivial, trivial, Nat.zero_le _⟩
  | cons f fs ih =>
    obtain ⟨hf, hmore⟩ := List.forall_mem_cons.mp h
    obtain ⟨hplain, hrange, hnesting⟩ := ih hmore
    rw [FieldsPlain, FieldsInRange, fieldsNesting]
    exact ⟨⟨hf.plain, hplain⟩, ⟨hf.inRange, hrange⟩, Nat.max_le.mpr ⟨hf.shallow, hnesting⟩⟩

theorem legible_object {depth : Nat} {fs : List (String × Json)} (h : ∀ f ∈ fs, Legible depth f.2) :
    Legible (depth + 1) (.object fs) := by
  obtain ⟨hplain, hrange, hnesting⟩ := legible_fields h
  refine ⟨?_, ?_, ?_⟩
  · rw [IsPlain]
    exact hplain
  · rw [InRange]
    exact hrange
  · rw [nesting]
    exact Nat.succ_le_succ hnesting

/-- A field that can be written behind a tag. -/
def Passes (f : String × Json) : Prop := f.1 ≠ "type" ∧ Legible (tagDepth - 1) f.2

theorem passes {k : String} {v : Json} (hk : k ≠ "type") (hv : Legible (tagDepth - 1) v) :
    Passes (k, v) := ⟨hk, hv⟩

/-- **The text of a tagged object is read as the tag and the other fields.** -/
theorem decodeText_tagged {α : Type} {d : Decoder Reading α} {tags : List String}
    {ofTagged : String → Decoder Json α}
    (hd : ∀ v, d v = (untag "type" tags v >>= fun out => ofTagged out.1 out.2)) {tag : String}
    (htag : tag ∈ tags) {fs : List (String × Json)} (h : ∀ f ∈ fs, Passes f) :
    decodeText d (tagged tag fs).toText = ofTagged tag (.object fs) := by
  obtain ⟨hplain, hrange, hnesting⟩ := legible_fields fun f hf => (h f hf).2
  have hobject : (tagged tag fs).IsPlain := by
    rw [tagged, IsPlain, FieldsPlain, IsPlain]
    exact ⟨trivial, hplain⟩
  have hread : Reading.ofChars (tagged tag fs).chars = (Reading.ofJson (tagged tag fs), some []) :=
    ofChars_chars hobject
  have huntag : untag "type" tags (Reading.ofJson (tagged tag fs)) = .ok (tag, .object fs) :=
    untag_tagged htag (fun f hf => (h f hf).1) hrange (Nat.lt_of_le_of_lt hnesting (by decide))
  simp only [decodeText, toText, String.toList_ofList, decodeChars, hread, hd, huntag]
  show (ofTagged tag (.object fs) >>= fun a => Except.ok a) = _
  cases ofTagged tag (.object fs) <;> rfl

end Json

end ScooterFleet
