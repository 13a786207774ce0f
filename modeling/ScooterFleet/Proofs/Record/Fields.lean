import Mathlib.Data.List.Nodup
import ScooterFleet.Proofs.Decimal.Numeral
import ScooterFleet.Record.Json

/-!
# Records read from their own fields

A document that has the fields of a record, each once and in the order of the slots, is what writing
makes.  What is read from it is then put together from what is read from each field, and the first
fault of a field is the fault of the whole.

* `Judges` — what a record makes of some fields;
* `judges_slot`, `judges_map`, `judges_seq` — **one for each way to build a record**;
* `decode_of_judges` — decoding gives what the record makes of the fields;
* `decode_of_judges_unfilled` — so it does where the last slot may be left, and is;
* `verdict` — a value, or the fault of a value of another type: what comes of words, doubles and lists.
-/

namespace ScooterFleet

open Json (Fault Reading Entries Items)

/-! ### Verdicts -/

/-- The value if it is good, and the fault of a mistyped value otherwise. -/
def verdict {α : Type} (good : Bool) (a : α) : Except Fault α :=
  if good then .ok a else .error .mistyped

section Verdict

variable {α β : Type}

theorem map_verdict (f : α → β) (good : Bool) (a : α) :
    (verdict good a).map f = verdict good (f a) := by
  cases good <;> rfl

theorem bind_verdict (good good' : Bool) (f : α → β) (a : α) :
    (verdict good f >>= fun f => (verdict good' a).map f) = verdict (good && good') (f a) := by
  cases good <;> cases good' <;> rfl

end Verdict

/-! ### Fields and slots -/

namespace Record

variable {σ α β : Type}

def fieldNames (fields : List (String × σ)) : List String := fields.map (·.1)

def slotNames (slots : List (Slot σ)) : List String := slots.map (·.name)

/-- The checks of some slots, each with the value of its field, in their order. -/
def checkAll : List (Slot σ) → List (String × σ) → Except Fault Unit
  | s :: slots, (_, v) :: fields => do
    s.check v
    checkAll slots fields
  | _, _ => .ok ()

theorem checkAll_append {slots slots' : List (Slot σ)} {fields fields' : List (String × σ)}
    (h : slotNames slots = fieldNames fields) :
    checkAll (slots ++ slots') (fields ++ fields') =
      (checkAll slots fields >>= fun _ => checkAll slots' fields') := by
  induction slots generalizing fields with
  | nil =>
    cases fields with
    | nil => rfl
    | cons f fields => cases h
  | cons s slots ih =>
    cases fields with
    | nil => cases h
    | cons f fields =>
      have hmore := ih (List.cons.inj h).2
      simp only [List.cons_append, checkAll, hmore]
      cases s.check f.2 <;> rfl

theorem find?_of_name {slots : List (Slot σ)} (hnodup : (slotNames slots).Nodup) {s : Slot σ}
    (hs : s ∈ slots) : slots.find? (·.name == s.name) = some s := by
  induction slots with
  | nil => cases hs
  | cons t slots ih =>
    obtain ⟨hnew, hmore⟩ := List.nodup_cons.mp hnodup
    rcases List.mem_cons.mp hs with rfl | hs
    · exact List.find?_cons_of_pos (beq_self_eq_true _)
    · have hother : (t.name == s.name) = false := by
        rw [beq_eq_false_iff_ne]
        intro he
        exact hnew (List.mem_map.mpr ⟨s, hs, he.symm⟩)
      rw [List.find?_cons_of_neg (by rw [hother]; decide)]
      exact ih hmore hs

theorem lookup_isSome_iff {found : List (String × σ)} {k : String} :
    (found.lookup k).isSome = true ↔ k ∈ fieldNames found := by
  induction found with
  | nil => simp [fieldNames]
  | cons f found ih =>
    obtain ⟨k', v⟩ := f
    by_cases h : k = k'
    · simp [h, fieldNames]
    · have hne : (k == k') = false := beq_eq_false_iff_ne.mpr h
      simp only [List.lookup_cons, hne, fieldNames, List.map_cons, List.mem_cons, h, false_or]
      exact ih

theorem lookup_of_mem {found : List (String × σ)} (hnodup : (fieldNames found).Nodup) {k : String}
    {v : σ} (h : (k, v) ∈ found) : found.lookup k = some v := by
  induction found with
  | nil => cases h
  | cons f found ih =>
    obtain ⟨k', v'⟩ := f
    obtain ⟨hnew, hmore⟩ := List.nodup_cons.mp hnodup
    rcases List.mem_cons.mp h with he | h
    · cases he
      simp
    · have hother : (k == k') = false := by
        rw [beq_eq_false_iff_ne]
        intro he
        exact hnew (List.mem_map.mpr ⟨(k, v), h, he⟩)
      simp only [List.lookup_cons, hother]
      exact ih hmore h

theorem lookup_reverse_of_mem {fields : List (String × σ)} (hnodup : (fieldNames fields).Nodup)
    {k : String} {v : σ} (h : (k, v) ∈ fields) : fields.reverse.lookup k = some v := by
  refine lookup_of_mem ?_ (List.mem_reverse.mpr h)
  rw [fieldNames, List.map_reverse, List.nodup_reverse]
  exact hnodup

/-! ### Verdicts -/

/-- What a record makes of fields that are its own: a value or the first fault of a field. -/
structure Judges (r : Record σ α) (fields : List (String × σ)) (verdict : Except Fault α) : Prop where
  names : slotNames r.slots = fieldNames fields
  checks : checkAll r.slots fields = verdict.map fun _ => ()
  builds : ∀ a, verdict = .ok a → ∀ found : String → Option σ,
    (∀ k v, (k, v) ∈ fields → found k = some v) → r.build found = .ok a

theorem judges_slot (name : String) (missing : Missing) (d : Decoder σ α) (absent : Except Fault α)
    (v : σ) : Judges (slot name missing d absent) [(name, v)] (d v) where
  names := rfl
  checks := by
    simp only [slot, checkAll]
    cases d v <;> rfl
  builds a ha found hfound := by
    have hv : found name = some v := hfound name v (List.mem_singleton_self _)
    simp only [slot, hv, ha]

theorem judges_required (name : String) (d : Decoder σ α) (v : σ) :
    Judges (required name d) [(name, v)] (d v) := judges_slot name .refused d (.error .mistyped) v

theorem judges_map (f : α → β) {r : Record σ α} {fields : List (String × σ)}
    {verdict : Except Fault α} (h : Judges r fields verdict) :
    Judges (f <$> r) fields (verdict.map f) where
  names := h.names
  checks := by
    have hslots : (f <$> r).slots = r.slots := rfl
    rw [hslots, h.checks]
    cases verdict <;> rfl
  builds b hb found hfound := by
    have hbuild : (f <$> r).build found = (r.build found).map f := rfl
    cases hverdict : verdict with
    | error fault =>
      rw [hverdict] at hb
      cases hb
    | ok a =>
      rw [hverdict] at hb
      cases hb
      rw [hbuild, h.builds a hverdict found hfound]
      rfl

theorem judges_seq {rf : Record σ (α → β)} {r : Record σ α} {fields fields' : List (String × σ)}
    {verdict : Except Fault (α → β)} {verdict' : Except Fault α} (hf : Judges rf fields verdict)
    (h : Judges r fields' verdict') :
    Judges (rf <*> r) (fields ++ fields') (verdict >>= fun f => verdict'.map f) where
  names := by
    have hslots : (rf <*> r).slots = rf.slots ++ r.slots := rfl
    have hfnames := hf.names
    have hnames := h.names
    rw [slotNames, fieldNames] at hfnames hnames
    rw [hslots, slotNames, fieldNames, List.map_append, List.map_append, hfnames, hnames]
  checks := by
    have hslots : (rf <*> r).slots = rf.slots ++ r.slots := rfl
    rw [hslots, checkAll_append hf.names, hf.checks, h.checks]
    cases verdict with
    | error fault => rfl
    | ok f => cases verdict' <;> rfl
  builds b hb found hfound := by
    have hbuild : (rf <*> r).build found =
        (rf.build found >>= fun f => (r.build found) >>= fun a => .ok (f a)) := rfl
    cases hverdict : verdict with
    | error fault =>
      rw [hverdict] at hb
      cases hb
    | ok f =>
      cases hverdict' : verdict' with
      | error fault =>
        rw [hverdict, hverdict'] at hb
        cases hb
      | ok a =>
        rw [hverdict, hverdict'] at hb
        cases hb
        have hg := hf.builds f hverdict found fun k v hm => hfound k v (List.mem_append_left _ hm)
        have ha := h.builds a hverdict' found fun k v hm => hfound k v (List.mem_append_right _ hm)
        rw [hbuild, hg, ha]
        rfl

/-! ### Decoding -/

section Filling

variable {before slots : List (Slot σ)} {found : List (String × σ)}
  (hbefore : fieldNames found = (slotNames before).reverse)
include hbefore

/-- A slot whose field was found is not missing. -/
theorem isNone_of_found {s : Slot σ} (hs : s ∈ before) : (found.lookup s.name).isNone = false := by
  have hsome : (found.lookup s.name).isSome = true := by
    rw [lookup_isSome_iff, hbefore, List.mem_reverse]
    exact List.mem_map_of_mem hs
  rw [← Option.not_isSome, hsome]
  rfl

/-- Nothing is missing but what may be. -/
theorem checkMissing_of_found {after : List (Slot σ)} (hafter : ∀ s ∈ after, s.missing ≠ .refused) :
    checkMissing (· != .refused)
      ((before ++ after).filter fun s => (found.lookup s.name).isNone) = .ok () := by
  refine if_pos (List.all_eq_true.mpr fun s hs => ?_)
  obtain ⟨hs, hnone⟩ := List.mem_filter.mp hs
  rcases List.mem_append.mp hs with hs | hs
  · rw [isNone_of_found hbefore hs] at hnone
    cases hnone
  · exact bne_iff_ne.mpr (hafter s hs)

/-- The field of a slot behind these has not been found. -/
theorem lookup_of_later {s : Slot σ} (hnodup : (slotNames (before ++ s :: slots)).Nodup) :
    (found.lookup s.name).isSome = false := by
  rw [Bool.eq_false_iff]
  intro hsome
  rw [lookup_isSome_iff, hbefore, List.mem_reverse] at hsome
  rw [slotNames, List.map_append, List.nodup_append] at hnodup
  exact hnodup.2.2 _ hsome _ (List.mem_map_of_mem (List.mem_cons_self ..)) rfl

theorem fieldNames_cons_found (s : Slot σ) (v : σ) :
    fieldNames ((s.name, v) :: found) = (slotNames (before ++ [s])).reverse := by
  have hnames : slotNames (before ++ [s]) = slotNames before ++ [s.name] := List.map_append
  rw [hnames, List.reverse_concat, ← hbefore]
  rfl

end Filling

variable [Format σ]

/-- Filling the slots of a record one after the other.  Slots behind them may be left. -/
theorem fillByName_fields {before slots after : List (Slot σ)} {found fields : List (String × σ)}
    (hnodup : (slotNames (before ++ (slots ++ after))).Nodup)
    (hbefore : fieldNames found = (slotNames before).reverse)
    (hnames : slotNames slots = fieldNames fields)
    (hafter : ∀ s ∈ after, s.missing ≠ .refused) :
    fillByName (before ++ (slots ++ after)) found (fields.map fun f => .pair (.ok f.1) f.2) =
      (checkAll slots fields).map fun _ => fields.reverse ++ found := by
  induction slots generalizing before found fields with
  | nil =>
    cases fields with
    | cons f fields => cases hnames
    | nil =>
      simp only [List.map_nil, List.nil_append, fillByName, checkMissing_of_found hbefore hafter,
        checkAll]
      rfl
  | cons s slots ih =>
    cases fields with
    | nil => cases hnames
    | cons f fields =>
      obtain ⟨k, v⟩ := f
      obtain ⟨rfl, hmore⟩ : s.name = k ∧ slotNames slots = fieldNames fields := List.cons.inj hnames
      have hslot : (before ++ (s :: slots ++ after)).find? (·.name == s.name) = some s :=
        find?_of_name hnodup (List.mem_append_right _ (List.mem_cons_self ..))
      have hfresh := lookup_of_later hbefore hnodup
      have hsplit : before ++ (s :: slots ++ after) = (before ++ [s]) ++ (slots ++ after) := by simp
      have hfill := ih (hsplit ▸ hnodup) (fieldNames_cons_found hbefore s v) hmore
      rw [← hsplit] at hfill
      simp only [List.map_cons, fillByName, hslot, hfresh, checkAll, bind, Except.bind,
        Bool.false_eq_true, if_false, hfill]
      cases s.check v with
      | error f => rfl
      | ok _ =>
        simp only [List.reverse_cons, List.append_assoc, List.singleton_append]

/-- What is built from the fields of some slots, with the slots behind them left. -/
theorem decode_of_fields {r : Record σ α} {slots after : List (Slot σ)} {fields : List (String × σ)}
    (hslots : r.slots = slots ++ after) (hnodup : (slotNames r.slots).Nodup)
    (hnames : slotNames slots = fieldNames fields) (hafter : ∀ s ∈ after, s.missing ≠ .refused)
    {v : σ} (hv : Format.shape v = .fields (fields.map fun f => .pair (.ok f.1) f.2)) :
    r.decode v = (checkAll slots fields >>= fun _ => r.build (fields.reverse.lookup ·)) := by
  rw [hslots] at hnodup
  have hfill : fillByName ([] ++ (slots ++ after)) [] (fields.map fun f => .pair (.ok f.1) f.2) = _ :=
    fillByName_fields hnodup rfl hnames hafter
  rw [List.nil_append] at hfill
  simp only [decode, hv, hslots, hfill, List.append_nil]
  cases checkAll slots fields <;> rfl

/-- **Decoding a record's own fields gives the verdict on them.** -/
theorem decode_of_judges {r : Record σ α} {fields : List (String × σ)} {verdict : Except Fault α}
    (h : Judges r fields verdict) (hnodup : (fieldNames fields).Nodup) {v : σ}
    (hv : Format.shape v = .fields (fields.map fun f => .pair (.ok f.1) f.2)) :
    r.decode v = verdict := by
  have hslots : r.slots = r.slots ++ [] := (List.append_nil _).symm
  have hdecode := decode_of_fields hslots (h.names ▸ hnodup) h.names (List.forall_mem_nil _) hv
  rw [hdecode, h.checks]
  cases hverdict : verdict with
  | error fault => rfl
  | ok a => exact h.builds a hverdict _ fun k v hm => lookup_reverse_of_mem hnodup hm

/-- With its last slot left, a record takes what is usual there. -/
theorem decode_of_judges_unfilled {r : Record σ (α → β)} {fields : List (String × σ)}
    {verdict : Except Fault (α → β)} (h : Judges r fields verdict) {name : String}
    {missing : Missing} (hmissing : missing ≠ .refused) (d : Decoder σ α) (absent : Except Fault α)
    (hnodup : (fieldNames fields ++ [name]).Nodup) {v : σ}
    (hv : Format.shape v = .fields (fields.map fun f => .pair (.ok f.1) f.2)) :
    (r <*> slot name missing d absent).decode v = (verdict >>= fun f => absent.map f) := by
  obtain ⟨hown, -, hother⟩ := List.nodup_append.mp hnodup
  have hslots : (r <*> slot name missing d absent).slots =
      r.slots ++ (slot name missing d absent).slots := rfl
  have hnames : slotNames (r <*> slot name missing d absent).slots = fieldNames fields ++ [name] := by
    have hfields := h.names
    rw [slotNames] at hfields
    rw [hslots, slotNames, List.map_append, hfields]
    rfl
  have hdecode := decode_of_fields (v := v) hslots (hnames ▸ hnodup) h.names
    (fun s hs => by rw [List.mem_singleton.mp hs]; exact hmissing) hv
  have hleft : fields.reverse.lookup name = none := by
    rw [← Option.not_isSome_iff_eq_none, lookup_isSome_iff, fieldNames, List.map_reverse,
      List.mem_reverse]
    exact fun hmem => hother name hmem name (List.mem_singleton_self _) rfl
  have hslot : (slot name missing d absent).build (fields.reverse.lookup ·) = absent := by
    simp only [slot, hleft]
  have hbuild : (r <*> slot name missing d absent).build (fields.reverse.lookup ·) =
      (r.build (fields.reverse.lookup ·) >>= fun g =>
        (slot name missing d absent).build (fields.reverse.lookup ·) >>= fun a => .ok (g a)) := rfl
  rw [hdecode, h.checks, hbuild, hslot]
  cases hverdict : verdict with
  | error fault => rfl
  | ok f =>
    have hg := h.builds f hverdict _ fun k v hm => lookup_reverse_of_mem hown hm
    show (r.build (fields.reverse.lookup ·) >>= fun g => absent >>= fun a => .ok (g a)) = absent.map f
    rw [hg]
    cases absent <;> rfl

end Record

/-! ### Values that were written -/

namespace Json

theorem toFields_ofList (fs : List (String × Json)) :
    (Entries.ofList fs).toFields =
      (fs.map fun f => (f.1, Reading.ofJson f.2)).map fun f => .pair (.ok f.1) f.2 := by
  induction fs with
  | nil => simp [Entries.ofList, Entries.toFields]
  | cons f fs ih => simp [Entries.ofList, Entries.toFields, ih]

theorem toItems_ofList (vs : List Json) :
    (Items.ofList vs).toItems = vs.map fun v => .value (Reading.ofJson v) := by
  induction vs with
  | nil => simp [Items.ofList, Items.toItems]
  | cons v vs ih => simp [Items.ofList, Items.toItems, ih]

theorem shape_object (fs : List (String × Json)) :
    Format.shape (Reading.ofJson (.object fs)) =
      .fields ((fs.map fun f => (f.1, Reading.ofJson f.2)).map fun f => .pair (.ok f.1) f.2) := by
  rw [Reading.ofJson, ← toFields_ofList]
  rfl

/-- An object of a record's own fields is read by the verdict on them. -/
theorem decode_object {α : Type} {r : Record Reading α} (fs : List (String × Json))
    {found : Except Fault α} (h : Record.Judges r (fs.map fun f => (f.1, Reading.ofJson f.2)) found)
    (hnodup : (fs.map (·.1)).Nodup) : r.decode (Reading.ofJson (.object fs)) = found := by
  refine Record.decode_of_judges h ?_ (shape_object fs)
  rw [Record.fieldNames, List.map_map]
  exact hnodup

theorem shape_list (vs : List Json) :
    Format.shape (Reading.ofJson (.list vs)) =
      .items (vs.map fun v => .value (Reading.ofJson v)) := by
  rw [Reading.ofJson, ← toItems_ofList]
  rfl

/-! ### Lists, words and doubles -/

/-- The verdict on a list is good if it is so for all of its items. -/
theorem items_verdict {α : Type} {d : Decoder Reading α} {write : α → Json} {good : α → Bool}
    {as : List α} (h : ∀ a ∈ as, d (Reading.ofJson (write a)) = verdict (good a) a) :
    Decoder.list d (Reading.ofJson (.list (as.map write))) = verdict (as.all good) as := by
  have hitems : Decoder.items d ((as.map write).map fun v => .value (Reading.ofJson v)) =
      verdict (as.all good) as := by
    induction as with
    | nil => rfl
    | cons a as ih =>
      have hmore := ih fun b hb => h b (List.mem_cons_of_mem _ hb)
      simp only [List.map_cons, Decoder.items, h a (List.mem_cons_self ..), hmore, List.all_cons]
      cases good a <;> cases as.all good <;> rfl
  simp only [Decoder.list, Json.shape_list, hitems]


theorem word_ofWord (n : UInt64) : Decoder.word (Reading.ofJson (.ofWord n)) = verdict true n := by
  have hrange : (Numeral.ofNat n.toNat).inRange = true := Numeral.inRange_ofNat n.toNat_lt
  have hnatural : Format.natural (Reading.ofJson (.ofWord n)) = .ok n.toNat := by
    simp only [ofWord, ofNat, Reading.ofJson, Format.natural, hrange, if_true,
      Numeral.toNat?_ofNat]
  have hbelow : n.toNat < Nat.pow 2 64 := n.toNat_lt
  simp only [Decoder.word, Decoder.map, Decoder.below, hnatural, bind, Except.bind, if_pos hbelow,
    pure, Except.pure, Except.map, Nat.toUInt64_eq, UInt64.ofNat_toNat]
  rfl

/-- The numeral that is written for a double is read as this double. -/
def ReadsBack (x : Float) : Prop := ∀ n, Layout.json.ofFloat x = some n → n.toFloat = x

theorem readsBack_of_map {x : Float} (h : (Layout.json.ofFloat x).map Numeral.toFloat = some x) :
    ReadsBack x := by
  intro n hn
  rw [hn, Option.map_some, Option.some_inj] at h
  exact h

/-- No numeral is written for what is not finite. -/
theorem readsBack_of_not_isFinite {x : Float} (h : x.isFinite = false) : ReadsBack x := by
  intro n hn
  simp [Layout.ofFloat, h] at hn

theorem real_ofFloat {x : Float} (h : ReadsBack x) :
    Format.real (Reading.ofJson (.ofFloat x)) = verdict x.isFinite x := by
  cases hx : x.isFinite with
  | true =>
    obtain ⟨n, hn⟩ : ∃ n, Layout.json.ofFloat x = some n := by simp [Layout.ofFloat, hx]
    have hrange : n.inRange = true := by rw [Numeral.inRange, h n hn, hx, Bool.or_true]
    simp only [ofFloat, hn, Reading.ofJson, Format.real, hrange, h n hn, if_true]
    rfl
  | false =>
    have hn : Layout.json.ofFloat x = none := by simp [Layout.ofFloat, hx]
    simp only [ofFloat, hn, Reading.ofJson, Format.real]
    rfl

end Json
end ScooterFleet
