import ScooterFleet.Json.Reading
import ScooterFleet.Proofs.Decimal.Numeral
import ScooterFleet.Proofs.Json.Text

/-!
# Values read back

The texts of a value differ in their blanks only.  With any blanks at the places where they may stand,
the text is read as the value.

* `Spacing` / `spaced` — a text of a value with the blanks of a spacing;
* `prettyChars_eq_spaced`, `chars_eq_spaced` — the text on lines and the one without blanks are such;
* `IsPlain` — the values whose numerals can be read back;
* `readValue_spaced` — **reading takes off the value and stops behind it**;
* `ofChars_prettyChars`, `ofChars_chars` — the reading of a whole text.
-/

namespace ScooterFleet
namespace Json

/-! ### Spaced texts -/

/-- The blanks of a text. -/
structure Spacing where
  /-- In front of items, fields and the bracket that closes them, at a depth. -/
  line : Nat → List Char
  /-- Behind the colon of a field. -/
  gap : List Char

structure Spacing.IsBlank (s : Spacing) : Prop where
  line : ∀ depth, ∀ c ∈ s.line depth, isBlank c = true
  gap : ∀ c ∈ s.gap, isBlank c = true

mutual

def spaced (s : Spacing) (depth : Nat) : Json → List Char
  | .null => ['n', 'u', 'l', 'l']
  | .bool true => ['t', 'r', 'u', 'e']
  | .bool false => ['f', 'a', 'l', 's', 'e']
  | .number n => n.chars
  | .text t => Text.chars t.toList
  | .list [] => ['[', ']']
  | .list (v :: vs) =>
    '[' :: (s.line (depth + 1) ++ (spaced s (depth + 1) v ++ spacedItems s depth vs))
  | .object [] => ['\x7b', '\x7d']
  | .object ((k, v) :: fs) =>
    '\x7b' :: (s.line (depth + 1) ++ (Text.chars k.toList ++
      ':' :: (s.gap ++ (spaced s (depth + 1) v ++ spacedFields s depth fs))))

/-- The items behind the first one, and the closing bracket. -/
def spacedItems (s : Spacing) (depth : Nat) : List Json → List Char
  | [] => s.line depth ++ [']']
  | v :: vs => ',' :: (s.line (depth + 1) ++ (spaced s (depth + 1) v ++ spacedItems s depth vs))

/-- The fields behind the first one, and the closing brace. -/
def spacedFields (s : Spacing) (depth : Nat) : List (String × Json) → List Char
  | [] => s.line depth ++ ['\x7d']
  | (k, v) :: fs =>
    ',' :: (s.line (depth + 1) ++ (Text.chars k.toList ++
      ':' :: (s.gap ++ (spaced s (depth + 1) v ++ spacedFields s depth fs))))

end

/-- Lines indented by two blanks, and a blank behind each colon. -/
def Spacing.lines : Spacing := ⟨newLine, [' ']⟩

theorem Spacing.isBlank_lines : Spacing.lines.IsBlank := by
  constructor
  · intro depth c hc
    rcases List.mem_cons.mp hc with rfl | hc
    · rfl
    · rw [List.eq_of_mem_replicate hc]
      rfl
  · intro c hc
    rw [List.mem_singleton.mp hc]
    rfl

mutual

theorem prettyChars_eq_spaced (depth : Nat) : (v : Json) →
    prettyChars depth v = spaced .lines depth v
  | .null | .bool true | .bool false | .number _ | .text _ | .list [] | .object [] => by
    simp only [prettyChars, spaced]
  | .list (v :: vs) => by
    simp only [prettyChars, spaced, prettyChars_eq_spaced (depth + 1) v,
      prettyItems_eq_spaced depth vs, Spacing.lines, List.cons_append, List.append_assoc]
  | .object ((k, v) :: fs) => by
    simp only [prettyChars, spaced, prettyChars_eq_spaced (depth + 1) v,
      prettyFields_eq_spaced depth fs, Spacing.lines, List.cons_append, List.nil_append,
      List.append_assoc]

theorem prettyItems_eq_spaced (depth : Nat) : (vs : List Json) →
    prettyItems depth vs = spacedItems .lines depth vs
  | [] => by simp only [prettyItems, spacedItems, Spacing.lines]
  | v :: vs => by
    simp only [prettyItems, spacedItems, prettyChars_eq_spaced (depth + 1) v,
      prettyItems_eq_spaced depth vs, Spacing.lines, List.cons_append, List.append_assoc]

theorem prettyFields_eq_spaced (depth : Nat) : (fs : List (String × Json)) →
    prettyFields depth fs = spacedFields .lines depth fs
  | [] => by simp only [prettyFields, spacedFields, Spacing.lines]
  | (k, v) :: fs => by
    simp only [prettyFields, spacedFields, prettyChars_eq_spaced (depth + 1) v,
      prettyFields_eq_spaced depth fs, Spacing.lines, List.cons_append, List.nil_append,
      List.append_assoc]

end

/-- No blanks. -/
def Spacing.tight : Spacing := ⟨fun _ => [], []⟩

theorem Spacing.isBlank_tight : Spacing.tight.IsBlank := ⟨nofun, nofun⟩

mutual

theorem chars_eq_spaced (depth : Nat) : (v : Json) → chars v = spaced .tight depth v
  | .null | .bool true | .bool false | .number _ | .text _ | .list [] | .object [] => by
    simp only [chars, spaced]
  | .list (v :: vs) => by
    simp only [chars, spaced, chars_eq_spaced (depth + 1) v, itemsChars_eq_spaced depth vs,
      Spacing.tight, List.nil_append, List.cons_append]
  | .object ((k, v) :: fs) => by
    simp only [chars, spaced, chars_eq_spaced (depth + 1) v, fieldsChars_eq_spaced depth fs,
      Spacing.tight, List.cons_append, List.nil_append, List.append_assoc]

theorem itemsChars_eq_spaced (depth : Nat) : (vs : List Json) →
    itemsChars vs = spacedItems .tight depth vs
  | [] => by simp only [itemsChars, spacedItems, Spacing.tight, List.nil_append]
  | v :: vs => by
    simp only [itemsChars, spacedItems, chars_eq_spaced (depth + 1) v,
      itemsChars_eq_spaced depth vs, Spacing.tight, List.nil_append, List.cons_append]

theorem fieldsChars_eq_spaced (depth : Nat) : (fs : List (String × Json)) →
    fieldsChars fs = spacedFields .tight depth fs
  | [] => by simp only [fieldsChars, spacedFields, Spacing.tight, List.nil_append]
  | (k, v) :: fs => by
    simp only [fieldsChars, spacedFields, chars_eq_spaced (depth + 1) v,
      fieldsChars_eq_spaced depth fs, Spacing.tight, List.cons_append, List.nil_append,
      List.append_assoc]

end

mutual

/-- Every numeral in the value has a digit behind its point, if it has a point. -/
def IsPlain : Json → Prop
  | .number n => n.places ≠ some 0
  | .list vs => ArePlain vs
  | .object fs => FieldsPlain fs
  | .null | .bool _ | .text _ => True

def ArePlain : List Json → Prop
  | [] => True
  | v :: vs => v.IsPlain ∧ ArePlain vs

def FieldsPlain : List (String × Json) → Prop
  | [] => True
  | (_, v) :: fs => v.IsPlain ∧ FieldsPlain fs

end

/-! ### Blanks -/

theorem skipBlanks_append {bs : List Char} (h : ∀ c ∈ bs, isBlank c = true) (cs : List Char) :
    skipBlanks (bs ++ cs) = skipBlanks cs := List.dropWhile_append_of_pos h

theorem skipBlanks_cons {c : Char} (h : isBlank c = false) (cs : List Char) :
    skipBlanks (c :: cs) = c :: cs := by
  rw [skipBlanks, List.dropWhile_cons_of_neg (by rw [h]; decide)]

theorem stops_cons {c : Char} (h : c = ',' ∨ c = ']' ∨ c = '\x7d' ∨ isBlank c = true)
    (cs : List Char) : Numeral.Stops (c :: cs) := by
  rintro d ⟨⟩
  simp only [isBlank, Bool.or_eq_true, decide_eq_true_eq] at h
  rcases h with rfl | rfl | rfl | ((rfl | rfl) | rfl) | rfl <;> decide

theorem stops_blanks {bs : List Char} (h : ∀ c ∈ bs, isBlank c = true) {cs : List Char}
    (hcs : Numeral.Stops cs) : Numeral.Stops (bs ++ cs) := by
  cases bs with
  | nil => exact hcs
  | cons b bs => exact stops_cons (.inr (.inr (.inr (h b (List.mem_cons_self ..))))) _

variable {s : Spacing}

theorem stops_spacedItems (hs : s.IsBlank) (depth : Nat) (vs : List Json) (rest : List Char) :
    Numeral.Stops (spacedItems s depth vs ++ rest) := by
  cases vs with
  | nil =>
    rw [spacedItems, List.append_assoc]
    exact stops_blanks (hs.line depth) (stops_cons (.inr (.inl rfl)) rest)
  | cons v vs =>
    rw [spacedItems, List.cons_append]
    exact stops_cons (.inl rfl) _

theorem stops_spacedFields (hs : s.IsBlank) (depth : Nat) (fs : List (String × Json))
    (rest : List Char) : Numeral.Stops (spacedFields s depth fs ++ rest) := by
  cases fs with
  | nil =>
    rw [spacedFields, List.append_assoc]
    exact stops_blanks (hs.line depth) (stops_cons (.inr (.inr (.inl rfl))) rest)
  | cons f fs =>
    rw [spacedFields, List.cons_append]
    exact stops_cons (.inl rfl) _

/-! ### The front of a value -/

theorem isNumeralStart_of_chars (n : Numeral) :
    ∃ c cs, n.chars = c :: cs ∧ (c = '-' ∨ c.isDigit = true) := by
  unfold Numeral.chars
  cases n.negative with
  | true => exact ⟨'-', _, rfl, .inl rfl⟩
  | false =>
    cases hd : Numeral.natChars (n.digits / Nat.pow 10 (n.places.getD 0)) with
    | nil => exact absurd hd (Numeral.natChars_ne_nil _)
    | cons d ds =>
      exact ⟨d, _, rfl, .inr (Numeral.isDigit_of_mem_natChars (hd ▸ List.mem_cons_self ..))⟩

/-- A value starts with a character that is neither a blank nor a closing bracket. -/
theorem spaced_eq_cons (s : Spacing) (depth : Nat) (v : Json) :
    ∃ c cs, spaced s depth v = c :: cs ∧ isBlank c = false ∧ c ≠ ']' := by
  cases v with
  | null => exact ⟨'n', _, by rw [spaced], rfl, by decide⟩
  | bool b =>
    cases b with
    | true => exact ⟨'t', _, by rw [spaced], rfl, by decide⟩
    | false => exact ⟨'f', _, by rw [spaced], rfl, by decide⟩
  | number n =>
    obtain ⟨c, cs, hchars, hc⟩ := isNumeralStart_of_chars n
    refine ⟨c, cs, by rw [spaced, hchars], ?_, ?_⟩
    · rcases hc with rfl | hc
      · rfl
      · rw [Bool.eq_false_iff]
        intro hblank
        simp only [isBlank, Bool.or_eq_true, decide_eq_true_eq] at hblank
        rcases hblank with ((rfl | rfl) | rfl) | rfl <;> cases hc
    · rintro rfl
      rcases hc with hc | hc <;> cases hc
  | text t => exact ⟨'"', _, by rw [spaced]; rfl, rfl, by decide⟩
  | list vs =>
    cases vs with
    | nil => exact ⟨'[', _, by rw [spaced], rfl, by decide⟩
    | cons v vs => exact ⟨'[', _, by rw [spaced], rfl, by decide⟩
  | object fs =>
    cases fs with
    | nil => exact ⟨'\x7b', _, by rw [spaced], rfl, by decide⟩
    | cons f fs => exact ⟨'\x7b', _, by rw [spaced], rfl, by decide⟩

theorem length_spaced_pos (s : Spacing) (depth : Nat) (v : Json) :
    0 < (spaced s depth v).length := by
  obtain ⟨c, cs, hv, -⟩ := spaced_eq_cons s depth v
  rw [hv]
  exact Nat.succ_pos _

theorem length_spacedItems_pos (s : Spacing) (depth : Nat) (vs : List Json) :
    0 < (spacedItems s depth vs).length := by
  cases vs <;> simp [spacedItems]

theorem length_spacedFields_pos (s : Spacing) (depth : Nat) (fs : List (String × Json)) :
    0 < (spacedFields s depth fs).length := by
  cases fs <;> simp [spacedFields]

/-! ### One value -/

theorem readValue_blanks {bs : List Char} (h : ∀ c ∈ bs, isBlank c = true) (fuel : Nat)
    (cs : List Char) : readValue fuel (bs ++ cs) = readValue fuel cs := by
  cases fuel with
  | zero => rfl
  | succ fuel => simp only [readValue, skipBlanks_append h]

theorem readValue_number {n : Numeral} (hplaces : n.places ≠ some 0) (fuel : Nat)
    {rest : List Char} (hrest : Numeral.Stops rest) :
    readValue (fuel + 1) (n.chars ++ rest) = (.number n, some rest) := by
  obtain ⟨c, cs, hchars, hc⟩ := isNumeralStart_of_chars n
  have hread : readNumber (c :: (cs ++ rest)) = (.number n, some rest) := by
    have hnumeral := Numeral.read_chars hplaces hrest
    rw [hchars, List.cons_append] at hnumeral
    simp only [readNumber, hnumeral]
  have hblank : isBlank c = false := by
    obtain ⟨c', cs', hv, hblank, -⟩ := spaced_eq_cons ⟨fun _ => [], []⟩ 0 (.number n)
    rw [spaced, hchars] at hv
    rw [(List.cons.inj hv).1]
    exact hblank
  have hstart : (decide (c = '-') || c.isDigit) = true := by
    rcases hc with rfl | hc
    · rfl
    · rw [hc, Bool.or_true]
  have hother : ∀ d : Char, (decide (d = '-') || d.isDigit) = false → c ≠ d := by
    rintro d hd rfl
    rw [hstart] at hd
    cases hd
  rw [hchars, List.cons_append, readValue, skipBlanks_cons hblank]
  simp only [if_neg (hother 'n' rfl), if_neg (hother 't' rfl), if_neg (hother 'f' rfl),
    if_neg (hother '"' rfl), if_neg (hother '[' rfl), if_neg (hother '\x7b' rfl), hstart, if_true,
    hread]

theorem readText_chars (t : String) (rest : List Char) :
    readText (t.toList.flatMap Text.escape ++ '"' :: rest) = (.text (.ok t), some rest) := by
  have hwanted : wantedText (t.toList.flatMap Text.escape ++ '"' :: rest) = .ok t := by
    rw [wantedText, Text.read_chars]
    exact congrArg Except.ok String.ofList_toList
  simp only [readText, Text.skip_chars, hwanted]

theorem readValue_text (t : String) (fuel : Nat) (rest : List Char) :
    readValue (fuel + 1) (Text.chars t.toList ++ rest) = (.text (.ok t), some rest) := by
  rw [Text.chars_append, readValue, skipBlanks_cons rfl]
  exact readText_chars t rest

theorem readValue_list (fuel : Nat) (cs : List Char) :
    readValue (fuel + 1) ('[' :: cs) =
      (.list (readItems fuel true cs).1, (readItems fuel true cs).2) := by
  rw [readValue, skipBlanks_cons rfl]
  rfl

theorem readValue_object (fuel : Nat) (cs : List Char) :
    readValue (fuel + 1) ('\x7b' :: cs) =
      (.object (readEntries fuel true cs).1, (readEntries fuel true cs).2) := by
  rw [readValue, skipBlanks_cons rfl]
  rfl

/-! ### One item -/

section Items

variable {bs : List Char} (hbs : ∀ c ∈ bs, isBlank c = true) {fuel : Nat}
include hbs

theorem readItems_closed (first : Bool) (rest : List Char) :
    readItems (fuel + 1) first (bs ++ ']' :: rest) = (.closed, some rest) := by
  rw [readItems, skipBlanks_append hbs, skipBlanks_cons rfl]
  rfl

variable {depth : Nat} {v : Json} {tail : List Char} {r : Reading} {more : Items}
  {after : Option (List Char)} (hv : readValue fuel (spaced s depth v ++ tail) = (r, some tail))
  (hmore : readItems fuel false tail = (more, after))
include hv hmore

theorem readItems_first :
    readItems (fuel + 2) true (bs ++ (spaced s depth v ++ tail)) = (.item r more, after) := by
  obtain ⟨c, cs, hcs, hblank, hclose⟩ := spaced_eq_cons s depth v
  rw [hcs, List.cons_append] at hv ⊢
  rw [readItems, skipBlanks_append hbs, skipBlanks_cons hblank]
  simp only [if_neg hclose, if_true, readItem, hv, hmore]

theorem readItems_next :
    readItems (fuel + 2) false (',' :: (bs ++ (spaced s depth v ++ tail))) =
      (.item r more, after) := by
  obtain ⟨c, cs, hcs, hblank, hclose⟩ := spaced_eq_cons s depth v
  rw [hcs, List.cons_append] at hv ⊢
  have hcomma : (',' : Char) ≠ ']' := by decide
  rw [readItems, skipBlanks_cons rfl]
  simp only [if_neg hcomma, Bool.false_eq_true, if_false, if_true, skipBlanks_append hbs,
    skipBlanks_cons hblank, if_neg hclose, readItem, hv, hmore]

end Items

/-! ### One field -/

section Fields

variable {bs : List Char} (hbs : ∀ c ∈ bs, isBlank c = true) {fuel : Nat}
include hbs

theorem readEntries_closed (first : Bool) (rest : List Char) :
    readEntries (fuel + 1) first (bs ++ '\x7d' :: rest) = (.closed, some rest) := by
  rw [readEntries, skipBlanks_append hbs, skipBlanks_cons rfl]
  rfl

variable {gap : List Char} (hgap : ∀ c ∈ gap, isBlank c = true) {k : String} {cs tail : List Char}
  {r : Reading} {more : Entries} {after : Option (List Char)}
  (hv : readValue fuel cs = (r, some tail)) (hmore : readEntries fuel false tail = (more, after))

omit hbs in
include hgap hv hmore in
theorem readEntry_key (first : Bool) :
    readEntry (fuel + 1) first (k.toList.flatMap Text.escape ++ '"' :: ':' :: (gap ++ cs)) =
      (.entry (.ok k) r more, after) := by
  have hwanted : wantedText (k.toList.flatMap Text.escape ++ '"' :: ':' :: (gap ++ cs)) = .ok k := by
    rw [wantedText, Text.read_chars]
    exact congrArg Except.ok String.ofList_toList
  have hvalue : readValue fuel (gap ++ cs) = (r, some tail) := by
    rw [readValue_blanks hgap, hv]
  simp only [readEntry, Text.skip_chars, skipBlanks_cons (c := ':') rfl, if_true, hvalue, hwanted,
    hmore]

include hgap hv hmore

theorem readEntries_first :
    readEntries (fuel + 2) true (bs ++ (Text.chars k.toList ++ ':' :: (gap ++ cs))) =
      (.entry (.ok k) r more, after) := by
  have hquote : ('"' : Char) ≠ '\x7d' := by decide
  rw [Text.chars_append, readEntries, skipBlanks_append hbs, skipBlanks_cons rfl]
  simp only [if_neg hquote, if_true, readEntry_key hgap hv hmore]

theorem readEntries_next :
    readEntries (fuel + 2) false (',' :: (bs ++ (Text.chars k.toList ++ ':' :: (gap ++ cs)))) =
      (.entry (.ok k) r more, after) := by
  have hcomma : (',' : Char) ≠ '\x7d' := by decide
  rw [Text.chars_append, readEntries, skipBlanks_cons rfl]
  simp only [if_neg hcomma, Bool.false_eq_true, if_false, if_true, skipBlanks_append hbs,
    skipBlanks_cons (c := '"') rfl, readEntry_key hgap hv hmore]

end Fields

/-! ### Whole values -/

mutual

/-- **Reading takes a value off its text**, with two units of fuel for each character. -/
theorem readValue_spaced (hs : s.IsBlank) : (v : Json) → (depth fuel : Nat) → (rest : List Char) →
    v.IsPlain → Numeral.Stops rest → 2 * (spaced s depth v).length ≤ fuel →
    readValue fuel (spaced s depth v ++ rest) = (Reading.ofJson v, some rest)
  | .null, depth, fuel + 1, rest, _, _, _ => by
    rw [spaced, Reading.ofJson]
    rfl
  | .bool true, depth, fuel + 1, rest, _, _, _ => by
    rw [spaced, Reading.ofJson]
    rfl
  | .bool false, depth, fuel + 1, rest, _, _, _ => by
    rw [spaced, Reading.ofJson]
    rfl
  | .number n, depth, fuel, rest, hplain, hrest, hfuel => by
    have hpos := length_spaced_pos s depth (.number n)
    obtain ⟨fuel, rfl⟩ : ∃ k, fuel = k + 1 := ⟨fuel - 1, by omega⟩
    rw [IsPlain] at hplain
    rw [spaced, readValue_number hplain fuel hrest, Reading.ofJson]
  | .text t, depth, fuel + 1, rest, _, _, _ => by
    rw [spaced, readValue_text, Reading.ofJson]
  | .list [], depth, fuel + 2, rest, _, _, _ => by
    have hclosed : readItems (fuel + 1) true (']' :: rest) = (.closed, some rest) :=
      readItems_closed (List.forall_mem_nil _) true rest
    rw [spaced, List.cons_append, List.singleton_append, readValue_list, hclosed, Reading.ofJson,
      Items.ofList]
  | .list (v :: vs), depth, fuel, rest, hplain, _, hfuel => by
    rw [IsPlain, ArePlain] at hplain
    rw [spaced] at hfuel ⊢
    simp only [List.length_cons, List.length_append] at hfuel
    have hpos := length_spacedItems_pos s depth vs
    have hone := length_spaced_pos s (depth + 1) v
    obtain ⟨fuel, rfl⟩ : ∃ k, fuel = k + 3 := ⟨fuel - 3, by omega⟩
    have hv := readValue_spaced hs v (depth + 1) fuel (spacedItems s depth vs ++ rest) hplain.1
      (stops_spacedItems hs depth vs rest) (by omega)
    have hmore := readItems_spaced hs vs depth fuel rest hplain.2 (by omega)
    simp only [List.cons_append, List.append_assoc]
    rw [readValue_list, readItems_first (hs.line _) hv hmore, Reading.ofJson, Items.ofList]
  | .object [], depth, fuel + 2, rest, _, _, _ => by
    have hclosed : readEntries (fuel + 1) true ('\x7d' :: rest) = (.closed, some rest) :=
      readEntries_closed (List.forall_mem_nil _) true rest
    rw [spaced, List.cons_append, List.singleton_append, readValue_object, hclosed, Reading.ofJson,
      Entries.ofList]
  | .object ((k, v) :: fs), depth, fuel, rest, hplain, _, hfuel => by
    rw [IsPlain, FieldsPlain] at hplain
    rw [spaced] at hfuel ⊢
    simp only [List.length_cons, List.length_append] at hfuel
    have hpos := length_spacedFields_pos s depth fs
    have hone := length_spaced_pos s (depth + 1) v
    obtain ⟨fuel, rfl⟩ : ∃ k, fuel = k + 3 := ⟨fuel - 3, by omega⟩
    have hv := readValue_spaced hs v (depth + 1) fuel (spacedFields s depth fs ++ rest) hplain.1
      (stops_spacedFields hs depth fs rest) (by omega)
    have hmore := readEntries_spaced hs fs depth fuel rest hplain.2 (by omega)
    simp only [List.cons_append, List.append_assoc]
    rw [readValue_object, readEntries_first (hs.line _) hs.gap hv hmore, Reading.ofJson,
      Entries.ofList]

theorem readItems_spaced (hs : s.IsBlank) : (vs : List Json) → (depth fuel : Nat) →
    (rest : List Char) → ArePlain vs → 2 * (spacedItems s depth vs).length ≤ fuel →
    readItems fuel false (spacedItems s depth vs ++ rest) = (Items.ofList vs, some rest)
  | [], depth, fuel, rest, _, hfuel => by
    have hpos := length_spacedItems_pos s depth []
    obtain ⟨fuel, rfl⟩ : ∃ k, fuel = k + 1 := ⟨fuel - 1, by omega⟩
    rw [spacedItems, List.append_assoc, List.singleton_append, readItems_closed (hs.line _),
      Items.ofList]
  | v :: vs, depth, fuel, rest, hplain, hfuel => by
    rw [ArePlain] at hplain
    rw [spacedItems] at hfuel ⊢
    simp only [List.length_cons, List.length_append] at hfuel
    have hone := length_spaced_pos s (depth + 1) v
    obtain ⟨fuel, rfl⟩ : ∃ k, fuel = k + 2 := ⟨fuel - 2, by omega⟩
    have hv := readValue_spaced hs v (depth + 1) fuel (spacedItems s depth vs ++ rest) hplain.1
      (stops_spacedItems hs depth vs rest) (by omega)
    have hmore := readItems_spaced hs vs depth fuel rest hplain.2 (by omega)
    simp only [List.cons_append, List.append_assoc]
    rw [readItems_next (hs.line _) hv hmore, Items.ofList]

theorem readEntries_spaced (hs : s.IsBlank) : (fs : List (String × Json)) → (depth fuel : Nat) →
    (rest : List Char) → FieldsPlain fs → 2 * (spacedFields s depth fs).length ≤ fuel →
    readEntries fuel false (spacedFields s depth fs ++ rest) = (Entries.ofList fs, some rest)
  | [], depth, fuel, rest, _, hfuel => by
    have hpos := length_spacedFields_pos s depth []
    obtain ⟨fuel, rfl⟩ : ∃ k, fuel = k + 1 := ⟨fuel - 1, by omega⟩
    rw [spacedFields, List.append_assoc, List.singleton_append, readEntries_closed (hs.line _),
      Entries.ofList]
  | (k, v) :: fs, depth, fuel, rest, hplain, hfuel => by
    rw [FieldsPlain] at hplain
    rw [spacedFields] at hfuel ⊢
    simp only [List.length_cons, List.length_append] at hfuel
    have hone := length_spaced_pos s (depth + 1) v
    obtain ⟨fuel, rfl⟩ : ∃ k, fuel = k + 2 := ⟨fuel - 2, by omega⟩
    have hv := readValue_spaced hs v (depth + 1) fuel (spacedFields s depth fs ++ rest) hplain.1
      (stops_spacedFields hs depth fs rest) (by omega)
    have hmore := readEntries_spaced hs fs depth fuel rest hplain.2 (by omega)
    simp only [List.cons_append, List.append_assoc]
    rw [readEntries_next (hs.line _) hs.gap hv hmore, Entries.ofList]

end

theorem ofChars_spaced (hs : s.IsBlank) {v : Json} (h : v.IsPlain) :
    Reading.ofChars (spaced s 0 v) = (Reading.ofJson v, some []) := by
  have hread := readValue_spaced hs v 0 (fuelFor (spaced s 0 v)) [] h nofun
    (by unfold fuelFor; omega)
  rw [List.append_nil] at hread
  exact hread

/-- The text of a value on lines is read to its end. -/
theorem ofChars_prettyChars {v : Json} (h : v.IsPlain) :
    Reading.ofChars (v.prettyChars 0) = (Reading.ofJson v, some []) := by
  rw [prettyChars_eq_spaced]
  exact ofChars_spaced Spacing.isBlank_lines h

/-- So is the text of a value without blanks. -/
theorem ofChars_chars {v : Json} (h : v.IsPlain) :
    Reading.ofChars v.chars = (Reading.ofJson v, some []) := by
  rw [chars_eq_spaced 0]
  exact ofChars_spaced Spacing.isBlank_tight h

end Json
end ScooterFleet
