import ScooterFleet.Proofs.Decimal.Numeral
import ScooterFleet.Text.Timestamp

/-!
# Timestamps read back

A timestamp whose parts are in their ranges is read from its text.  Nanoseconds are written without the
zeros at their end, and reading puts them back.
-/

namespace ScooterFleet
namespace Timestamp

/-! ### Parts of fixed width -/

theorem padded_eq_lastDigits (k n : Nat) : padded k n = Numeral.lastDigits k n := by
  induction k generalizing n with
  | zero => rfl
  | succ k ih => rw [padded, Numeral.lastDigits, ih]

theorem length_padded (k n : Nat) : (padded k n).length = k := by
  rw [padded_eq_lastDigits, Numeral.length_lastDigits]

theorem isDigit_of_mem_padded {k n : Nat} {c : Char} (h : c ∈ padded k n) : c.isDigit = true := by
  rw [padded_eq_lastDigits] at h
  exact Numeral.isDigit_of_mem_lastDigits h

theorem value_padded {k n : Nat} (h : n < 10 ^ k) :
    (padded k n).foldl (fun n c => 10 * n + (c.toNat - '0'.toNat)) 0 = n := by
  have hvalue := Numeral.valueFrom_lastDigits 0 k n
  rw [Nat.zero_mul, Nat.zero_add, Nat.mod_eq_of_lt h, ← padded_eq_lastDigits] at hvalue
  exact hvalue

theorem take?_padded {k n : Nat} (h : n < 10 ^ k) (rest : List Char) :
    take? k (padded k n ++ rest) = some (n, rest) := by
  have htake : (padded k n ++ rest).take k = padded k n := by
    rw [List.take_append_of_le_length (Nat.le_of_eq (length_padded k n).symm),
      List.take_of_length_le (Nat.le_of_eq (length_padded k n))]
  have hdrop : (padded k n ++ rest).drop k = rest := by
    rw [List.drop_append_of_le_length (Nat.le_of_eq (length_padded k n).symm),
      List.drop_of_length_le (Nat.le_of_eq (length_padded k n)), List.nil_append]
  have hdigits : (padded k n).all Char.isDigit = true :=
    List.all_eq_true.mpr fun c hc => isDigit_of_mem_padded hc
  simp only [take?, htake, hdrop, length_padded, hdigits, value_padded h, and_self, if_true]

theorem expect?_self (c : Char) (cs : List Char) : expect? c (c :: cs) = some cs := by
  rw [expect?, if_pos rfl]

/-! ### Nanoseconds -/

theorem dropZeros_append_zeros (cs : List Char) :
    ∃ k, cs = dropZeros cs ++ List.replicate k '0' := by
  have hzeros : ∀ c ∈ cs.reverse.takeWhile (· = '0'), c = '0' := fun c hc => by
    have hall := List.all_eq_true.mp (List.all_takeWhile (p := (· = '0')) (l := cs.reverse)) c hc
    exact of_decide_eq_true hall
  refine ⟨(cs.reverse.takeWhile (· = '0')).length, ?_⟩
  have hsplit : cs.reverse.takeWhile (· = '0') ++ cs.reverse.dropWhile (· = '0') = cs.reverse :=
    List.takeWhile_append_dropWhile
  rw [List.eq_replicate_of_mem hzeros] at hsplit
  have hreverse := congrArg List.reverse hsplit
  rw [List.reverse_append, List.reverse_replicate, List.reverse_reverse] at hreverse
  exact hreverse.symm

/-- Zeros that were left out behind `k` digits are the ones that are put back. -/
theorem take_dropZeros {k : Nat} {cs : List Char} (h : cs.length = k) :
    (dropZeros cs ++ List.replicate k '0').take k = cs := by
  obtain ⟨m, hm⟩ := dropZeros_append_zeros cs
  have hlength : cs.length = (dropZeros cs).length + m := by
    have hl := congrArg List.length hm
    rw [List.length_append, List.length_replicate] at hl
    exact hl
  have hmore : List.replicate k '0' = List.replicate m '0' ++ List.replicate (k - m) '0' := by
    rw [List.replicate_append_replicate]
    congr 1
    omega
  rw [hmore, ← List.append_assoc, ← hm, ← h, List.take_left]

theorem dropZeros_padded_ne_nil {k n : Nat} (hn : n ≠ 0) (h : n < 10 ^ k) :
    dropZeros (padded k n) ≠ [] := by
  intro hnil
  obtain ⟨m, hm⟩ := dropZeros_append_zeros (padded k n)
  rw [hnil, List.nil_append] at hm
  have hvalue := value_padded h
  rw [hm] at hvalue
  have hzero : Nat.ofDigitChars 10 (List.replicate m '0') 0 = 10 ^ m * 0 :=
    Nat.ofDigitChars_replicate_zero
  rw [Nat.ofDigitChars_eq_foldl, Nat.mul_zero] at hzero
  exact hn (hvalue.symm.trans hzero)

theorem isDigit_of_mem_dropZeros {cs : List Char} (h : ∀ c ∈ cs, c.isDigit = true) {c : Char}
    (hc : c ∈ dropZeros cs) : c.isDigit = true := by
  obtain ⟨m, hm⟩ := dropZeros_append_zeros cs
  exact h c (hm ▸ List.mem_append_left _ hc)

theorem fraction?_chars {t : Timestamp} (h : t.nanosecond < 10 ^ 9) {rest : List Char}
    (hrest : Numeral.StopsDigits rest) (hpoint : rest.head? ≠ some '.') :
    fraction? (t.fractionChars ++ rest) = some (t.nanosecond, rest) := by
  unfold fractionChars
  by_cases hzero : t.nanosecond = 0
  · rw [if_pos hzero, List.nil_append, hzero]
    unfold fraction?
    split
    · next cs => exact absurd rfl hpoint
    · rfl
  · have hrun : Numeral.digitRun (dropZeros (padded 9 t.nanosecond) ++ rest) =
        (dropZeros (padded 9 t.nanosecond), rest) :=
      Numeral.digitRun_append
        (fun c hc => isDigit_of_mem_dropZeros (fun d hd => isDigit_of_mem_padded hd) hc) hrest
    obtain ⟨htake, hdrop⟩ := Prod.mk.inj hrun
    have hnine : (dropZeros (padded 9 t.nanosecond) ++ List.replicate 9 '0').take 9 =
        padded 9 t.nanosecond := take_dropZeros (length_padded _ _)
    have hsome : (dropZeros (padded 9 t.nanosecond)).isEmpty = false :=
      List.isEmpty_eq_false_iff.mpr (dropZeros_padded_ne_nil hzero h)
    simp only [if_neg hzero, List.cons_append, fraction?, htake, hdrop, hsome, hnine,
      value_padded h, Bool.false_eq_true, if_false]

/-! ### Offsets -/

theorem offset?_chars {t : Timestamp} (h : t.offset.natAbs < 24 * 60) :
    offset? t.offsetChars = some (t.offset, []) := by
  unfold offsetChars
  by_cases hzero : t.offset = 0
  · rw [if_pos hzero, hzero]
    rfl
  · have hhours : take? 2 (padded 2 (t.offset.natAbs / 60) ++
        ':' :: padded 2 (t.offset.natAbs % 60)) =
        some (t.offset.natAbs / 60, ':' :: padded 2 (t.offset.natAbs % 60)) :=
      take?_padded (by omega) _
    have hminutes : take? 2 (padded 2 (t.offset.natAbs % 60)) = some (t.offset.natAbs % 60, []) := by
      have htake := take?_padded (k := 2) (n := t.offset.natAbs % 60) (by omega) []
      rwa [List.append_nil] at htake
    have hranges : t.offset.natAbs / 60 ≤ 23 ∧ t.offset.natAbs % 60 ≤ 59 := by omega
    rw [if_neg hzero]
    rcases Int.lt_or_le t.offset 0 with hneg | hpos
    · have hvalue : -(((t.offset.natAbs / 60 : Nat) : Int) * 60 + (t.offset.natAbs % 60 : Nat)) =
          t.offset := by omega
      have hread : offset? ('-' :: (padded 2 (t.offset.natAbs / 60) ++
          ':' :: padded 2 (t.offset.natAbs % 60))) = some (-(((t.offset.natAbs / 60 : Nat) : Int) * 60 +
          (t.offset.natAbs % 60 : Nat)), []) := by
        simp [offset?, hhours, expect?_self, hminutes, hranges]
      rw [if_pos hneg, List.cons_append, hread, hvalue]
    · have hvalue : ((t.offset.natAbs / 60 : Nat) : Int) * 60 + (t.offset.natAbs % 60 : Nat) =
          t.offset := by omega
      have hread : offset? ('+' :: (padded 2 (t.offset.natAbs / 60) ++
          ':' :: padded 2 (t.offset.natAbs % 60))) = some (((t.offset.natAbs / 60 : Nat) : Int) * 60 +
          (t.offset.natAbs % 60 : Nat), []) := by
        simp [offset?, hhours, expect?_self, hminutes, hranges]
      rw [if_neg (Int.not_lt.mpr hpos), List.cons_append, hread, hvalue]

theorem head?_offsetChars (t : Timestamp) :
    Numeral.StopsDigits t.offsetChars ∧ t.offsetChars.head? ≠ some '.' := by
  unfold offsetChars
  split
  · exact ⟨by rintro c ⟨⟩; rfl, by simp⟩
  · split
    · exact ⟨by rintro c ⟨⟩; rfl, by simp⟩
    · exact ⟨by rintro c ⟨⟩; rfl, by simp⟩

/-! ### Timestamps -/

/-- **A sound timestamp is read from its text.** -/
theorem ofText?_text {t : Timestamp} (h : t.isSound = true) : ofText? t.text = some t := by
  have hsound := h
  simp only [isSound, Bool.and_eq_true, decide_eq_true_eq] at h
  obtain ⟨⟨⟨⟨⟨⟨⟨⟨⟨hyear, -⟩, hmonth⟩, -⟩, hday⟩, hhour⟩, hminute⟩, hsecond⟩, hnano⟩, hoffset⟩ := h
  have hdays : t.day < 10 ^ 2 := by
    have hlength : daysInMonth t.year t.month ≤ 31 := by
      unfold daysInMonth
      split
      · split <;> decide
      · decide
      · decide
      · decide
      · decide
      · decide
    omega
  obtain ⟨hstop, hpoint⟩ := t.head?_offsetChars
  have hfraction := fraction?_chars (t := t) (by omega) hstop hpoint
  have hleap : (t.second == 60) = false := by
    rw [beq_eq_false_iff_ne]
    omega
  have hseparator (cs : List Char) : separator? ('T' :: cs) = some cs := rfl
  have hyears (cs : List Char) := take?_padded (k := 4) (n := t.year) (by omega) cs
  have hmonths (cs : List Char) := take?_padded (k := 2) (n := t.month) (by omega) cs
  have hhours (cs : List Char) := take?_padded (k := 2) (n := t.hour) (by omega) cs
  have hminutes (cs : List Char) := take?_padded (k := 2) (n := t.minute) (by omega) cs
  have hseconds (cs : List Char) := take?_padded (k := 2) (n := t.second) (by omega) cs
  rw [ofText?, text, String.toList_ofList]
  simp only [chars, List.append_assoc, List.cons_append]
  -- One reading after the other: `simp` would go into what follows a reading before its result is known.
  refine Option.bind_eq_some_iff.mpr ⟨_, hyears _, ?_⟩
  refine Option.bind_eq_some_iff.mpr ⟨_, expect?_self '-' _, ?_⟩
  refine Option.bind_eq_some_iff.mpr ⟨_, hmonths _, ?_⟩
  refine Option.bind_eq_some_iff.mpr ⟨_, expect?_self '-' _, ?_⟩
  refine Option.bind_eq_some_iff.mpr ⟨_, take?_padded hdays _, ?_⟩
  refine Option.bind_eq_some_iff.mpr ⟨_, hseparator _, ?_⟩
  refine Option.bind_eq_some_iff.mpr ⟨_, hhours _, ?_⟩
  refine Option.bind_eq_some_iff.mpr ⟨_, expect?_self ':' _, ?_⟩
  refine Option.bind_eq_some_iff.mpr ⟨_, hminutes _, ?_⟩
  refine Option.bind_eq_some_iff.mpr ⟨_, expect?_self ':' _, ?_⟩
  refine Option.bind_eq_some_iff.mpr ⟨_, hseconds _, ?_⟩
  refine Option.bind_eq_some_iff.mpr ⟨_, hfraction, ?_⟩
  refine Option.bind_eq_some_iff.mpr ⟨_, offset?_chars hoffset, ?_⟩
  simp [hleap, hsound]

end Timestamp
end ScooterFleet
