import Mathlib.Algebra.Group.Nat.Defs
import ScooterFleet.Decimal.Layout

/-!
# Numerals read back

What is written for a numeral is read as this numeral, wherever it stands in a text.

* `Stops` — what may stand behind a numeral without becoming part of it;
* `read_chars` — **reading takes off what writing wrote**, for every numeral that has a digit behind its
  point if it has a point;
* `Layout.places_numeral` — numbers are laid out in such numerals.
-/

namespace ScooterFleet
namespace Numeral

/-! ### Runs of digits -/

/-- The text does not go on with a digit. -/
def StopsDigits (rest : List Char) : Prop := ∀ c ∈ rest.head?, c.isDigit = false

/-- The text does not go on with anything that belongs to a numeral. -/
def Stops (rest : List Char) : Prop :=
  ∀ c ∈ rest.head?, c.isDigit = false ∧ c ≠ '.' ∧ c ≠ 'e' ∧ c ≠ 'E'

theorem Stops.digits {rest : List Char} (h : Stops rest) : StopsDigits rest :=
  fun c hc => (h c hc).1

theorem digitRun_append {ds rest : List Char} (hds : ∀ c ∈ ds, c.isDigit = true)
    (hrest : StopsDigits rest) : digitRun (ds ++ rest) = (ds, rest) := by
  have htake : rest.takeWhile Char.isDigit = [] := by
    cases rest with
    | nil => rfl
    | cons c rest => simp [hrest c rfl]
  have hdrop : rest.dropWhile Char.isDigit = rest := by
    cases rest with
    | nil => rfl
    | cons c rest => simp [hrest c rfl]
  rw [digitRun, List.takeWhile_append_of_pos hds, List.dropWhile_append_of_pos hds, htake, hdrop,
    List.append_nil]

theorem isDigit_of_mem_natChars {n : Nat} {c : Char} (h : c ∈ natChars n) : c.isDigit = true :=
  Nat.isDigit_of_mem_toDigits (by decide) (by decide) h

theorem natChars_ne_nil (n : Nat) : natChars n ≠ [] := Nat.toDigits_ne_nil

theorem valueFrom_natChars (n : Nat) : valueFrom 0 (natChars n) = n :=
  Nat.ofDigitChars_ten_toDigits

/-- No zero stands in front of other digits. -/
theorem natChars_eq_zero_cons {n : Nat} {ds : List Char} (h : natChars n = '0' :: ds) :
    n = 0 ∧ ds = [] := by
  induction n using Nat.strongRecOn generalizing ds with
  | ind n ih =>
    rw [natChars, Nat.toDigits_eq_if (by decide)] at h
    split at h
    · obtain ⟨hdigit, hds⟩ := List.cons.inj h
      exact ⟨Nat.digitChar_eq_zero.mp hdigit, hds.symm⟩
    · next hn =>
      have hlt : n / 10 < n := Nat.div_lt_self (by omega) (by decide)
      cases hq : natChars (n / 10) with
      | nil => exact absurd hq (natChars_ne_nil _)
      | cons c cs =>
        rw [natChars] at hq
        rw [hq, List.cons_append] at h
        obtain ⟨rfl, -⟩ := List.cons.inj h
        obtain ⟨hzero, -⟩ := ih (n / 10) hlt hq
        omega

theorem readWhole_natChars (n : Nat) {rest : List Char} (hrest : StopsDigits rest) :
    readWhole (natChars n ++ rest) = .ok (n, rest) := by
  have hrun : digitRun (natChars n ++ rest) = (natChars n, rest) :=
    digitRun_append (fun c hc => isDigit_of_mem_natChars hc) hrest
  unfold readWhole
  rw [hrun]
  split
  · next hnil => exact absurd (congrArg Prod.fst hnil) (natChars_ne_nil n)
  · next hzero =>
    obtain ⟨hn, rfl⟩ := Prod.mk.inj hzero
    rw [(natChars_eq_zero_cons hn).1]
  · next c ds rest' hzeros =>
    obtain ⟨hn, -⟩ := Prod.mk.inj hzeros
    exact absurd (natChars_eq_zero_cons hn).2 (List.cons_ne_nil c ds)
  · next ds rest' _ _ _ he =>
    obtain ⟨rfl, rfl⟩ := Prod.mk.inj he
    rw [valueFrom_natChars]

/-! ### Behind the point -/

theorem length_lastDigits (k n : Nat) : (lastDigits k n).length = k := by
  induction k generalizing n with
  | zero => rfl
  | succ k ih => rw [lastDigits, List.length_append, ih]; rfl

theorem isDigit_of_mem_lastDigits {k n : Nat} {c : Char} (h : c ∈ lastDigits k n) :
    c.isDigit = true := by
  induction k generalizing n with
  | zero => cases h
  | succ k ih =>
    rw [lastDigits, List.mem_append, List.mem_singleton] at h
    rcases h with h | rfl
    · exact ih h
    · rw [Nat.isDigit_digitChar, decide_eq_true_eq]
      exact Nat.mod_lt n (by decide)

theorem valueFrom_lastDigits (w k n : Nat) :
    valueFrom w (lastDigits k n) = w * 10 ^ k + n % 10 ^ k := by
  induction k generalizing n with
  | zero => simp [lastDigits, valueFrom, Nat.mod_one]
  | succ k ih =>
    have hlast : n % 10 < 10 := Nat.mod_lt n (by decide)
    have hdigit : (Nat.digitChar (n % 10)).toNat - '0'.toNat = n % 10 := by
      have hall : ∀ d < 10, (Nat.digitChar d).toNat - '0'.toNat = d := by decide
      exact hall _ hlast
    have hsplit : n % 10 ^ (k + 1) = 10 * (n / 10 % 10 ^ k) + n % 10 := by
      rw [Nat.pow_succ', Nat.mod_mul, Nat.add_comm]
    have hih : List.foldl (fun n c => 10 * n + (c.toNat - '0'.toNat)) w (lastDigits k (n / 10)) =
        w * 10 ^ k + n / 10 % 10 ^ k := ih (n / 10)
    have hscale : w * 10 ^ (k + 1) = 10 * (w * 10 ^ k) := by
      rw [Nat.pow_succ', Nat.mul_left_comm]
    rw [lastDigits, valueFrom, List.foldl_append, hih, List.foldl_cons, List.foldl_nil, hdigit,
      hsplit, hscale]
    omega

theorem readFraction_chars {n : Numeral} (hplaces : n.places ≠ some 0) {rest : List Char}
    (hrest : StopsDigits rest) (hpoint : rest.head? ≠ some '.') :
    readFraction (n.digits / Nat.pow 10 (n.places.getD 0)) (n.fractionChars ++ rest) =
      .ok ((n.digits, n.places), rest) := by
  unfold fractionChars
  cases hp : n.places with
  | none =>
    simp only [List.nil_append, Option.getD_none]
    unfold readFraction
    split
    · next c cs => exact absurd rfl hpoint
    · rw [show Nat.pow 10 0 = 1 from rfl, Nat.div_one]
  | some k =>
    have hrun : digitRun (lastDigits k n.digits ++ rest) = (lastDigits k n.digits, rest) :=
      digitRun_append (fun c hc => isDigit_of_mem_lastDigits hc) hrest
    have hvalue : valueFrom (n.digits / Nat.pow 10 k) (lastDigits k n.digits) = n.digits := by
      rw [valueFrom_lastDigits]
      exact Nat.div_add_mod' n.digits (10 ^ k)
    simp only [List.cons_append, Option.getD_some, readFraction, hrun]
    split
    · next rest' hnil =>
      have hlength := length_lastDigits k n.digits
      rw [(Prod.mk.inj hnil).1] at hlength
      have hk : k = 0 := hlength.symm
      exact absurd (hk ▸ hp) hplaces
    · next ds rest' _ he =>
      obtain ⟨rfl, rfl⟩ := Prod.mk.inj he
      rw [hvalue, length_lastDigits]

/-! ### Exponents -/

theorem readExponentDigits_natChars (negative : Bool) (n : Nat) {rest : List Char}
    (hrest : StopsDigits rest) :
    readExponentDigits negative (natChars n ++ rest) =
      .ok (some (if negative then -(n : Int) else n), rest) := by
  have hrun : digitRun (natChars n ++ rest) = (natChars n, rest) :=
    digitRun_append (fun c hc => isDigit_of_mem_natChars hc) hrest
  unfold readExponentDigits
  rw [hrun]
  split
  · next hnil => exact absurd (congrArg Prod.fst hnil) (natChars_ne_nil n)
  · next ds rest' _ he =>
    obtain ⟨rfl, rfl⟩ := Prod.mk.inj he
    rw [valueFrom_natChars]

theorem readExponent_chars (n : Numeral) {rest : List Char} (hrest : Stops rest) :
    readExponent (n.exponentChars ++ rest) = .ok (n.exponent, rest) := by
  unfold exponentChars
  cases he : n.exponent with
  | none =>
    cases rest with
    | nil => rfl
    | cons c rest =>
      obtain ⟨-, -, hsmall, hlarge⟩ := hrest c rfl
      simp [readExponent, hsmall, hlarge]
  | some e =>
    rcases Int.lt_or_le e 0 with hneg | hpos
    · have hvalue : -(e.natAbs : Int) = e := by omega
      have hread := readExponentDigits_natChars true e.natAbs hrest.digits
      simp only [if_true, hvalue] at hread
      simpa [readExponent, hneg] using hread
    · have hvalue : (e.natAbs : Int) = e := by omega
      have hread := readExponentDigits_natChars false e.natAbs hrest.digits
      simp only [Bool.false_eq_true, if_false, hvalue] at hread
      have hsign : ¬ e < 0 := by omega
      simpa [readExponent, hsign] using hread

/-! ### Numerals -/

theorem stopsDigits_exponentChars (n : Numeral) {rest : List Char} (hrest : Stops rest) :
    StopsDigits (n.exponentChars ++ rest) := by
  unfold exponentChars
  cases n.exponent with
  | none => exact hrest.digits
  | some e =>
    rintro c ⟨⟩
    rfl

theorem head?_exponentChars (n : Numeral) {rest : List Char} (hrest : Stops rest) :
    (n.exponentChars ++ rest).head? ≠ some '.' := by
  unfold exponentChars
  cases n.exponent with
  | none =>
    intro hc
    exact (hrest '.' hc).2.1 rfl
  | some e => simp

theorem stopsDigits_fractionChars (n : Numeral) {rest : List Char} (hrest : StopsDigits rest) :
    StopsDigits (n.fractionChars ++ rest) := by
  unfold fractionChars
  cases n.places with
  | none => exact hrest
  | some k =>
    rintro c ⟨⟩
    rfl

/-- **What is written for a numeral is read as it.** -/
theorem read_chars {n : Numeral} (hplaces : n.places ≠ some 0) {rest : List Char}
    (hrest : Stops rest) : read (n.chars ++ rest) = .ok (n, rest) := by
  have hexponent := readExponent_chars n hrest
  have hfraction := readFraction_chars hplaces (stopsDigits_exponentChars n hrest)
    (head?_exponentChars n hrest)
  have hwhole := readWhole_natChars (n.digits / Nat.pow 10 (n.places.getD 0))
    (stopsDigits_fractionChars n (stopsDigits_exponentChars n hrest))
  -- what stands behind the sign, and does not look like one
  obtain ⟨d, ds, hds, hsign⟩ : ∃ d ds, natChars (n.digits / Nat.pow 10 (n.places.getD 0)) ++
      (n.fractionChars ++ (n.exponentChars ++ rest)) = d :: ds ∧ d ≠ '-' := by
    cases hd : natChars (n.digits / Nat.pow 10 (n.places.getD 0)) with
    | nil => exact absurd hd (natChars_ne_nil _)
    | cons d ds =>
      have hdigit : d.isDigit = true := isDigit_of_mem_natChars (hd ▸ List.mem_cons_self ..)
      refine ⟨d, _, rfl, ?_⟩
      rintro rfl
      cases hdigit
  rw [hds] at hwhole
  obtain ⟨negative, digits, places, exponent⟩ := n
  cases negative with
  | true =>
    simp only [read, chars, if_true, List.cons_append, List.nil_append, List.append_assoc, hds,
      bind, Except.bind, hwhole, hfraction, hexponent, pure, Except.pure]
  | false =>
    simp only [read, chars, Bool.false_eq_true, if_false, List.nil_append, List.append_assoc, hds]
    split
    · next he => exact absurd (List.cons.inj he).1 hsign
    · simp only [bind, Except.bind, hwhole, hfraction, hexponent, pure, Except.pure]

/-- What is read of a word without sign is the word. -/
theorem toNat?_ofNat (n : Nat) : (ofNat n).toNat? = some n := rfl

theorem inRange_ofNat {n : Nat} (h : n < 2 ^ 64) : (ofNat n).inRange = true := by
  have hword : (ofNat n).isWord = true := by
    simp only [isWord, toNat?_ofNat, Option.any_some, decide_eq_true_eq]
    exact h
  rw [inRange, hword, Bool.true_or]

end Numeral

/-- A point that is laid out has digits behind it. -/
theorem Layout.places_numeral (layout : Layout) (negative : Bool) (d : Decimal) :
    (layout.numeral negative d).places ≠ some 0 := by
  have hwidth : 0 < Decimal.width d.digits := Nat.length_toDigits_pos
  unfold numeral
  simp only
  split
  · split <;> simp
  · split
    · split
      · split <;> simp
      · simp only [ne_eq, Option.some.injEq]
        omega
    · split
      · simp
      · simp only [ne_eq, Option.some.injEq]
        omega

end ScooterFleet
