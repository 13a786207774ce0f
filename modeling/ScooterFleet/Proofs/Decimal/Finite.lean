import Mathlib
import ScooterFleet.Proofs.Decimal.Numeral

/-!
# Words are finite doubles

The double that is nearest to a word is finite.  This is read off the binary arithmetic itself, with
coarse bounds on exponents: one rounding raises an exponent by no more than twice the width of what it
rounds, and words are far from the greatest exponent.

* `tame` — a value of few bits whose exponent is bounded;
* `bounded_round` — **what one rounding does to exponents**;
* `tame_unpack_pack` — values below the greatest exponent stay finite when they are packed;
* `Numeral.isFinite_of_inRange` — a numeral in range stands for a finite double.
-/

namespace ScooterFleet
namespace Decimal

open Float.Model Float.Model.UnpackedFloat

/-- Zero, or a finite value with an exponent of at most `top`. -/
def Bounded (top : Int) : UnpackedFloat → Prop
  | .zero _ => True
  | .finite _ _ e _ => e ≤ top
  | _ => False

/-- Zero, or a finite value of at most 53 bits with an exponent of at most `top`. -/
def tame (top : Int) : UnpackedFloat → Bool
  | .zero _ => true
  | .finite _ m e _ => decide (m.log2 ≤ 52) && decide (e ≤ top)
  | _ => false

theorem isFinite_of_tame {top : Int} {u : UnpackedFloat} (h : tame top u = true) :
    u.isFinite = true := by
  cases u with
  | zero s => rfl
  | finite s m e hm => rfl
  | infinity s => cases h
  | notANumber => cases h

/-! ### Rounding -/

theorem shiftRight_mantissa_le (m : ExtendedMantissa) (k : Nat) :
    (m >>> k).mantissa ≤ m.mantissa := by
  show (Nat.repeat ExtendedMantissa.shiftRightOne k m).mantissa ≤ _
  induction k with
  | zero => exact Nat.le_refl _
  | succ k ih => exact Nat.le_trans (Nat.div_le_self _ 2) ih

theorem roundedMantissa_le (m : ExtendedMantissa) : m.roundedMantissa ≤ m.mantissa + 1 := by
  obtain ⟨mantissa, round, sticky⟩ := m
  cases round <;> cases sticky
  · exact Nat.le_succ _
  · exact Nat.le_succ _
  · show mantissa + mantissa % 2 ≤ mantissa + 1
    omega
  · exact Nat.le_refl _

theorem mantissa_shiftToTargetExponent (m : Nat) (e : Int) :
    (shiftToTargetExponent .binary64 m e .exact).1.mantissa ≤ m :=
  shiftRight_mantissa_le ⟨m, false, false⟩ _

theorem exponent_shiftToTargetExponent (m : Nat) (e : Int) :
    (shiftToTargetExponent .binary64 m e .exact).2 ≤ max (e + m.log2) (-1074) := by
  show e + ((Format.binary64.targetExponent (totalExponent m e) - e).toNat : Int) ≤ _
  have htarget : Format.binary64.targetExponent (totalExponent m e) =
      max (m.log2 + 1 + e - 53) (-1074) := rfl
  rw [htarget]
  omega

theorem log2_le_of_lt {m k : Nat} (h : m < 2 ^ (k + 1)) : m.log2 ≤ k := by
  rcases Nat.eq_zero_or_pos m with rfl | hm
  · exact Nat.zero_le _
  · exact Nat.le_of_lt_succ ((Nat.log2_lt (Nat.ne_of_gt hm)).mpr h)

theorem log2_le_of_le_succ {m n : Nat} (h : n ≤ m + 1) : n.log2 ≤ m.log2 + 1 := by
  have hm : m < 2 ^ (m.log2 + 1) := Nat.lt_log2_self
  refine log2_le_of_lt ?_
  rw [Nat.pow_succ]
  omega

/-- **One rounding raises an exponent by twice the width of the mantissa at most.** -/
theorem bounded_round (s : Sign) (m : Nat) (e : Int) :
    Bounded (max (e + m.log2) (-1074) + m.log2 + 1) (roundWithAccuracy .binary64 s m e .exact) := by
  generalize hfirst : shiftToTargetExponent .binary64 m e .exact = first
  have hm : first.1.mantissa ≤ m := hfirst ▸ mantissa_shiftToTargetExponent m e
  have he : first.2 ≤ max (e + m.log2) (-1074) := hfirst ▸ exponent_shiftToTargetExponent m e
  have hwidth : first.1.roundedMantissa.log2 ≤ m.log2 + 1 :=
    log2_le_of_le_succ (Nat.le_trans (roundedMantissa_le _) (Nat.succ_le_succ hm))
  have hlast := exponent_shiftToTargetExponent first.1.roundedMantissa first.2
  unfold roundWithAccuracy
  simp only [hfirst]
  split
  · trivial
  · show (shiftToTargetExponent .binary64 first.1.roundedMantissa first.2 .exact).2 ≤ _
    omega

/-! ### Packing -/

theorem tame_unpack_packComponents {s : Sign} {exponent : BitVec 11} {mantissa : BitVec 52}
    (h : exponent.toNat < 2047) {top : Int} (htop : -1074 ≤ top)
    (he : (exponent.toNat : Int) - 1075 ≤ top) :
    tame top (unpack .binary64 (packComponents .binary64 s exponent mantissa)) = true := by
  have hordinary : exponent ≠ -1#11 := by
    rintro rfl
    exact absurd h (by decide)
  unfold UnpackedFloat.unpack
  simp only [unpackExponent_packComponents, unpackMantissa_packComponents, if_neg hordinary]
  split
  · next hzero =>
    split
    · rfl
    · have hwidth : mantissa.toNat.log2 ≤ 52 := log2_le_of_lt (Nat.lt_trans mantissa.isLt (by decide))
      rw [hzero]
      simp only [tame, Bool.and_eq_true, decide_eq_true_eq]
      exact ⟨hwidth, htop⟩
  · have hwidth : (1#1 ++ mantissa).toNat.log2 ≤ 52 := log2_le_of_lt (1#1 ++ mantissa).isLt
    simp only [tame, Bool.and_eq_true, decide_eq_true_eq]
    exact ⟨hwidth, he⟩

/-- A finite value below the greatest exponent stays one when it is packed. -/
theorem tame_unpack_pack {u : UnpackedFloat} {top : Int} (h : Bounded top u) (hlow : -1074 ≤ top)
    (hhigh : top ≤ 900) : tame top (pack u).unpack = true := by
  show tame top (UnpackedFloat.unpack .binary64 (UnpackedFloat.pack .binary64 u)) = true
  cases u with
  | infinity s => exact h.elim
  | notANumber => exact h.elim
  | zero s => exact tame_unpack_packComponents (by decide) hlow (by show (0 : Int) - 1075 ≤ top; omega)
  | finite s m e hm =>
    have he : e ≤ top := h
    have hbiased : (e + 1023 + 52).toNat < 2047 := by omega
    have hsame : (BitVec.ofNat 11 (e + 1023 + 52).toNat).toNat = (e + 1023 + 52).toNat :=
      Nat.mod_eq_of_lt (by omega)
    have hfits : ¬2 ^ 11 ≤ (e + 1023 + 52).toNat + 1 := by omega
    have hpack : UnpackedFloat.pack .binary64 (.finite s m e hm) =
        if m.log2 + 1 = 53 then
          packComponents .binary64 s (BitVec.ofNat 11 (e + 1023 + 52).toNat) (BitVec.ofNat 52 m)
        else packComponents .binary64 s 0#11 (BitVec.ofNat 52 m) := if_neg hfits
    rw [hpack]
    split
    · exact tame_unpack_packComponents (by rw [hsame]; exact hbiased) hlow (by rw [hsame]; omega)
    · exact tame_unpack_packComponents (by decide) hlow (by show (0 : Int) - 1075 ≤ top; omega)

/-! ### Words -/

theorem Bounded.mono {u : UnpackedFloat} {a b : Int} (h : Bounded a u) (hab : a ≤ b) :
    Bounded b u := by
  cases u with
  | zero s => trivial
  | finite s m e hm => exact Int.le_trans h hab
  | infinity s => exact h.elim
  | notANumber => exact h.elim

theorem mul_finite (s s' : Sign) (m m' : Nat) (e e' : Int) (hm : 0 < m) (hm' : 0 < m') :
    UnpackedFloat.mul .binary64 (.finite s m e hm) (.finite s' m' e' hm') =
      roundWithAccuracy .binary64 (s * s') (m * m') (e + e') .exact := rfl

theorem bounded_mul {u v : UnpackedFloat} {a b : Int} (hu : tame a u = true) (hv : tame b v = true) :
    Bounded (max (a + b + 105) (-1074) + 106) (UnpackedFloat.mul .binary64 u v) := by
  cases u with
  | infinity s => cases hu
  | notANumber => cases hu
  | zero s =>
    cases v with
    | infinity s' => cases hv
    | notANumber => cases hv
    | zero s' => trivial
    | finite s' m' e' hm' => trivial
  | finite s m e hm =>
    cases v with
    | infinity s' => cases hv
    | notANumber => cases hv
    | zero s' => trivial
    | finite s' m' e' hm' =>
      simp only [tame, Bool.and_eq_true, decide_eq_true_eq] at hu hv
      have hwidth : (m * m').log2 ≤ 105 := by
        refine log2_le_of_lt (Nat.lt_of_lt_of_le (Nat.mul_lt_mul'' (a := m) (b := m') (c := 2 ^ 53)
          (d := 2 ^ 53) ?_ ?_) (by decide))
        · exact (Nat.log2_lt (Nat.ne_of_gt hm)).mp (Nat.lt_succ_of_le hu.1)
        · exact (Nat.log2_lt (Nat.ne_of_gt hm')).mp (Nat.lt_succ_of_le hv.1)
      rw [mul_finite]
      refine (bounded_round (s * s') (m * m') (e + e')).mono ?_
      omega

/-- A word is rounded once, behind zeros that bring it to the width of a mantissa. -/
theorem bounded_ofUInt64 (n : UInt64) : Bounded 300 (UnpackedFloat.ofUInt64 .binary64 n) := by
  show Bounded 300 (UnpackedFloat.normalize .binary64 (n.toNat : Int) 0 .positive)
  unfold UnpackedFloat.normalize
  split
  · next hneg => exact absurd (Int.compare_eq_lt.mp hneg) (by omega)
  · trivial
  · have hwidth : n.toNat.log2 ≤ 63 := log2_le_of_lt n.toNat_lt
    have htarget : Format.binary64.targetExponent (totalExponent n.toNat 0) =
        max ((n.toNat.log2 : Int) + 1 + 0 - 53) (-1074) := rfl
    show Bounded 300 (roundWithAccuracy .binary64 .positive
      (n.toNat <<< (0 - Format.binary64.targetExponent (totalExponent n.toNat 0)).toNat)
      (0 - ((0 - Format.binary64.targetExponent (totalExponent n.toNat 0)).toNat : Int)) .exact)
    generalize hshift : (0 - Format.binary64.targetExponent (totalExponent n.toNat 0)).toNat = zeros
    have hzeros : zeros ≤ 52 := by
      rw [htarget] at hshift
      omega
    have hwide : (n.toNat <<< zeros).log2 ≤ 115 := by
      refine log2_le_of_lt ?_
      rw [Nat.shiftLeft_eq]
      calc n.toNat * 2 ^ zeros < 2 ^ 64 * 2 ^ zeros :=
            Nat.mul_lt_mul_of_pos_right n.toNat_lt (Nat.two_pow_pos zeros)
        _ ≤ 2 ^ 64 * 2 ^ 52 := Nat.mul_le_mul_left _ (Nat.pow_le_pow_right (by decide) hzeros)
    refine (bounded_round _ _ _).mono ?_
    omega

/-- **Every word is nearest to a finite double.** -/
theorem isFinite_toFloat_word {n : Nat} (h : n < 2 ^ 64) : (toFloat ⟨n, 0⟩).isFinite = true := by
  show (Float.ofScientific n false 0).isFinite = true
  unfold Float.ofScientific
  split
  · have hone : tame 0 (Float.exactlyRepresentablePowersOfTen[0]).toModel.unpack = true := by
      decide +kernel
    have hword : tame 300 (n.toUInt64.toFloat).toModel.unpack = true :=
      tame_unpack_pack (bounded_ofUInt64 _) (by decide) (by decide)
    exact isFinite_of_tame (tame_unpack_pack (bounded_mul hword hone) (by decide) (by decide))
  · have hbounded : Bounded 900 (UnpackedFloat.ofScientific .binary64 n 0) := by
      unfold UnpackedFloat.ofScientific
      split
      · trivial
      · have hnotSmall : ¬(0 : Int) < -(2 ^ 11 + (n.log2 : Int)) := by omega
        rw [if_neg (by decide), if_neg hnotSmall, if_pos (by decide)]
        have hwide : (n <<< Format.binary64.mantissaBits * 10 ^ Int.toNat 0).log2 ≤ 116 := by
          refine log2_le_of_lt ?_
          rw [Nat.shiftLeft_eq, Int.toNat_zero, Nat.pow_zero, Nat.mul_one]
          exact Nat.mul_lt_mul_of_pos_right h (Nat.two_pow_pos 53)
        rw [mul_finite]
        refine (bounded_round _ _ _).mono ?_
        have hbits : (Format.binary64.mantissaBits : Int) = 53 := rfl
        omega
    exact isFinite_of_tame (tame_unpack_pack hbounded (by decide) (by decide))

end Decimal

namespace Numeral

theorem toFloat_ofNat {n : Nat} (h : n < 2 ^ 64) : (ofNat n).toFloat = Decimal.toFloat ⟨n, 0⟩ := by
  have hwidth : Decimal.width n ≤ 20 :=
    (Nat.length_toDigits_le_iff (by decide) (by decide)).mpr (Nat.lt_of_lt_of_le h (by decide))
  show (if n = 0 then Decimal.toFloat ⟨0, 0⟩
    else if 400 < (Decimal.width n : Int) + 0 then 1.0 / 0.0
    else if (Decimal.width n : Int) + 0 < -400 then Decimal.toFloat ⟨0, 0⟩
    else Decimal.toFloat ⟨n, 0⟩) = Decimal.toFloat ⟨n, 0⟩
  split
  · next hzero => rw [hzero]
  · rw [if_neg (by omega), if_neg (by omega)]

/-- **A numeral in range stands for a finite double.** -/
theorem isFinite_of_inRange {n : Numeral} (h : n.inRange = true) : n.toFloat.isFinite = true := by
  rw [inRange, Bool.or_eq_true] at h
  rcases h with h | h
  · unfold isWord toNat? at h
    split at h
    · next digits =>
      have hword : digits < 2 ^ 64 := of_decide_eq_true h
      show (ofNat digits).toFloat.isFinite = true
      rw [toFloat_ofNat hword]
      exact Decimal.isFinite_toFloat_word hword
    · cases h
  · exact h

end Numeral
end ScooterFleet
