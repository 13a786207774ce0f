import Mathlib.Algebra.Group.Nat.Defs
import ScooterFleet.Json.Text

/-!
# Strings read back

A string with its escapes is read as the string, and passed over up to its closing quote, whatever
stands behind it.

* `escape_cases` — the three kinds of escapes;
* `read_chars` / `skip_chars` — **both readers stop at the quote that the writer set.**
-/

namespace ScooterFleet

/-! ### Hexadecimal digits -/

namespace Uuid

theorem length_hexDigits (k n : Nat) : (hexDigits k n).length = k := by
  induction k generalizing n with
  | zero => rfl
  | succ k ih => rw [hexDigits, List.length_append, ih, List.length_singleton]

theorem utf8Size_of_mem_hexDigits (k n : Nat) : ∀ d ∈ hexDigits k n, d.utf8Size = 1 := by
  have hdigit : ∀ d < 16, (Nat.digitChar d).utf8Size = 1 := by decide
  induction k generalizing n with
  | zero => nofun
  | succ k ih =>
    intro d hd
    rw [hexDigits, List.mem_append, List.mem_singleton] at hd
    rcases hd with hd | rfl
    · exact ih (n / 16) d hd
    · exact hdigit _ (Nat.mod_lt n (by decide))

theorem hexFrom?_append (a : Nat) (cs ds : List Char) :
    hexFrom? a (cs ++ ds) = (hexFrom? a cs).bind (hexFrom? · ds) := by
  induction cs generalizing a with
  | nil => rfl
  | cons c cs ih =>
    rw [List.cons_append, hexFrom?, hexFrom?]
    cases hexValue? c with
    | none => rfl
    | some d => exact ih _

/-- The digits of `n`, read behind digits of value `a`. -/
theorem hexFrom?_hexDigits (a k n : Nat) :
    hexFrom? a (hexDigits k n) = some (16 ^ k * a + n % 16 ^ k) := by
  have hdigit : ∀ d < 16, hexValue? (Nat.digitChar d) = some d := by decide
  induction k generalizing n with
  | zero => simp [hexDigits, hexFrom?, Nat.mod_one]
  | succ k ih =>
    have hlast : hexFrom? (16 ^ k * a + n / 16 % 16 ^ k) [Nat.digitChar (n % 16)] =
        some (16 * (16 ^ k * a + n / 16 % 16 ^ k) + n % 16) := by
      simp only [hexFrom?, hdigit _ (Nat.mod_lt n (by decide))]
    have hsum : n % 16 ^ (k + 1) = n % 16 + 16 * (n / 16 % 16 ^ k) := by
      rw [Nat.pow_succ', Nat.mod_mul]
    rw [hexDigits, hexFrom?_append, ih, Option.bind_some, hlast, hsum, Nat.pow_succ']
    grind

end Uuid

namespace Json
namespace Text

/-! ### Units -/

theorem hasBytes_append {ds : List Char} (hds : ∀ d ∈ ds, d.utf8Size = 1) (tail : List Char) :
    hasBytes ds.length (ds ++ tail) = true := by
  induction ds with
  | nil => cases tail <;> rfl
  | cons d ds ih =>
    have hd : d.utf8Size = 1 := hds d (List.mem_cons_self ..)
    simp only [List.length_cons, List.cons_append, hasBytes, hd, Nat.add_sub_cancel]
    exact ih fun e he => hds e (List.mem_cons_of_mem _ he)

theorem hexUnit_hexDigits {n : Nat} (h : n < 16 ^ 4) (tail : List Char) :
    hexUnit (Uuid.hexDigits 4 n ++ tail) = .ok (n, tail) := by
  have hlength := Uuid.length_hexDigits 4 n
  have hbytes := hasBytes_append (Uuid.utf8Size_of_mem_hexDigits 4 n) tail
  have hvalue := Uuid.hexFrom?_hexDigits 0 4 n
  rw [hlength] at hbytes
  rw [Nat.mod_eq_of_lt h, Nat.mul_zero, Nat.zero_add] at hvalue
  have htake : (Uuid.hexDigits 4 n ++ tail).take 4 = Uuid.hexDigits 4 n := List.take_left' hlength
  have hdrop : (Uuid.hexDigits 4 n ++ tail).drop 4 = tail := List.drop_left' hlength
  simp [hexUnit, hbytes, htake, hdrop, hlength, hvalue]

theorem unicodeEscape_control {n : Nat} (h : n < 32) (tail : List Char) :
    unicodeEscape (Uuid.hexDigits 4 n ++ tail) = .ok (Char.ofNat n, tail) := by
  have hplain : isLowSurrogate n = false ∧ isHighSurrogate n = false := by
    simp only [isLowSurrogate, isHighSurrogate, Bool.and_eq_false_iff, decide_eq_false_iff_not]
    omega
  simp only [unicodeEscape, hexUnit_hexDigits (Nat.lt_trans h (by decide)), hplain.1, hplain.2, bind,
    Except.bind, Bool.false_eq_true, if_false, pure, Except.pure]

/-! ### One character -/

/-- A character is written as it is, or behind a backslash. -/
theorem escape_cases (c : Char) :
    (escape c = [c] ∧ c ≠ '"' ∧ c ≠ '\\' ∧ ¬ c.toNat < 32) ∨
      ∃ es, escape c = '\\' :: es ∧ ∀ tail, escaped (es ++ tail) = .ok (c, tail) ∧
        skipEscape (es ++ tail) = .ok tail := by
  unfold escape
  split
  · next h => exact .inr ⟨['"'], rfl, fun tail => ⟨by rw [h]; rfl, rfl⟩⟩
  split
  · next h => exact .inr ⟨['\\'], rfl, fun tail => ⟨by rw [h]; rfl, rfl⟩⟩
  split
  · next h => exact .inr ⟨['b'], rfl, fun tail => ⟨by rw [h]; rfl, rfl⟩⟩
  split
  · next h => exact .inr ⟨['f'], rfl, fun tail => ⟨by rw [h]; rfl, rfl⟩⟩
  split
  · next h => exact .inr ⟨['n'], rfl, fun tail => ⟨by rw [h]; rfl, rfl⟩⟩
  split
  · next h => exact .inr ⟨['r'], rfl, fun tail => ⟨by rw [h]; rfl, rfl⟩⟩
  split
  · next h => exact .inr ⟨['t'], rfl, fun tail => ⟨by rw [h]; rfl, rfl⟩⟩
  split
  · next h =>
    refine .inr ⟨'u' :: Uuid.hexDigits 4 c.toNat, rfl, fun tail => ⟨?_, ?_⟩⟩
    · have hread : escaped ('u' :: (Uuid.hexDigits 4 c.toNat ++ tail)) =
          unicodeEscape (Uuid.hexDigits 4 c.toNat ++ tail) := rfl
      rw [List.cons_append, hread, unicodeEscape_control h, Char.ofNat_toNat]
    · have hskip : skipEscape ('u' :: (Uuid.hexDigits 4 c.toNat ++ tail)) =
          (hexUnit (Uuid.hexDigits 4 c.toNat ++ tail)).map (·.2) := rfl
      rw [List.cons_append, hskip, hexUnit_hexDigits (Nat.lt_trans h (by decide))]
      rfl
  · next hquote hbackslash _ _ _ _ _ hcontrol => exact .inl ⟨rfl, hquote, hbackslash, hcontrol⟩

/-! ### Strings -/

theorem readFuel_chars {fuel : Nat} {cs : List Char} (h : cs.length < fuel) (rest : List Char) :
    readFuel fuel (cs.flatMap escape ++ '"' :: rest) = .ok (cs, rest) := by
  induction cs generalizing fuel with
  | nil =>
    obtain ⟨fuel, rfl⟩ : ∃ k, fuel = k + 1 := ⟨fuel - 1, by simp at h; omega⟩
    rfl
  | cons c cs ih =>
    obtain ⟨fuel, rfl⟩ : ∃ k, fuel = k + 1 := ⟨fuel - 1, by simp at h; omega⟩
    have hmore : readFuel fuel (cs.flatMap escape ++ '"' :: rest) = .ok (cs, rest) :=
      ih (by simpa using h)
    rw [List.flatMap_cons, List.append_assoc]
    rcases escape_cases c with ⟨hplain, hquote, hbackslash, hcontrol⟩ | ⟨es, hes, hread⟩
    · rw [hplain, List.singleton_append]
      simp only [readFuel, if_neg hquote, if_neg hbackslash, if_neg hcontrol, hmore]
      rfl
    · rw [hes, List.cons_append]
      have hback : ('\\' : Char) ≠ '"' := by decide
      simp only [readFuel, if_neg hback, if_true, (hread _).1, hmore]
      rfl

theorem skipFuel_chars {fuel : Nat} {cs : List Char} (h : cs.length < fuel) (rest : List Char) :
    skipFuel fuel (cs.flatMap escape ++ '"' :: rest) = .ok rest := by
  induction cs generalizing fuel with
  | nil =>
    obtain ⟨fuel, rfl⟩ : ∃ k, fuel = k + 1 := ⟨fuel - 1, by simp at h; omega⟩
    rfl
  | cons c cs ih =>
    obtain ⟨fuel, rfl⟩ : ∃ k, fuel = k + 1 := ⟨fuel - 1, by simp at h; omega⟩
    have hmore : skipFuel fuel (cs.flatMap escape ++ '"' :: rest) = .ok rest :=
      ih (by simpa using h)
    rw [List.flatMap_cons, List.append_assoc]
    rcases escape_cases c with ⟨hplain, hquote, hbackslash, hcontrol⟩ | ⟨es, hes, hskip⟩
    · rw [hplain, List.singleton_append]
      simp only [skipFuel, if_neg hquote, if_neg hbackslash, if_neg hcontrol, hmore]
    · rw [hes, List.cons_append]
      have hback : ('\\' : Char) ≠ '"' := by decide
      simp only [skipFuel, if_neg hback, if_true, (hskip _).2, hmore]

theorem chars_append (cs rest : List Char) :
    chars cs ++ rest = '"' :: (cs.flatMap escape ++ '"' :: rest) := by
  rw [chars, List.append_assoc, List.cons_append]
  rfl

/-- No character is written by less than itself. -/
theorem length_le_flatMap_escape (cs : List Char) : cs.length ≤ (cs.flatMap escape).length := by
  induction cs with
  | nil => exact Nat.le_refl _
  | cons c cs ih =>
    have hc : 0 < (escape c).length := by
      rcases escape_cases c with ⟨hplain, -⟩ | ⟨es, hes, -⟩
      · rw [hplain]
        exact Nat.one_pos
      · rw [hes]
        exact Nat.succ_pos _
    rw [List.flatMap_cons, List.length_append, List.length_cons]
    omega

theorem length_lt_fuel (cs rest : List Char) :
    cs.length < (cs.flatMap escape ++ '"' :: rest).length + 1 := by
  have hle := length_le_flatMap_escape cs
  rw [List.length_append]
  omega

theorem read_chars (cs rest : List Char) :
    read (cs.flatMap escape ++ '"' :: rest) = .ok (cs, rest) :=
  readFuel_chars (length_lt_fuel cs rest) rest

theorem skip_chars (cs rest : List Char) : skip (cs.flatMap escape ++ '"' :: rest) = .ok rest :=
  skipFuel_chars (length_lt_fuel cs rest) rest

end Text
end Json
end ScooterFleet
