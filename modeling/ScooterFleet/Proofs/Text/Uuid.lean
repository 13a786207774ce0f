import ScooterFleet.Proofs.Json.Text

/-!
# Identifiers read back

* `Uuid.ofText?_text` — **the text of an identifier is read as it.**
-/

namespace ScooterFleet
namespace Uuid

/-- What stands behind a group and its hyphen. -/
theorem drop_group {a rest : List Char} {n : Nat} (ha : a.length = n) (k : Nat) :
    (a ++ '-' :: rest).drop (n + 1 + k) = rest.drop k := by
  rw [← List.drop_drop, ← List.drop_drop, List.drop_left' ha]
  rfl

/-- Hyphens behind groups of 8, 4, 4 and 4 digits are found, and left out. -/
theorem ofHyphenated?_groups {a b c d e : List Char} (ha : a.length = 8) (hb : b.length = 4)
    (hc : c.length = 4) (hd : d.length = 4) :
    ofHyphenated? (a ++ '-' :: (b ++ '-' :: (c ++ '-' :: (d ++ '-' :: e)))) =
      ofDigits? (a ++ b ++ c ++ d ++ e) := by
  generalize hcs : a ++ '-' :: (b ++ '-' :: (c ++ '-' :: (d ++ '-' :: e))) = cs
  have hfirst : cs.drop 8 = '-' :: (b ++ '-' :: (c ++ '-' :: (d ++ '-' :: e))) := by
    rw [← hcs, List.drop_left' ha]
  have hb' : ∀ k, cs.drop (9 + k) = (b ++ '-' :: (c ++ '-' :: (d ++ '-' :: e))).drop k := fun k => by
    rw [← hcs]
    exact drop_group ha k
  have hc' : ∀ k, cs.drop (14 + k) = (c ++ '-' :: (d ++ '-' :: e)).drop k := fun k => by
    rw [show 14 + k = 9 + (5 + k) from Nat.add_assoc 9 5 k, hb']
    exact drop_group hb k
  have hd' : ∀ k, cs.drop (19 + k) = (d ++ '-' :: e).drop k := fun k => by
    rw [show 19 + k = 14 + (5 + k) from Nat.add_assoc 14 5 k, hc']
    exact drop_group hc k
  have htake : cs.take 8 = a := by rw [← hcs, List.take_left' ha]
  have hsecond : cs.drop 13 = '-' :: (c ++ '-' :: (d ++ '-' :: e)) :=
    (hb' 4).trans (List.drop_left' hb)
  have hthird : cs.drop 18 = '-' :: (d ++ '-' :: e) := (hc' 4).trans (List.drop_left' hc)
  have hfourth : cs.drop 23 = '-' :: e := (hd' 4).trans (List.drop_left' hd)
  have htake' : (cs.drop 9).take 4 = b ∧ (cs.drop 14).take 4 = c ∧ (cs.drop 19).take 4 = d :=
    ⟨(congrArg (List.take 4) (hb' 0)).trans (List.take_left' hb),
      (congrArg (List.take 4) (hc' 0)).trans (List.take_left' hc),
      (congrArg (List.take 4) (hd' 0)).trans (List.take_left' hd)⟩
  simp only [ofHyphenated?, hfirst, hsecond, hthird, hfourth, htake, htake'.1, htake'.2.1,
    htake'.2.2]

theorem chars_eq {ds : List Char} (id : Uuid) (h : ds = hexDigits 32 id.bits.toNat) :
    id.chars = ds.take 8 ++ '-' :: ((ds.drop 8).take 4 ++ '-' :: ((ds.drop 12).take 4 ++
      '-' :: ((ds.drop 16).take 4 ++ '-' :: ds.drop 20))) := by
  rw [chars, ← h]
  simp [grouped, List.intercalate]

theorem ofDigits?_hexDigits (id : Uuid) : ofDigits? (hexDigits 32 id.bits.toNat) = some id := by
  have hlength : (hexDigits 32 id.bits.toNat).length = 32 := length_hexDigits 32 _
  have hsmall : id.bits.toNat < 16 ^ 32 := id.bits.isLt
  rw [ofDigits?, if_pos hlength, hexFrom?_hexDigits, Nat.mul_zero, Nat.zero_add,
    Nat.mod_eq_of_lt hsmall, Option.map_some, ofNat, BitVec.ofNat_toNat, BitVec.setWidth_eq]

/-- **The text of an identifier is read as it.** -/
theorem ofText?_text (id : Uuid) : ofText? id.text = some id := by
  rw [ofText?, text, String.toList_ofList]
  generalize hds : hexDigits 32 id.bits.toNat = ds
  have hlength : ds.length = 32 := hds ▸ length_hexDigits 32 _
  have hgroups := ofHyphenated?_groups (a := ds.take 8) (b := (ds.drop 8).take 4)
    (c := (ds.drop 12).take 4) (d := (ds.drop 16).take 4) (e := ds.drop 20) (by simp [hlength])
    (by simp [hlength]) (by simp [hlength]) (by simp [hlength])
  have hdigits : ds.take 8 ++ (ds.drop 8).take 4 ++ (ds.drop 12).take 4 ++ (ds.drop 16).take 4 ++
      ds.drop 20 = ds := by
    rw [← List.take_add, ← List.take_add, ← List.take_add, List.take_append_drop]
  have hchars : id.chars.length = 36 := by
    rw [chars_eq id hds.symm]
    simp [hlength]
  have hread : ofChars? id.chars = ofHyphenated? id.chars := by
    unfold ofChars?
    rw [if_neg (by omega), if_pos hchars]
  rw [hread, chars_eq id hds.symm, hgroups, hdigits, ← hds]
  exact ofDigits?_hexDigits id

end Uuid
end ScooterFleet
