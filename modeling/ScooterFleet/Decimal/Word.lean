import ScooterFleet.Decimal.Numeral

/-!
# Words in texts

Where a text holds a number and nothing else, it is read more freely than a numeral: zeros and one plus
sign may stand in front.
-/

namespace ScooterFleet

/-- A number of 64 bits in decimal digits. -/
def wordOfChars? (cs : List Char) : Option UInt64 :=
  let ds := match cs with
    | '+' :: ds => ds
    | ds => ds
  let n := Numeral.valueFrom 0 ds
  if ds.isEmpty || !ds.all Char.isDigit || Nat.pow 2 64 ≤ n then none else some n.toUInt64

def wordOfText? (s : String) : Option UInt64 := wordOfChars? s.toList

end ScooterFleet
