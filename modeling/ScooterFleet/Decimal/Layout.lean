import ScooterFleet.Decimal.Numeral

/-!
# How digits are laid out

`Decimal.ofFloat` says which digits stand for a value; a `Layout` says how they are written: from
which exponents on without point notation, with or without `.0` behind a whole number, and what
stands for the values that have no digits.  One record holds the decisions of one kind of text.
-/

namespace ScooterFleet

/-- The decisions of one kind of text. -/
structure Layout where
  /-- Is a value whose first digit stands for `10^e` written without an exponent? -/
  plain : Int → Bool
  /-- Does `.0` follow a whole number that is written without an exponent? -/
  pointOnWhole : Bool
  tie : Decimal.Tie
  notANumber : String
  infinity : String

namespace Layout

/-- `digits` with `places` of them behind the point; a point in front of all digits gets zeros. -/
def numeral (layout : Layout) (negative : Bool) (d : Decimal) : Numeral :=
  let count := Decimal.width d.digits
  let lead : Int := count + d.scale - 1
  if d.digits = 0 then
    ⟨negative, 0, if layout.pointOnWhole then some 1 else none, none⟩
  else if layout.plain lead then
    if 0 ≤ d.scale then
      let whole := d.digits * Nat.pow 10 d.scale.toNat
      if layout.pointOnWhole then ⟨negative, whole * 10, some 1, none⟩
      else ⟨negative, whole, none, none⟩
    else ⟨negative, d.digits, some d.scale.natAbs, none⟩
  else
    ⟨negative, d.digits, if count = 1 then none else some (count - 1), some lead⟩

/-- The numeral of a finite double, none for the others. -/
def ofFloat (layout : Layout) (x : Float) : Option Numeral :=
  if x.isFinite then
    some (layout.numeral (x.toBits >>> 63 == 1) (Decimal.ofFloat layout.tie x))
  else none

/-- The numeral of a finite single, none for the others. -/
def ofFloat32 (layout : Layout) (x : Float32) : Option Numeral :=
  if x.isFinite then
    some (layout.numeral (x.toBits >>> 31 == 1) (Decimal.ofFloat32 layout.tie x))
  else none

def text (layout : Layout) (x : Float) : String :=
  match layout.ofFloat x with
  | some n => n.text
  | none =>
    if x.isNaN then layout.notANumber
    else if x < 0 then "-" ++ layout.infinity
    else layout.infinity

/-- Numbers inside messages never have an exponent, and whole ones no point. -/
def message : Layout where
  plain _ := true
  pointOnWhole := false
  tie := .upward
  notANumber := "NaN"
  infinity := "inf"

/-- Numbers of the wire and of files: with an exponent below `10^-5` and from `10^16` on, and always
with a point otherwise.  Values that are no numbers become `null`. -/
def json : Layout where
  plain e := -5 ≤ e && e ≤ 15
  pointOnWhole := true
  tie := .toEven
  notANumber := "null"
  infinity := "null"

/-- Singles are written like doubles, but have an exponent below `10^-6` and from `10^13` on. -/
def jsonSingle : Layout := { json with plain := fun e => -6 ≤ e && e ≤ 12 }

end Layout
end ScooterFleet
