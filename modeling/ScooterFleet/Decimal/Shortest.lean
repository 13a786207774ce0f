/-!
# Shortest decimals

Which decimal digits stand for a finite binary value.  A value `m · 2^q` is written with the fewest
digits that its reader takes back to the same value; of two such candidates with equally many digits
the nearer one is taken.

* `Decimal` — `digits · 10^scale`, the values that are written;
* `shortest` — the search: grids of 1, 2, … 17 digits, and on each grid the two neighbours of the value;
* `Decimal.ofFloat`, `Decimal.ofFloat32` — the search with the reader of each width.

A candidate is taken if it reads back as the value.  That one is always found within seventeen digits is
*not* shown; the exact value is returned if none is.
-/

namespace ScooterFleet

/-- The number `digits · 10^scale`. -/
structure Decimal where
  digits : Nat
  scale : Int
  deriving DecidableEq, Repr

namespace Decimal

/-- A candidate of each grid lies next to the value; two candidates can be equally near. -/
inductive Tie where
  | toEven
  | upward
  deriving DecidableEq, Repr

/-- The numerator and denominator of `m · 2^q · 10^s`. -/
def fraction (m : Nat) (q s : Int) : Nat × Nat :=
  (m * Nat.pow 2 q.toNat * Nat.pow 10 s.toNat, Nat.pow 2 (-q).toNat * Nat.pow 10 (-s).toNat)

/-- The number of decimal digits of `n`. -/
def width (n : Nat) : Nat := (Nat.toDigits 10 n).length

/-- The exponent `k` with `10^(k-1) ≤ m · 2^q < 10^k`, for `m ≠ 0`. -/
def magnitude (m : Nat) (q : Int) : Int :=
  let (num, den) := fraction m q 0
  if den ≤ num then width (num / den)
  else
    -- the least `s` with `den ≤ num · 10^s`, from the widths, is right or one too small
    let s := width den - width num
    let k : Int := 1 - (s : Int)
    if den ≤ num * Nat.pow 10 s then k else k - 1

/-- The two neighbours of `m · 2^q` among the multiples of `10^scale`, the nearer one first. -/
def neighbours (tie : Tie) (m : Nat) (q scale : Int) : List Decimal :=
  let (num, den) := fraction m q (-scale)
  let below := num / den
  let rest := 2 * (num % den)
  let lower : Decimal := ⟨below, scale⟩
  let upper : Decimal := ⟨below + 1, scale⟩
  let lowerFirst := rest < den || (rest == den && tie == .toEven && below % 2 == 0)
  if lowerFirst then [lower, upper] else [upper, lower]

/-- The exact value, for a search that finds nothing. -/
def exact (m : Nat) (q : Int) : Decimal :=
  if 0 ≤ q then ⟨m * Nat.pow 2 q.toNat, 0⟩ else ⟨m * Nat.pow 5 (-q).toNat, q⟩

/-- Moves zeros at the end of the digits into the scale.  `fuel` bounds their number. -/
def stripZeros : Nat → Decimal → Decimal
  | 0, d => d
  | fuel + 1, d =>
    if d.digits ≠ 0 ∧ d.digits % 10 = 0 then stripZeros fuel ⟨d.digits / 10, d.scale + 1⟩ else d

/-- The first accepted candidate on the grids of `count`, `count + 1`, … digits, `fuel` grids in all. -/
def search (accepts : Decimal → Bool) (tie : Tie) (m : Nat) (q k : Int) : Nat → Nat → Option Decimal
  | 0, _ => none
  | fuel + 1, count =>
    match (neighbours tie m q (k - count)).find? accepts with
    | some d => some d
    | none => search accepts tie m q k fuel (count + 1)

/-- The fewest digits that `accepts` takes for `m · 2^q`. -/
def shortest (accepts : Decimal → Bool) (tie : Tie) (m : Nat) (q : Int) : Decimal :=
  if m = 0 then ⟨0, 0⟩
  else
    match search accepts tie m q (magnitude m q) 17 1 with
    | some d => stripZeros (width d.digits) d
    | none => exact m q

/-! ### Reading decimals back -/

/-- The double nearest to a decimal, ties to even. -/
def toFloat (d : Decimal) : Float :=
  Float.ofScientific d.digits (d.scale < 0) d.scale.natAbs

/-- The single nearest to a decimal, ties to even. -/
def toFloat32 (d : Decimal) : Float32 :=
  Float32.ofScientific d.digits (d.scale < 0) d.scale.natAbs

/-- The digits of the magnitude of a finite double. -/
def ofFloat (tie : Tie) (x : Float) : Decimal :=
  let bits := x.abs.toBits
  let e := (bits >>> 52).toNat
  let f := (bits &&& 0xFFFFFFFFFFFFF).toNat
  let accepts (d : Decimal) : Bool := d.toFloat.toBits == bits
  if e = 0 then shortest accepts tie f (-1074)
  else shortest accepts tie (Nat.pow 2 52 + f) ((e : Int) - 1075)

/-- The digits of the magnitude of a finite single. -/
def ofFloat32 (tie : Tie) (x : Float32) : Decimal :=
  let bits := x.abs.toBits
  let e := (bits >>> 23).toNat
  let f := (bits &&& 0x7FFFFF).toNat
  let accepts (d : Decimal) : Bool := d.toFloat32.toBits == bits
  if e = 0 then shortest accepts tie f (-149)
  else shortest accepts tie (Nat.pow 2 23 + f) ((e : Int) - 150)

end Decimal
end ScooterFleet
