import ScooterFleet.Decimal.Shortest

/-!
# Numerals

A numeral is what stands in a text for a number: a sign, digits with a point somewhere in them, and
an exponent.  `Numeral.chars` writes one and `Numeral.read` takes one off the front of a text.

The writer shows a positive exponent's sign.  The reader takes either case of `e` and a missing sign
too, so a text can be read that is never written.
-/

namespace ScooterFleet

/-- `digits` holds the digits before and after the point, `places` the number of those after it. -/
structure Numeral where
  negative : Bool
  digits : Nat
  /-- Digits behind the point; none if there is no point. -/
  places : Option Nat
  exponent : Option Int
  deriving DecidableEq, Repr

namespace Numeral

/-! ### Writing -/

/-- The decimal digits of `n`. -/
def natChars (n : Nat) : List Char := Nat.toDigits 10 n

/-- The last `k` decimal digits of `n`, with zeros in front where it has fewer. -/
def lastDigits : Nat → Nat → List Char
  | 0, _ => []
  | k + 1, n => lastDigits k (n / 10) ++ [Nat.digitChar (n % 10)]

def fractionChars (n : Numeral) : List Char :=
  match n.places with
  | none => []
  | some k => '.' :: lastDigits k n.digits

def exponentChars (n : Numeral) : List Char :=
  match n.exponent with
  | none => []
  | some e => 'e' :: (if e < 0 then '-' else '+') :: natChars e.natAbs

def chars (n : Numeral) : List Char :=
  (if n.negative then ['-'] else []) ++
    natChars (n.digits / Nat.pow 10 (n.places.getD 0)) ++ n.fractionChars ++ n.exponentChars

def text (n : Numeral) : String := String.ofList n.chars

/-- A whole number, without point and exponent. -/
def ofNat (n : Nat) : Numeral := ⟨false, n, none, none⟩

/-! ### Reading -/

/-- Why no numeral stands at the front of a text. -/
inductive Fault where
  /-- The text ends inside the numeral. -/
  | ended
  | malformed
  deriving DecidableEq, Repr

/-- The value of decimal digits behind those already read. -/
def valueFrom (n : Nat) (digits : List Char) : Nat :=
  digits.foldl (fun n c => 10 * n + (c.toNat - '0'.toNat)) n

def digitRun (cs : List Char) : List Char × List Char :=
  (cs.takeWhile Char.isDigit, cs.dropWhile Char.isDigit)

/-- What is missing where a digit has to stand. -/
def noDigit (cs : List Char) : Fault :=
  if cs.isEmpty then .ended else .malformed

/-- The digits before the point: one zero, or digits that start with none. -/
def readWhole (cs : List Char) : Except Fault (Nat × List Char) :=
  match digitRun cs with
  | ([], rest) => .error (noDigit rest)
  | (['0'], rest) => .ok (0, rest)
  | ('0' :: _ :: _, _) => .error .malformed
  | (ds, rest) => .ok (valueFrom 0 ds, rest)

/-- The digits behind the point: their value behind `whole`, and their number. -/
def readFraction (whole : Nat) (cs : List Char) : Except Fault ((Nat × Option Nat) × List Char) :=
  match cs with
  | '.' :: cs =>
    match digitRun cs with
    | ([], rest) => .error (noDigit rest)
    | (ds, rest) => .ok ((valueFrom whole ds, some ds.length), rest)
  | cs => .ok ((whole, none), cs)

def readExponentDigits (negative : Bool) (cs : List Char) :
    Except Fault (Option Int × List Char) :=
  match digitRun cs with
  | ([], rest) => .error (noDigit rest)
  | (ds, rest) =>
    let e : Int := valueFrom 0 ds
    .ok (some (if negative then -e else e), rest)

def readExponent (cs : List Char) : Except Fault (Option Int × List Char) :=
  match cs with
  | c :: cs' =>
    if c = 'e' || c = 'E' then
      match cs' with
      | '-' :: ds => readExponentDigits true ds
      | '+' :: ds => readExponentDigits false ds
      | ds => readExponentDigits false ds
    else .ok (none, cs)
  | [] => .ok (none, [])

/-- The numeral at the front of a text, and what follows it. -/
def read (cs : List Char) : Except Fault (Numeral × List Char) := do
  let (negative, cs) := match cs with
    | '-' :: cs => (true, cs)
    | cs => (false, cs)
  let (whole, cs) ← readWhole cs
  let ((digits, places), cs) ← readFraction whole cs
  let (exponent, cs) ← readExponent cs
  return (⟨negative, digits, places, exponent⟩, cs)

/-! ### Values -/

/-- A whole number is written without sign, point and exponent. -/
def toNat? (n : Numeral) : Option Nat :=
  match n with
  | ⟨false, digits, none, none⟩ => some digits
  | _ => none

/-- The power of ten that the digits are multiplied with. -/
def scale (n : Numeral) : Int := n.exponent.getD 0 - n.places.getD 0

/-- The magnitude of a numeral, read by `nearest` where its decimal exponent is not beyond all
doubles; far beyond them it is `huge` or zero. -/
def magnitude {β : Type} (nearest : Decimal → β) (huge : β) (n : Numeral) : β :=
  if n.digits = 0 then nearest ⟨0, 0⟩
  else
    let top := Decimal.width n.digits + n.scale
    if 400 < top then huge
    else if top < -400 then nearest ⟨0, 0⟩
    else nearest ⟨n.digits, n.scale⟩

/-- The double nearest to a numeral; a minus sign stays on a zero. -/
def toFloat (n : Numeral) : Float :=
  let x := n.magnitude Decimal.toFloat (1.0 / 0.0)
  if n.negative then -x else x

/-- The single nearest to a numeral that is a word; any other numeral is rounded to a double first. -/
def toFloat32 (n : Numeral) : Float32 :=
  match n with
  | ⟨false, digits, none, none⟩ =>
    if digits < Nat.pow 2 64 then digits.toUInt64.toFloat32 else n.toFloat.toFloat32
  | ⟨true, digits, none, none⟩ =>
    if 0 < digits && digits ≤ Nat.pow 2 63 then -digits.toUInt64.toFloat32 else n.toFloat.toFloat32
  | _ => n.toFloat.toFloat32

/-- A whole number of 64 bits. -/
def isWord (n : Numeral) : Bool := n.toNat?.any (· < Nat.pow 2 64)

/-- Words are taken as they are; other numerals beyond the largest double stand for no number. -/
def inRange (n : Numeral) : Bool := n.isWord || n.toFloat.isFinite

end Numeral
end ScooterFleet
