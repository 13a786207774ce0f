import ScooterFleet.Decimal.Numeral
import ScooterFleet.Text.Uuid

/-!
# Plain scalars

What a scalar without quotes stands for, where its place wants something else than a text: nothing, a
truth value, a whole number without sign, or a number.
-/

namespace ScooterFleet
namespace Yaml
namespace Scalar

def isNull (s : String) : Bool := ["null", "Null", "NULL", "~"].contains s

def flag? (s : String) : Option Bool :=
  if ["true", "True", "TRUE"].contains s then some true
  else if ["false", "False", "FALSE"].contains s then some false
  else none

def withoutPlus : List Char → List Char
  | '+' :: cs => cs
  | cs => cs

/-! ### Whole numbers -/

/-- The value of one or more digits of a base. -/
def digits? (base : Nat) (cs : List Char) : Option Nat :=
  if cs.isEmpty then none
  else cs.foldl (fun n c => do
    let d ← Uuid.hexValue? c
    if d < base then return base * (← n) + d else none) (some 0)

/-- A decimal number has no zeros in front; a number of another base is marked as one. -/
def naturalOfChars? : List Char → Option Nat
  | '0' :: 'x' :: cs => digits? 16 cs
  | '0' :: 'o' :: cs => digits? 8 cs
  | '0' :: 'b' :: cs => digits? 2 cs
  | '0' :: _ :: _ => none
  | cs => digits? 10 cs

def natural? (s : String) : Option Nat := naturalOfChars? (withoutPlus s.toList)

/-! ### Numbers -/

/-- A numeral that may have zeros in front, and a point without digits on one side. -/
def numeral? (cs : List Char) : Option Numeral := do
  let (negative, cs) := match cs with
    | '-' :: cs => (true, cs)
    | cs => (false, cs)
  let (whole, cs) := Numeral.digitRun cs
  let (part, cs) := match cs with
    | '.' :: cs => Numeral.digitRun cs
    | cs => ([], cs)
  if whole.isEmpty && part.isEmpty then none
  match Numeral.readExponent cs with
  | .ok (exponent, []) =>
    return ⟨negative, Numeral.valueFrom 0 (whole ++ part), some part.length, exponent⟩
  | _ => none

def finite? (cs : List Char) : Option Float := do
  let x := (← numeral? cs).toFloat
  if x.isFinite then some x else none

/-- What is no number and what has no bound are written with a point in front. -/
def real? (s : String) : Option Float :=
  if [".inf", ".Inf", ".INF", "+.inf", "+.Inf", "+.INF"].contains s then some (1.0 / 0.0)
  else if ["-.inf", "-.Inf", "-.INF"].contains s then some (-1.0 / 0.0)
  else if [".nan", ".NaN", ".NAN"].contains s then some (0.0 / 0.0)
  else
    match s.toList with
    | '+' :: '-' :: _ => none
    | cs => finite? (withoutPlus cs)

end Scalar
end Yaml
end ScooterFleet
