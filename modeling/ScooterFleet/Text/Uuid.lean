/-!
# Unique identifiers

Identifiers of 128 bits, written as 32 lower-case hexadecimal digits in groups of 8, 4, 4, 4 and 12
with hyphens between them.  Read are this form in any letter case, also in braces or behind
`urn:uuid:`, and the 32 digits without hyphens.
-/

namespace ScooterFleet

structure Uuid where
  bits : BitVec 128
  deriving DecidableEq, Repr

namespace Uuid

def ofNat (n : Nat) : Uuid := ⟨BitVec.ofNat 128 n⟩

/-! ### Writing -/

/-- The last `k` hexadecimal digits of `n`. -/
def hexDigits : Nat → Nat → List Char
  | 0, _ => []
  | k + 1, n => hexDigits k (n / 16) ++ [Nat.digitChar (n % 16)]

/-- The digits in groups. -/
def grouped (ds : List Char) : List (List Char) :=
  [ds.take 8, (ds.drop 8).take 4, (ds.drop 12).take 4, (ds.drop 16).take 4, ds.drop 20]

def chars (id : Uuid) : List Char :=
  ['-'].intercalate (grouped (hexDigits 32 id.bits.toNat))

def text (id : Uuid) : String := String.ofList id.chars

/-! ### Reading -/

def hexValue? (c : Char) : Option Nat :=
  if '0' ≤ c ∧ c ≤ '9' then some (c.toNat - '0'.toNat)
  else if 'a' ≤ c ∧ c ≤ 'f' then some (c.toNat - 'a'.toNat + 10)
  else if 'A' ≤ c ∧ c ≤ 'F' then some (c.toNat - 'A'.toNat + 10)
  else none

/-- The value of hexadecimal digits behind those already read. -/
def hexFrom? (n : Nat) : List Char → Option Nat
  | [] => some n
  | c :: cs =>
    match hexValue? c with
    | none => none
    | some d => hexFrom? (16 * n + d) cs

/-- Thirty-two digits. -/
def ofDigits? (cs : List Char) : Option Uuid :=
  if cs.length = 32 then (hexFrom? 0 cs).map ofNat else none

/-- Thirty-two digits with a hyphen behind the eighth, twelfth, sixteenth and twentieth. -/
def ofHyphenated? (cs : List Char) : Option Uuid :=
  match cs.drop 8, cs.drop 13, cs.drop 18, cs.drop 23 with
  | '-' :: _, '-' :: _, '-' :: _, '-' :: last =>
    ofDigits? (cs.take 8 ++ (cs.drop 9).take 4 ++ (cs.drop 14).take 4 ++ (cs.drop 19).take 4 ++ last)
  | _, _, _, _ => none

def ofChars? (cs : List Char) : Option Uuid :=
  if cs.length = 32 then ofDigits? cs
  else if cs.length = 36 then ofHyphenated? cs
  else if cs.length = 38 then
    if cs.head? = some '\x7b' ∧ cs.getLast? = some '\x7d' then ofHyphenated? (cs.drop 1).dropLast
    else none
  else if cs.length = 45 then
    if (cs.take 9).map Char.toLower = "urn:uuid:".toList then ofHyphenated? (cs.drop 9) else none
  else none

def ofText? (s : String) : Option Uuid := ofChars? s.toList

end Uuid
end ScooterFleet
