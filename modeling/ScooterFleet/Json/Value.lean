import ScooterFleet.Decimal.Layout
import ScooterFleet.Json.Text

/-!
# JSON values and their texts

A value keeps its numbers as numerals and its object fields in order.  `Json.text` writes it without
blanks, `Json.toLines` on lines indented by two blanks, with `[]` and `{}` for what is empty.
-/

namespace ScooterFleet

inductive Json where
  | null
  | bool (value : Bool)
  | number (value : Numeral)
  | text (value : String)
  | list (items : List Json)
  | object (fields : List (String × Json))

namespace Json

/-! ### Values of other types -/

def ofNat (n : Nat) : Json := .number (.ofNat n)

def ofWord (n : UInt64) : Json := .ofNat n.toNat

/-- A double that is no number becomes `null`. -/
def ofFloat (x : Float) : Json :=
  match Layout.json.ofFloat x with
  | some n => .number n
  | none => .null

def ofFloat32 (x : Float32) : Json :=
  match Layout.jsonSingle.ofFloat32 x with
  | some n => .number n
  | none => .null

def ofOption {α : Type} (toJson : α → Json) : Option α → Json
  | none => .null
  | some a => toJson a

/-! ### Writing without blanks -/

mutual

def chars : Json → List Char
  | .null => ['n', 'u', 'l', 'l']
  | .bool true => ['t', 'r', 'u', 'e']
  | .bool false => ['f', 'a', 'l', 's', 'e']
  | .number n => n.chars
  | .text s => Text.chars s.toList
  | .list [] => ['[', ']']
  | .list (v :: vs) => '[' :: chars v ++ itemsChars vs
  | .object [] => ['\x7b', '\x7d']
  | .object ((k, v) :: fs) => '\x7b' :: Text.chars k.toList ++ ':' :: chars v ++ fieldsChars fs

/-- The items behind the first one, and the closing bracket. -/
def itemsChars : List Json → List Char
  | [] => [']']
  | v :: vs => ',' :: chars v ++ itemsChars vs

/-- The fields behind the first one, and the closing brace. -/
def fieldsChars : List (String × Json) → List Char
  | [] => ['\x7d']
  | (k, v) :: fs => ',' :: Text.chars k.toList ++ ':' :: chars v ++ fieldsChars fs

end

/-- The text of a value, without blanks. -/
def toText (v : Json) : String := String.ofList v.chars

/-! ### Writing on lines -/

/-- A new line at a depth. -/
def newLine (depth : Nat) : List Char := '\n' :: List.replicate (2 * depth) ' '

mutual

/-- The text of a value whose first line stands at `depth`. -/
def prettyChars (depth : Nat) : Json → List Char
  | .list (v :: vs) =>
    '[' :: newLine (depth + 1) ++ prettyChars (depth + 1) v ++ prettyItems depth vs
  | .object ((k, v) :: fs) =>
    '\x7b' :: newLine (depth + 1) ++ Text.chars k.toList ++ ':' :: ' ' ::
      prettyChars (depth + 1) v ++ prettyFields depth fs
  | .null => ['n', 'u', 'l', 'l']
  | .bool true => ['t', 'r', 'u', 'e']
  | .bool false => ['f', 'a', 'l', 's', 'e']
  | .number n => n.chars
  | .text s => Text.chars s.toList
  | .list [] => ['[', ']']
  | .object [] => ['\x7b', '\x7d']

def prettyItems (depth : Nat) : List Json → List Char
  | [] => newLine depth ++ [']']
  | v :: vs => ',' :: newLine (depth + 1) ++ prettyChars (depth + 1) v ++ prettyItems depth vs

def prettyFields (depth : Nat) : List (String × Json) → List Char
  | [] => newLine depth ++ ['\x7d']
  | (k, v) :: fs =>
    ',' :: newLine (depth + 1) ++ Text.chars k.toList ++ ':' :: ' ' ::
      prettyChars (depth + 1) v ++ prettyFields depth fs

end

/-- The text of a value, on lines. -/
def toLines (v : Json) : String := String.ofList (v.prettyChars 0)

end Json
end ScooterFleet
