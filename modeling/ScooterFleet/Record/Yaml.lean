import ScooterFleet.Record.Format
import ScooterFleet.Yaml.Node
import ScooterFleet.Yaml.Scalar

/-!
# Records in settings files

The document of a settings file is decoded like any other format.  Every scalar can be a text, with
quotes or without; all else is read off plain scalars.  A list or a record whose value is left out is
empty.  All faults are alike.
-/

namespace ScooterFleet
namespace Yaml

open Json (Fault)

namespace Node

/-- A fault where there is nothing. -/
def orMistyped {α : Type} : Option α → Except Fault α
  | some a => .ok a
  | none => .error .mistyped

/-- What `read` makes of a plain scalar. -/
def plain {α : Type} (read : String → Option α) : Node → Except Fault α
  | .scalar text true => orMistyped (read text)
  | _ => .error .mistyped

def text : Node → Except Fault String
  | .scalar text _ => .ok text
  | _ => .error .mistyped

/-- A scalar with quotes is something, even where it holds the text of nothing. -/
def isNothing : Node → Bool
  | .scalar text true => text.isEmpty || Scalar.isNull text
  | _ => false

instance : Format Node where
  shape
    | .map entries => .fields (entries.map fun (k, v) => .pair k.text v)
    | .list items => .items (items.map .value)
    | .scalar "" true => .empty
    | .scalar _ _ => .other .mistyped
  skip _ := .ok ()
  natural := plain Scalar.natural?
  real := plain Scalar.real?
  real32 := plain fun s => (Scalar.real? s).map Float.toFloat32
  text := Node.text
  flag := plain Scalar.flag?
  present v := .ok (if v.isNothing then none else some v)
  choice names v := do
    let name ← v.text
    if names.contains name then return name else throw .mistyped
  surplus := .mistyped

end Node

/-- Decodes a settings file. -/
def decodeText? {α : Type} (d : Decoder Node α) (s : String) : Option α := do
  (d (← Node.ofText? s)).toOption

end Yaml
end ScooterFleet
