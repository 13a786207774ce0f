import ScooterFleet.Record.Format

/-!
# Records in JSON

The two sides from which JSON is decoded.  A `Json.Reading` is decoded in the order of its text, so
that a fault of the wanted type can come before a fault of the text.  A `Json` value has been read as a
whole already, and every fault is one of the type.

`Json.decodeText` decodes a text that holds one value and nothing else.
-/

namespace ScooterFleet
namespace Json

/-! ### Readings -/

def Items.toItems : Items → List (Item Reading)
  | .closed => []
  | .fails f afterComma => [.broken f (if f = .ended && !afterComma then .ended else .malformed)]
  | .item v more => .value v :: more.toItems

def Entries.toFields : Entries → List (Field Reading)
  | .closed => []
  | .fails wanted _ _ => [.broken wanted]
  | .stray _ => [.broken .malformed]
  | .dangling key f => [.dangling key f]
  | .entry key v more => .pair key v :: more.toFields

/-- What follows the one field of a choice. -/
def Entries.close : Entries → Except Fault Unit
  | .closed => .ok ()
  | .fails _ .ended false => .error .ended
  | _ => .error .malformed

namespace Reading

/-- A choice is a name, or an object with the name as its one key and `null` behind it. -/
def choice (names : List String) : Reading → Except Fault String
  | .text s => do
    let name ← s
    if names.contains name then return name else throw .mistyped
  | .object .closed => .error .malformed
  | .object (.fails wanted _ _) => .error wanted
  | .object (.stray token) => .error token.refuse
  | .object (.dangling key f) => do
    let name ← key
    if names.contains name then throw f else throw .mistyped
  | .object (.entry key v more) => do
    let name ← key
    if !names.contains name then throw .mistyped
    match v with
    | .null => more.close
    | v => throw v.refuse
    return name
  | .broken wanted _ => .error wanted
  | _ => .error .malformed

instance : Format Reading where
  shape
    | .list items => .items items.toItems
    | .object entries => .fields entries.toFields
    | v => .other v.refuse
  skip := Reading.skip
  natural
    | .number n =>
      if n.inRange then
        match n.toNat? with
        | some k => .ok k
        | none => .error .mistyped
      else .error .malformed
    | v => .error v.refuse
  real
    | .number n => if n.inRange then .ok n.toFloat else .error .malformed
    | v => .error v.refuse
  real32
    | .number n => if n.inRange then .ok n.toFloat32 else .error .malformed
    | v => .error v.refuse
  text
    | .text s => s
    | v => .error v.refuse
  flag
    | .bool b => .ok b
    | v => .error v.refuse
  present
    | .null => .ok none
    | .broken wanted _ => .error wanted
    | v => .ok (some v)
  choice := Reading.choice
  surplus := .malformed

end Reading

/-! ### Values -/

def ofChoice (names : List String) (name : String) : Except Fault String :=
  if names.contains name then .ok name else .error .mistyped

instance : Format Json where
  shape
    | .list vs => .items (vs.map .value)
    | .object fs => .fields (fs.map fun (k, v) => .pair (.ok k) v)
    | _ => .other .mistyped
  skip _ := .ok ()
  natural
    | .number n =>
      match n.toNat? with
      | some k => .ok k
      | none => .error .mistyped
    | _ => .error .mistyped
  real
    | .number n => .ok n.toFloat
    | _ => .error .mistyped
  real32
    | .number n => .ok n.toFloat32
    | _ => .error .mistyped
  text
    | .text s => .ok s
    | _ => .error .mistyped
  flag
    | .bool b => .ok b
    | _ => .error .mistyped
  present
    | .null => .ok none
    | v => .ok (some v)
  choice names
    | .text name => ofChoice names name
    | .object [(name, .null)] => ofChoice names name
    | .object [(name, .object [])] => ofChoice names name
    | _ => .error .mistyped
  surplus := .mistyped

/-! ### Tagged values -/

/-- How many lists and objects of a tagged value may stand inside one another. -/
def tagDepth : Nat := 127

/-- A tag is a plain name, one of some. -/
def readTag (tags : List String) (v : Reading) : Except Fault String := do
  let tag ← Format.text v
  ofChoice tags tag

/-- The tag among the fields of an object, and the other fields.  The tag is looked at where it
stands, the other values are read as wholes. -/
def untagFields (key : String) (tags : List String) :
    Option String → List (Field Reading) → Except Fault (String × List (String × Json))
  | none, [] => .error .mistyped
  | some tag, [] => .ok (tag, [])
  | _, .broken f :: _ => .error f
  | tag, .dangling k f :: _ => do
    let k ← k
    if k == key && tag.isSome then throw .mistyped
    throw f
  | tag, .pair k v :: fields => do
    let k ← k
    if k == key then
      if tag.isSome then throw .mistyped
      untagFields key tags (some (← readTag tags v)) fields
    else
      let v ← v.whole (tagDepth - 1)
      let (tag, rest) ← untagFields key tags tag fields
      return (tag, (k, v) :: rest)

/-- A value with a tag: the tag, and the value without it.  In a list the tag comes first. -/
def untag (key : String) (tags : List String) : Reading → Except Fault (String × Json)
  | .object entries => do
    let (tag, rest) ← untagFields key tags none entries.toFields
    return (tag, .object rest)
  | .list .closed => .error .mistyped
  | .list (.fails f _) => .error f
  | .list (.item v more) => do
    let tag ← readTag tags v
    let rest ← more.whole (tagDepth - 1)
    return (tag, .list rest)
  | v => .error v.refuse

/-! ### Texts -/

/-- Decodes a text that holds one value, with nothing but blanks around it. -/
def decodeChars {α : Type} (d : Decoder Reading α) (cs : List Char) : Except Fault α := do
  let (v, rest) := Reading.ofChars cs
  let a ← d v
  match rest.map skipBlanks with
  | some [] => return a
  | _ => throw .malformed

def decodeText {α : Type} (d : Decoder Reading α) (s : String) : Except Fault α :=
  decodeChars d s.toList

end Json
end ScooterFleet
