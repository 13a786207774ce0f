import ScooterFleet.Json.Reading

/-!
# Reading records out of any format

A record has named slots.  `Record α` says which slots a type has, how each is decoded, which of them
may be missing, and how a value is built; the same record is read from the text of a JSON document,
from a JSON value, or from another format, whatever provides the class `Format`.

A record stands in a document as fields under their names, in any order, or as a list of items in the
order of its slots.  Fields of other names are passed over, a repeated slot is a fault, and faults come
in the order of the document.

* `Slot` — a named place with its decoder, and what holds when it is missing;
* `Record` — an applicative of slots: `mk <$> .required "latitude" real <*> …`;
* `Record.decode` — a record out of a value of any format.
-/

namespace ScooterFleet

open Json (Fault)

/-- What can be found at the place of a field. -/
inductive Field (σ : Type) where
  | pair (key : Except Fault String) (value : σ)
  /-- A key without a value. -/
  | dangling (key : Except Fault String) (fault : Fault)
  | broken (fault : Fault)

/-- What can be found at the place of an item. -/
inductive Item (σ : Type) where
  | value (value : σ)
  /-- No item: the fault for one who wants another, and for one who wants the end. -/
  | broken (wanted surplus : Fault)

/-- A value, seen as a record. -/
inductive Shape (σ : Type) where
  | fields (fields : List (Field σ))
  | items (items : List (Item σ))
  /-- Neither fields nor items, which is as good as none of either. -/
  | empty
  | other (fault : Fault)

/-- The values `σ` of a format, and what can be read out of them. -/
class Format (σ : Type) where
  shape : σ → Shape σ
  /-- Goes over a value that nobody looks at. -/
  skip : σ → Except Fault Unit
  /-- A whole number without sign. -/
  natural : σ → Except Fault Nat
  real : σ → Except Fault Float
  real32 : σ → Except Fault Float32
  text : σ → Except Fault String
  flag : σ → Except Fault Bool
  /-- Nothing, or a value that is something. -/
  present : σ → Except Fault (Option σ)
  /-- One of some names. -/
  choice : List String → σ → Except Fault String
  /-- An item where the end of a list is wanted. -/
  surplus : Fault

abbrev Decoder (σ α : Type) := σ → Except Fault α

namespace Decoder

variable {σ α β : Type} [Format σ]

def map (f : α → β) (d : Decoder σ α) : Decoder σ β := fun v => (d v).map f

/-- A whole number below `bound`. -/
def below (bound : Nat) : Decoder σ Nat := fun v => do
  let n ← Format.natural v
  if n < bound then return n else throw .mistyped

def word : Decoder σ UInt64 := map Nat.toUInt64 (below (Nat.pow 2 64))

def halfWord : Decoder σ UInt32 := map Nat.toUInt32 (below (Nat.pow 2 32))

/-- A value, or nothing. -/
def optional (d : Decoder σ α) : Decoder σ (Option α) := fun v => do
  match ← Format.present v with
  | none => return none
  | some v => return some (← d v)

/-- A text that `parse` takes. -/
def parsed (parse : String → Option α) : Decoder σ α := fun v => do
  match parse (← Format.text v) with
  | some a => return a
  | none => throw .mistyped

/-- One of some named values. -/
def oneOf (names : List (String × α)) : Decoder σ α := fun v => do
  let name ← Format.choice (names.map (·.1)) v
  match names.lookup name with
  | some a => return a
  | none => throw .mistyped

def items (d : Decoder σ α) : List (Item σ) → Except Fault (List α)
  | [] => .ok []
  | .broken f _ :: _ => .error f
  | .value v :: vs => do
    let a ← d v
    let as ← items d vs
    return a :: as

/-- Any number of values. -/
def list (d : Decoder σ α) : Decoder σ (List α) := fun v =>
  match Format.shape v with
  | .items is => items d is
  | .empty => .ok []
  | .fields _ => .error .mistyped
  | .other f => .error f

end Decoder

/-- What holds when a slot is missing. -/
inductive Missing where
  /-- A fault. -/
  | refused
  /-- Nothing, where slots have names; a fault where they are counted. -/
  | unnamed
  /-- The value that is usual. -/
  | usual
  deriving DecidableEq, Repr

structure Slot (σ : Type) where
  name : String
  missing : Missing
  check : σ → Except Fault Unit

/-- The slots of a type, and the value that what was found in them makes. -/
structure Record (σ α : Type) where
  slots : List (Slot σ)
  build : (String → Option σ) → Except Fault α

namespace Record

variable {σ α β : Type} [Format σ]

def slot (name : String) (missing : Missing) (d : Decoder σ α) (absent : Except Fault α) :
    Record σ α where
  slots := [⟨name, missing, fun v => (d v).map fun _ => ()⟩]
  build found := match found name with
    | some v => d v
    | none => absent

/-- A slot that has to be there. -/
def required (name : String) (d : Decoder σ α) : Record σ α :=
  slot name .refused d (.error .mistyped)

/-- A slot for a value or nothing, which has to be there where slots are counted. -/
def optional (name : String) (d : Decoder σ α) : Record σ (Option α) :=
  slot name .unnamed (d.optional) (.ok none)

/-- A slot with a usual value. -/
def defaulted (name : String) (d : Decoder σ α) (usual : α) : Record σ α :=
  slot name .usual d (.ok usual)

instance : Functor (Record σ) where
  map f r := ⟨r.slots, fun found => (r.build found).map f⟩

instance : Seq (Record σ) where
  seq f x :=
    let r := x ()
    ⟨f.slots ++ r.slots, fun found => do
      let g ← f.build found
      let a ← r.build found
      return g a⟩

/-- A fault if a slot that has to be there was not found. -/
def checkMissing (allowed : Missing → Bool) (slots : List (Slot σ)) : Except Fault Unit :=
  if slots.all fun s => allowed s.missing then .ok () else .error .mistyped

/-- The slots that are filled by fields, in the order of the document. -/
def fillByName (slots : List (Slot σ)) :
    List (String × σ) → List (Field σ) → Except Fault (List (String × σ))
  | found, [] => do
    checkMissing (· != .refused) (slots.filter fun s => (found.lookup s.name).isNone)
    return found
  | _, .broken f :: _ => .error f
  | found, .dangling key f :: _ => do
    let k ← key
    if (found.lookup k).isSome then throw .mistyped
    throw f
  | found, .pair key v :: fields => do
    let k ← key
    match slots.find? (·.name == k) with
    | none => do
      Format.skip v
      fillByName slots found fields
    | some s =>
      if (found.lookup k).isSome then throw .mistyped
      s.check v
      fillByName slots ((k, v) :: found) fields

/-- The slots that are filled by items, in their own order. -/
def fillByPlace : List (Slot σ) → List (Item σ) → Except Fault (List (String × σ))
  | [], [] => .ok []
  | [], .value _ :: _ => .error (Format.surplus σ)
  | [], .broken _ surplus :: _ => .error surplus
  | slots, [] => do
    checkMissing (· == .usual) slots
    return []
  | _ :: _, .broken f _ :: _ => .error f
  | s :: slots, .value v :: items => do
    s.check v
    let found ← fillByPlace slots items
    return (s.name, v) :: found

/-- A record out of a value of the format. -/
def decode (r : Record σ α) : Decoder σ α := fun v => do
  let found ← match Format.shape v with
    | .fields fields => fillByName r.slots [] fields
    | .items items => fillByPlace r.slots items
    | .empty => fillByName r.slots [] []
    | .other f => .error f
  r.build (found.lookup ·)

end Record
end ScooterFleet
