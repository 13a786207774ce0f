import ScooterFleet.Json.Value

/-!
# Texts read as far as they go

A text that is no JSON is still read up to its first fault, since what stands before it may be wrong
already for other reasons.  A `Reading` is a value that may break off: a list or an object ends in the
way it ended in the text.  Whoever decodes a reading goes through it in the order of the text, and
meets either a fault of its own or the one at which the text breaks off, whichever comes first.

Strings and numbers that nobody looks at are held to less: `Reading.skip` lets unpaired surrogates and
numbers beyond all doubles pass.

* `Reading.ofChars` — the reading of a text and what follows it;
* `Reading.whole` — the value, if all of it is sound and not nested too deeply;
* `Reading.ofJson` — the reading of a value's text.
-/

namespace ScooterFleet
namespace Json

mutual

/-- A value, as far as it could be read. -/
inductive Reading where
  | null
  | bool (value : Bool)
  | number (value : Numeral)
  /-- A string with its closing quote; its escapes may be at fault. -/
  | text (value : Except Fault String)
  | list (items : Items)
  | object (entries : Entries)
  /-- No value: the fault for one who wants it, and for one who passes over it. -/
  | broken (wanted passed : Fault)

/-- The items of a list and how it ends. -/
inductive Items where
  | closed
  | fails (fault : Fault) (afterComma : Bool)
  | item (value : Reading) (more : Items)

/-- The fields of an object and how it ends. -/
inductive Entries where
  | closed
  | fails (wanted passed : Fault) (afterComma : Bool)
  /-- The first field does not start with a string. -/
  | stray (token : Reading)
  /-- A field ends behind its key. -/
  | dangling (key : Except Fault String) (fault : Fault)
  | entry (key : Except Fault String) (value : Reading) (more : Entries)

end

/-! ### From text -/

def isBlank (c : Char) : Bool := c = ' ' || c = '\n' || c = '\t' || c = '\r'

def skipBlanks (cs : List Char) : List Char := cs.dropWhile isBlank

/-- The rest of a text behind a word. -/
def expectWord : List Char → List Char → Except Fault (List Char)
  | [], cs => .ok cs
  | _ :: _, [] => .error .ended
  | w :: ws, c :: cs => if w = c then expectWord ws cs else .error .malformed

def Fault.ofNumeral : Numeral.Fault → Fault
  | .ended => .ended
  | .malformed => .malformed

/-- A reading, and what follows it unless the text breaks off inside. -/
abbrev Progress (β : Type) := β × Option (List Char)

def readWord (value : Reading) (word cs : List Char) : Progress Reading :=
  match expectWord word cs with
  | .ok rest => (value, some rest)
  | .error f => (.broken f f, none)

def readNumber (cs : List Char) : Progress Reading :=
  match Numeral.read cs with
  | .ok (n, rest) => (.number n, some rest)
  | .error f => (.broken (.ofNumeral f) (.ofNumeral f), none)

/-- A string behind its opening quote, for one who wants it. -/
def wantedText (cs : List Char) : Except Fault String :=
  (Text.read cs).map fun (ds, _) => String.ofList ds

def readText (cs : List Char) : Progress Reading :=
  match Text.skip cs with
  | .ok rest => (.text (wantedText cs), some rest)
  | .error passed =>
    match Text.read cs with
    | .error wanted => (.broken wanted passed, none)
    | .ok _ => (.broken passed passed, none)

mutual

/-- The value at the front of a text.  `fuel` is spent on every value, item and field. -/
def readValue : Nat → List Char → Progress Reading
  | 0, _ => (.broken .ended .ended, none)
  | fuel + 1, cs =>
    match skipBlanks cs with
    | [] => (.broken .ended .ended, none)
    | c :: cs =>
      if c = 'n' then readWord .null ['u', 'l', 'l'] cs
      else if c = 't' then readWord (.bool true) ['r', 'u', 'e'] cs
      else if c = 'f' then readWord (.bool false) ['a', 'l', 's', 'e'] cs
      else if c = '"' then readText cs
      else if c = '[' then
        let (items, rest) := readItems fuel true cs
        (.list items, rest)
      else if c = '\x7b' then
        let (entries, rest) := readEntries fuel true cs
        (.object entries, rest)
      else if c = '-' || c.isDigit then readNumber (c :: cs)
      else (.broken .malformed .malformed, none)

/-- The items of a list, from the first one or from behind one. -/
def readItems : Nat → Bool → List Char → Progress Items
  | 0, _, _ => (.fails .ended false, none)
  | fuel + 1, first, cs =>
    match skipBlanks cs with
    | [] => (.fails .ended false, none)
    | c :: cs =>
      if c = ']' then (.closed, some cs)
      else if first then readItem fuel (c :: cs)
      else if c = ',' then
        match skipBlanks cs with
        | [] => (.fails .ended true, none)
        | d :: cs =>
          if d = ']' then (.fails .malformed true, none) else readItem fuel (d :: cs)
      else (.fails .malformed false, none)

/-- One item and those behind it. -/
def readItem : Nat → List Char → Progress Items
  | 0, _ => (.fails .ended false, none)
  | fuel + 1, cs =>
    match readValue fuel cs with
    | (value, none) => (.item value .closed, none)
    | (value, some rest) =>
      let (more, rest) := readItems fuel false rest
      (.item value more, rest)

/-- The fields of an object, from the first one or from behind one. -/
def readEntries : Nat → Bool → List Char → Progress Entries
  | 0, _, _ => (.fails .ended .ended false, none)
  | fuel + 1, first, cs =>
    match skipBlanks cs with
    | [] => (.fails .ended .ended false, none)
    | c :: cs =>
      if c = '\x7d' then (.closed, some cs)
      else if first then
        if c = '"' then readEntry fuel true cs
        else
          let (token, _) := readValue fuel (c :: cs)
          (.stray token, none)
      else if c = ',' then
        match skipBlanks cs with
        | [] => (.fails .ended .ended true, none)
        | d :: cs =>
          if d = '"' then readEntry fuel false cs else (.fails .malformed .malformed true, none)
      else (.fails .malformed .malformed false, none)

/-- One field, from behind the opening quote of its key, and those behind it. -/
def readEntry : Nat → Bool → List Char → Progress Entries
  | 0, first, _ => (.fails .ended .ended (!first), none)
  | fuel + 1, first, cs =>
    match Text.skip cs with
    | .error passed =>
      match Text.read cs with
      | .error wanted => (.fails wanted passed (!first), none)
      | .ok _ => (.fails passed passed (!first), none)
    | .ok rest =>
      let key := wantedText cs
      match skipBlanks rest with
      | [] => (.dangling key .ended, none)
      | c :: rest =>
        if c = ':' then
          match readValue fuel rest with
          | (value, none) => (.entry key value .closed, none)
          | (value, some rest) =>
            let (more, rest) := readEntries fuel false rest
            (.entry key value more, rest)
        else (.dangling key .malformed, none)

end

/-- Enough for every text of a length. -/
def fuelFor (cs : List Char) : Nat := 3 * cs.length + 3

def Reading.ofChars (cs : List Char) : Progress Reading := readValue (fuelFor cs) cs

/-! ### Passing over -/

mutual

/-- Goes over a value that nobody looks at. -/
def Reading.skip : Reading → Except Fault Unit
  | .broken _ passed => .error passed
  | .list items => items.skip
  | .object entries => entries.skip
  | .null | .bool _ | .number _ | .text _ => .ok ()

def Items.skip : Items → Except Fault Unit
  | .closed => .ok ()
  | .fails f _ => .error f
  | .item value more => do value.skip; more.skip

def Entries.skip : Entries → Except Fault Unit
  | .closed => .ok ()
  | .fails _ passed _ => .error passed
  | .stray _ => .error .malformed
  | .dangling _ f => .error f
  | .entry _ value more => do value.skip; more.skip

end

/-! ### Whole values -/

/-- The fault for one who wants a value of another type. -/
def Reading.refuse : Reading → Fault
  | .broken wanted _ => wanted
  | .text (.error f) => f
  | .number n => if n.inRange then .mistyped else .malformed
  | _ => .mistyped

mutual

/-- The value of a reading with at most `depth` lists and objects inside one another. -/
def Reading.whole (depth : Nat) : Reading → Except Fault Json
  | .null => .ok .null
  | .bool b => .ok (.bool b)
  | .number n => if n.inRange then .ok (.number n) else .error .malformed
  | .text s => s.map .text
  | .list items =>
    match depth with
    | 0 => .error .malformed
    | depth + 1 => (items.whole depth).map .list
  | .object entries =>
    match depth with
    | 0 => .error .malformed
    | depth + 1 => (entries.whole depth).map .object
  | .broken wanted _ => .error wanted

def Items.whole (depth : Nat) : Items → Except Fault (List Json)
  | .closed => .ok []
  | .fails f _ => .error f
  | .item value more => do
    let v ← value.whole depth
    let vs ← more.whole depth
    return v :: vs

def Entries.whole (depth : Nat) : Entries → Except Fault (List (String × Json))
  | .closed => .ok []
  | .fails wanted _ _ => .error wanted
  | .stray _ => .error .malformed
  | .dangling key f => do
    let _ ← key
    throw f
  | .entry key value more => do
    let k ← key
    let v ← value.whole depth
    let fs ← more.whole depth
    return (k, v) :: fs

end

/-! ### From values -/

mutual

def Reading.ofJson : Json → Reading
  | .null => .null
  | .bool b => .bool b
  | .number n => .number n
  | .text s => .text (.ok s)
  | .list vs => .list (Items.ofList vs)
  | .object fs => .object (Entries.ofList fs)

def Items.ofList : List Json → Items
  | [] => .closed
  | v :: vs => .item (Reading.ofJson v) (Items.ofList vs)

def Entries.ofList : List (String × Json) → Entries
  | [] => .closed
  | (k, v) :: fs => .entry (.ok k) (Reading.ofJson v) (Entries.ofList fs)

end

end Json
end ScooterFleet
