import ScooterFleet.Text.Uuid

/-!
# Strings of JSON texts

A string is written with escapes for quotes, backslashes and controls only.  It is read in two ways:
`read` takes its characters and refuses unpaired surrogates, `skip` only looks for its end and lets
them pass.  Both refuse bare controls and unknown escapes.

Both start behind the opening quote and hand back what follows the closing one.
-/

namespace ScooterFleet
namespace Json

/-- Why a text could not be taken in. -/
inductive Fault where
  /-- The text ends too soon. -/
  | ended
  /-- The text is no JSON. -/
  | malformed
  /-- The text is JSON, but no value of the type that is wanted. -/
  | mistyped
  deriving DecidableEq, Repr

namespace Text

/-! ### Writing -/

def escape (c : Char) : List Char :=
  if c = '"' then ['\\', '"']
  else if c = '\\' then ['\\', '\\']
  else if c = '\x08' then ['\\', 'b']
  else if c = '\x0c' then ['\\', 'f']
  else if c = '\n' then ['\\', 'n']
  else if c = '\r' then ['\\', 'r']
  else if c = '\t' then ['\\', 't']
  else if c.toNat < 32 then '\\' :: 'u' :: Uuid.hexDigits 4 c.toNat
  else [c]

/-- A string with its quotes. -/
def chars (cs : List Char) : List Char := '"' :: cs.flatMap escape ++ ['"']

/-! ### Escapes -/

/-- What a letter behind a backslash stands for. -/
def simpleEscape? (c : Char) : Option Char :=
  if c = '"' then some '"'
  else if c = '\\' then some '\\'
  else if c = '/' then some '/'
  else if c = 'b' then some '\x08'
  else if c = 'f' then some '\x0c'
  else if c = 'n' then some '\n'
  else if c = 'r' then some '\r'
  else if c = 't' then some '\t'
  else none

/-- Does a text hold at least `k` bytes? -/
def hasBytes : Nat → List Char → Bool
  | 0, _ => true
  | _ + 1, [] => false
  | k + 1, c :: cs => hasBytes (k + 1 - c.utf8Size) cs

/-- Four hexadecimal digits.  Where fewer than four bytes are left the text has ended. -/
def hexUnit (cs : List Char) : Except Fault (Nat × List Char) :=
  if !hasBytes 4 cs then .error .ended
  else if (cs.take 4).length < 4 then .error .malformed
  else
    match Uuid.hexFrom? 0 (cs.take 4) with
    | some n => .ok (n, cs.drop 4)
    | none => .error .malformed

def isHighSurrogate (n : Nat) : Bool := 0xD800 ≤ n && n ≤ 0xDBFF
def isLowSurrogate (n : Nat) : Bool := 0xDC00 ≤ n && n ≤ 0xDFFF

/-- The character at `cs`, or what is missing. -/
def expect (c : Char) : List Char → Except Fault (List Char)
  | [] => .error .ended
  | d :: cs => if c = d then .ok cs else .error .malformed

/-- The character of a `\u` escape, whose unit stands at `cs`; a high surrogate takes the escape
behind it as its second half. -/
def unicodeEscape (cs : List Char) : Except Fault (Char × List Char) := do
  let (high, cs) ← hexUnit cs
  if isLowSurrogate high then throw .malformed
  if isHighSurrogate high then
    let cs ← expect '\\' cs
    let cs ← expect 'u' cs
    let (low, cs) ← hexUnit cs
    if isLowSurrogate low then
      return (Char.ofNat (0x10000 + (high - 0xD800) * 0x400 + (low - 0xDC00)), cs)
    else throw .malformed
  return (Char.ofNat high, cs)

/-- The character of an escape behind its backslash. -/
def escaped (cs : List Char) : Except Fault (Char × List Char) :=
  match cs with
  | [] => .error .ended
  | c :: cs =>
    match simpleEscape? c with
    | some d => .ok (d, cs)
    | none => if c = 'u' then unicodeEscape cs else .error .malformed

/-- What follows an escape, whatever its unit. -/
def skipEscape (cs : List Char) : Except Fault (List Char) :=
  match cs with
  | [] => .error .ended
  | c :: cs =>
    if (simpleEscape? c).isSome then .ok cs
    else if c = 'u' then (hexUnit cs).map (·.2)
    else .error .malformed

/-! ### Reading -/

/-- The characters up to the closing quote.  Each turn takes at least one character, so `fuel` is the
length of the text. -/
def readFuel : Nat → List Char → Except Fault (List Char × List Char)
  | 0, _ => .error .ended
  | _ + 1, [] => .error .ended
  | fuel + 1, c :: cs =>
    if c = '"' then .ok ([], cs)
    else if c = '\\' then
      match escaped cs with
      | .error f => .error f
      | .ok (d, cs) => (readFuel fuel cs).map fun (ds, rest) => (d :: ds, rest)
    else if c.toNat < 32 then .error .malformed
    else (readFuel fuel cs).map fun (ds, rest) => (c :: ds, rest)

def read (cs : List Char) : Except Fault (List Char × List Char) := readFuel (cs.length + 1) cs

/-- What follows the closing quote. -/
def skipFuel : Nat → List Char → Except Fault (List Char)
  | 0, _ => .error .ended
  | _ + 1, [] => .error .ended
  | fuel + 1, c :: cs =>
    if c = '"' then .ok cs
    else if c = '\\' then
      match skipEscape cs with
      | .error f => .error f
      | .ok cs => skipFuel fuel cs
    else if c.toNat < 32 then .error .malformed
    else skipFuel fuel cs

def skip (cs : List Char) : Except Fault (List Char) := skipFuel (cs.length + 1) cs

end Text
end Json
end ScooterFleet
