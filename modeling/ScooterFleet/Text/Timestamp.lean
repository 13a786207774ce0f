/-!
# Timestamps

An instant as a civil date, a time of day with nanoseconds, and an offset from universal time in
whole minutes.  The text form is `2020-01-02T03:04:05.25+02:00`; no fraction is written where it is
zero, and `Z` stands for no offset.

Read are also any single other character between date and time that is no digit, a small `z`, and
fractions of any length (cut to nine digits).  A leap second at the end of a month stands for the
last nanosecond before it.
-/

namespace ScooterFleet

structure Timestamp where
  year : Nat
  month : Nat
  day : Nat
  hour : Nat
  minute : Nat
  second : Nat
  nanosecond : Nat
  /-- Minutes ahead of universal time. -/
  offset : Int
  deriving DecidableEq, Repr

namespace Timestamp

def isLeapYear (year : Nat) : Bool :=
  year % 4 == 0 && (year % 100 != 0 || year % 400 == 0)

def daysInMonth (year month : Nat) : Nat :=
  match month with
  | 2 => if isLeapYear year then 29 else 28
  | 4 | 6 | 9 | 11 => 30
  | _ => 31

/-- Are all parts in their ranges? -/
def isSound (t : Timestamp) : Bool :=
  t.year ≤ 9999 && 1 ≤ t.month && t.month ≤ 12 && 1 ≤ t.day && t.day ≤ daysInMonth t.year t.month &&
    t.hour ≤ 23 && t.minute ≤ 59 && t.second ≤ 59 && t.nanosecond < 1000000000 &&
    t.offset.natAbs < 24 * 60

/-! ### Writing -/

/-- The last `k` decimal digits of `n`. -/
def padded : Nat → Nat → List Char
  | 0, _ => []
  | k + 1, n => padded k (n / 10) ++ [Nat.digitChar (n % 10)]

def dropZeros (cs : List Char) : List Char := (cs.reverse.dropWhile (· = '0')).reverse

def fractionChars (t : Timestamp) : List Char :=
  if t.nanosecond = 0 then [] else '.' :: dropZeros (padded 9 t.nanosecond)

def offsetChars (t : Timestamp) : List Char :=
  if t.offset = 0 then ['Z']
  else
    (if t.offset < 0 then '-' else '+') ::
      padded 2 (t.offset.natAbs / 60) ++ ':' :: padded 2 (t.offset.natAbs % 60)

def chars (t : Timestamp) : List Char :=
  padded 4 t.year ++ '-' :: padded 2 t.month ++ '-' :: padded 2 t.day ++ 'T' ::
    padded 2 t.hour ++ ':' :: padded 2 t.minute ++ ':' :: padded 2 t.second ++
    t.fractionChars ++ t.offsetChars

def text (t : Timestamp) : String := String.ofList t.chars

/-! ### Reading -/

/-- The value of exactly `k` digits at the front of a text. -/
def take? (k : Nat) (cs : List Char) : Option (Nat × List Char) :=
  let ds := cs.take k
  if ds.length = k ∧ ds.all Char.isDigit then
    some (ds.foldl (fun n c => 10 * n + (c.toNat - '0'.toNat)) 0, cs.drop k)
  else none

def expect? (c : Char) : List Char → Option (List Char)
  | [] => none
  | d :: cs => if c = d then some cs else none

/-- The character between date and time: any but a digit. -/
def separator? : List Char → Option (List Char)
  | [] => none
  | c :: cs => if c.isDigit || 128 ≤ c.toNat then none else some cs

/-- Nanoseconds behind a point: nine digits count, the rest are passed over. -/
def fraction? : List Char → Option (Nat × List Char)
  | '.' :: cs =>
    let ds := cs.takeWhile Char.isDigit
    if ds.isEmpty then none
    else
      let nine := (ds ++ List.replicate 9 '0').take 9
      some (nine.foldl (fun n c => 10 * n + (c.toNat - '0'.toNat)) 0, cs.dropWhile Char.isDigit)
  | cs => some (0, cs)

def offset? : List Char → Option (Int × List Char)
  | [] => none
  | c :: cs =>
    if c = 'Z' || c = 'z' then some (0, cs)
    else if c = '+' || c = '-' then do
      let (hours, cs) ← take? 2 cs
      let cs ← expect? ':' cs
      let (minutes, cs) ← take? 2 cs
      if hours ≤ 23 ∧ minutes ≤ 59 then
        let offset : Int := hours * 60 + minutes
        return (if c = '-' then -offset else offset, cs)
      else none
    else none

/-- Is the last second of this minute the last one of a month in universal time? -/
def endsMonth (t : Timestamp) : Bool :=
  let minute : Int := t.hour * 60 + t.minute - t.offset
  if minute = 1439 then t.day == daysInMonth t.year t.month
  else if minute = 1439 + 1440 then t.day + 1 == daysInMonth t.year t.month
  else if minute = 1439 - 1440 then t.day == 1
  else false

def ofChars? (cs : List Char) : Option Timestamp := do
  let (year, cs) ← take? 4 cs
  let cs ← expect? '-' cs
  let (month, cs) ← take? 2 cs
  let cs ← expect? '-' cs
  let (day, cs) ← take? 2 cs
  let cs ← separator? cs
  let (hour, cs) ← take? 2 cs
  let cs ← expect? ':' cs
  let (minute, cs) ← take? 2 cs
  let cs ← expect? ':' cs
  let (second, cs) ← take? 2 cs
  let (nanosecond, cs) ← fraction? cs
  let (offset, cs) ← offset? cs
  if !cs.isEmpty then none
  else
    let leap := second == 60
    let t : Timestamp :=
      { year, month, day, hour, minute,
        second := if leap then 59 else second,
        nanosecond := if leap then 999999999 else nanosecond,
        offset }
    if t.isSound && (!leap || t.endsMonth) then some t else none

def ofText? (s : String) : Option Timestamp := ofChars? s.toList

end Timestamp
end ScooterFleet
