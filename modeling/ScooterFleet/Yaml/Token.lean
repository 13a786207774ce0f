import ScooterFleet.Text.Uuid

/-!
# Tokens of settings files

Settings files are YAML documents of block and flow collections, comments, and plain and quoted scalars.
Anchors, tags, directives and block scalars are refused.

`Token.ofText?` splits a text into tokens.  Blocks are marked by tokens of their own: a mapping or a list
starts where a key or a dash stands further right than the block around it, and ends where something
stands further left.  Whether a scalar is a key is known only at the colon behind it, so the place of a
possible key is kept, and its token is put in front of the scalar afterwards.
-/

namespace ScooterFleet
namespace Yaml

inductive Token where
  | documentStart
  | documentEnd
  | blockMap
  | blockList
  | blockEnd
  /-- A dash in front of an item. -/
  | entry
  | key
  | value
  | flowMap
  | flowMapEnd
  | flowList
  | flowListEnd
  | comma
  | scalar (text : String) (plain : Bool)
  deriving DecidableEq, Repr

namespace Token

def isSpace (c : Char) : Bool := c = ' ' || c = '\t'

def isBreak (c : Char) : Bool :=
  c = '\n' || c = '\r' || c = '\x85' || c = '\u2028' || c = '\u2029'

/-- A blank, a line break or the end stands at the front. -/
def atBlank : List Char → Bool
  | [] => true
  | c :: _ => isSpace c || isBreak c

/-- The characters that may stand in a file at all. -/
def isAllowed (c : Char) : Bool :=
  let n := c.toNat
  n == 9 || n == 10 || n == 13 || (0x20 ≤ n && n ≤ 0x7e) || n == 0x85 ||
    (0xa0 ≤ n && n ≤ 0xfffd && n ≠ 0xfeff) || 0x10000 ≤ n

/-! ### Places -/

/-- A place in a text, and what follows it. -/
structure Cursor where
  rest : List Char
  index : Nat
  line : Nat
  column : Nat
  deriving Repr

namespace Cursor

/-- Goes over characters that break no line. -/
def skip (c : Cursor) (n : Nat) : Cursor :=
  { c with rest := c.rest.drop n, index := c.index + n, column := c.column + n }

/-- Goes over a line break. -/
def skipBreak (c : Cursor) : Cursor :=
  match c.rest with
  | '\r' :: '\n' :: cs => ⟨cs, c.index + 2, c.line + 1, 0⟩
  | _ :: cs => ⟨cs, c.index + 1, c.line + 1, 0⟩
  | [] => c

/-- Does a line with three dashes or three points start here? -/
def atMarker (c : Cursor) (mark : Char) : Bool :=
  c.column = 0 &&
    match c.rest with
    | x :: y :: z :: cs => x = mark && y = mark && z = mark && atBlank cs
    | _ => false

def atDocument (c : Cursor) : Bool := c.atMarker '-' || c.atMarker '.'

end Cursor

/-! ### Scalars -/

/-- The blanks between two words of a scalar.  Line breaks are folded: one becomes a space, of more the
first one is left out. -/
structure Gap where
  /-- Blanks on one line, the last one first. -/
  spaces : List Char
  /-- The first line break. -/
  first : Option Char
  /-- The other line breaks, the last one first. -/
  others : List Char

namespace Gap

def empty : Gap := ⟨[], none, []⟩

/-- The line break at the front of a text, in the form in which it is kept. -/
def breakOf : List Char → Char
  | c :: _ => if c = '\u2028' || c = '\u2029' then c else '\n'
  | [] => '\n'

/-- What stands for the gap, the last character first. -/
def folded (g : Gap) : List Char :=
  match g.first with
  | none => g.spaces
  | some '\n' => if g.others.isEmpty then [' '] else g.others
  | some c => g.others ++ [c]

def space (g : Gap) (c : Char) : Gap :=
  if g.first.isSome then g else { g with spaces := c :: g.spaces }

def line (g : Gap) (c : Char) : Gap :=
  if g.first.isSome then { g with others := c :: g.others } else ⟨[], some c, []⟩

/-- Goes over blanks and line breaks.  A tab may not stand left of `indent` on a line of its own. -/
def scan? (indent : Int) : Nat → Gap → Cursor → Option (Gap × Cursor)
  | 0, g, c => some (g, c)
  | fuel + 1, g, c =>
    match c.rest with
    | [] => some (g, c)
    | x :: _ =>
      if isBreak x then scan? indent fuel (g.line (breakOf c.rest)) c.skipBreak
      else if isSpace x then
        if x = '\t' && g.first.isSome && decide ((c.column : Int) < indent) then none
        else scan? indent fuel (g.space x) (c.skip 1)
      else some (g, c)

end Gap

def isFlowMark (c : Char) : Bool := ",[]\x7b\x7d".toList.contains c

/-- Does a plain scalar end in front of these characters? -/
def endsPlain (flow : Bool) : List Char → Bool
  | ':' :: cs => atBlank cs
  | c :: _ => flow && isFlowMark c
  | [] => true

/-- A colon that touches a mark of the collection around it. -/
def isStrayColon (flow : Bool) : List Char → Bool
  | ':' :: c :: _ => flow && (isFlowMark c || c = '?')
  | _ => false

/-- One word of a plain scalar. -/
def plainWord? (flow : Bool) : Nat → List Char → Gap → Cursor → Option (List Char × Gap × Cursor)
  | 0, acc, g, c => some (acc, g, c)
  | fuel + 1, acc, g, c =>
    match c.rest with
    | [] => some (acc, g, c)
    | x :: _ =>
      if isSpace x || isBreak x then some (acc, g, c)
      else if isStrayColon flow c.rest then none
      else if endsPlain flow c.rest then some (acc, g, c)
      else plainWord? flow fuel (x :: g.folded ++ acc) .empty (c.skip 1)

/-- The words of a plain scalar, the last character first, and whether lines were left behind it. -/
def plain? (flow : Bool) (indent : Int) :
    Nat → List Char → Gap → Cursor → Option (List Char × Bool × Cursor)
  | 0, _, _, _ => none
  | fuel + 1, acc, g, c =>
    if c.atDocument || c.rest.head? = some '#' then some (acc, g.first.isSome, c)
    else do
      let (acc, g, c) ← plainWord? flow (c.rest.length + 1) acc g c
      if c.rest.isEmpty || !atBlank c.rest then return (acc, g.first.isSome, c)
      let (g, c) ← g.scan? indent (c.rest.length + 1) c
      if !flow && decide ((c.column : Int) < indent) then return (acc, g.first.isSome, c)
      plain? flow indent fuel acc g c

/-- The value of `n` hexadecimal digits, as a character. -/
def hexChar? (n : Nat) (cs : List Char) : Option Char := do
  let ds := cs.take n
  if ds.length < n then none
  else
    let v ← Uuid.hexFrom? 0 ds
    if v < 0xd800 || (0xdfff < v && v ≤ 0x10ffff) then some (Char.ofNat v) else none

/-- The character that an escape stands for, and the number of characters behind the backslash. -/
def escape? : List Char → Option (Char × Nat)
  | '0' :: _ => some ('\x00', 1)
  | 'a' :: _ => some ('\x07', 1)
  | 'b' :: _ => some ('\x08', 1)
  | 't' :: _ => some ('\t', 1)
  | '\t' :: _ => some ('\t', 1)
  | 'n' :: _ => some ('\n', 1)
  | 'v' :: _ => some ('\x0b', 1)
  | 'f' :: _ => some ('\x0c', 1)
  | 'r' :: _ => some ('\r', 1)
  | 'e' :: _ => some ('\x1b', 1)
  | ' ' :: _ => some (' ', 1)
  | '"' :: _ => some ('"', 1)
  | '/' :: _ => some ('/', 1)
  | '\\' :: _ => some ('\\', 1)
  | 'N' :: _ => some ('\x85', 1)
  | '_' :: _ => some ('\xa0', 1)
  | 'L' :: _ => some ('\u2028', 1)
  | 'P' :: _ => some ('\u2029', 1)
  | 'x' :: cs => (hexChar? 2 cs).map fun c => (c, 3)
  | 'u' :: cs => (hexChar? 4 cs).map fun c => (c, 5)
  | 'U' :: cs => (hexChar? 8 cs).map fun c => (c, 9)
  | _ => none

/-- One word of a quoted scalar; a backslash in front of a line break joins the lines. -/
def quotedWord? (quote : Char) : Nat → List Char → Cursor → Option (List Char × Gap × Cursor)
  | 0, acc, c => some (acc, .empty, c)
  | fuel + 1, acc, c =>
    match c.rest with
    | [] => some (acc, .empty, c)
    | x :: cs =>
      if isSpace x || isBreak x then some (acc, .empty, c)
      else if x = quote then
        if quote = '\'' && cs.head? = some '\'' then quotedWord? quote fuel ('\'' :: acc) (c.skip 2)
        else some (acc, .empty, c)
      else if x = '\\' && quote = '"' then
        match cs with
        | y :: _ =>
          if isBreak y then some (acc, ⟨[], some '\x00', []⟩, (c.skip 1).skipBreak)
          else
            match escape? cs with
            | some (e, n) => quotedWord? quote fuel (e :: acc) (c.skip (n + 1))
            | none => none
        | [] => none
      else quotedWord? quote fuel (x :: acc) (c.skip 1)

/-- What stands for a gap in a quoted scalar. -/
def quotedGap (g : Gap) : List Char :=
  match g.first with
  | some '\x00' => g.others
  | _ => g.folded

/-- A quoted scalar up to its closing quote, the last character first. -/
def quoted? (quote : Char) : Nat → List Char → Cursor → Option (List Char × Cursor)
  | 0, _, _ => none
  | fuel + 1, acc, c =>
    if c.atDocument then none
    else do
      let (acc, g, c) ← quotedWord? quote (c.rest.length + 1) acc c
      match c.rest with
      | [] => none
      | x :: _ =>
        if x = quote && g.first.isNone then return (acc, c.skip 1)
        let (g, c) ← g.scan? 0 (c.rest.length + 1) c
        quoted? quote fuel (quotedGap g ++ acc) c

/-! ### The tokens of a text -/

/-- The place of a scalar or a collection that may turn out to be a key. -/
structure PossibleKey where
  /-- It has to be a key, since nothing else can stand there. -/
  required : Bool
  /-- The number of tokens in front of it. -/
  number : Nat
  index : Nat
  line : Nat
  column : Nat

structure Scanner where
  cursor : Cursor
  /-- The last one first. -/
  tokens : List Token
  /-- The column of the innermost block; -1 outside of all. -/
  indent : Int
  /-- The columns of the blocks around it. -/
  outer : List Int
  /-- May a key start here? -/
  keyAllowed : Bool
  /-- The possible key of the innermost flow collection, or of the block outside of them. -/
  key : Option PossibleKey
  /-- The possible keys of what is around it. -/
  keys : List (Option PossibleKey)

namespace Scanner

def start (cs : List Char) : Scanner := ⟨⟨cs, 0, 0, 0⟩, [], -1, [], true, none, []⟩

def inFlow (s : Scanner) : Bool := !s.keys.isEmpty

def push (s : Scanner) (t : Token) : Scanner := { s with tokens := t :: s.tokens }

/-- Puts tokens in front of all but the first `number` ones. -/
def insert (s : Scanner) (number : Nat) (ts : List Token) : Scanner :=
  let later := s.tokens.length - number
  { s with tokens := s.tokens.take later ++ ts.reverse ++ s.tokens.drop later }

def skip (s : Scanner) (n : Nat) : Scanner := { s with cursor := s.cursor.skip n }

/-- The longest key, in characters. -/
def longestKey : Nat := 1024

def isStale (c : Cursor) (k : PossibleKey) : Bool := k.line < c.line || k.index + longestKey < c.index

/-- A key has to stand on the line of its colon. -/
def refresh? (c : Cursor) : Option PossibleKey → Option (Option PossibleKey)
  | none => some none
  | some k => if isStale c k then (if k.required then none else some none) else some (some k)

def dropStale? (s : Scanner) : Option Scanner := do
  let key ← refresh? s.cursor s.key
  let keys ← s.keys.mapM (refresh? s.cursor)
  return { s with key, keys }

def forgetKey? (s : Scanner) : Option Scanner :=
  match s.key with
  | some k => if k.required then none else some { s with key := none }
  | none => some s

/-- Notes that a key may start here. -/
def noteKey? (s : Scanner) : Option Scanner :=
  if s.keyAllowed then do
    let s ← s.forgetKey?
    let c := s.cursor
    let required := !s.inFlow && s.indent == (c.column : Int)
    return { s with key := some ⟨required, s.tokens.length, c.index, c.line, c.column⟩ }
  else some s

/-- Opens a block at a column, unless one is open there; its token goes behind the first `number`. -/
def openBlock (s : Scanner) (column number : Nat) (t : Token) : Scanner :=
  if s.inFlow then s
  else if s.indent < (column : Int) then
    { s with indent := column, outer := s.indent :: s.outer }.insert number [t]
  else s

/-- Ends the blocks that are further right than a column. -/
def closeBlocks (column : Int) : List Int → Scanner → Scanner
  | [], s => s
  | i :: is, s =>
    if column < s.indent then
      closeBlocks column is ({ s with indent := i, outer := is }.push .blockEnd)
    else s

def unroll (s : Scanner) (column : Int) : Scanner :=
  if s.inFlow then s else closeBlocks column s.outer s

/-- Goes over blanks, comments and empty lines. -/
def skipBlanks (s : Scanner) : Nat → Scanner
  | 0 => s
  | fuel + 1 =>
    match s.cursor.rest with
    | ' ' :: _ => (s.skip 1).skipBlanks fuel
    | '\t' :: _ => if s.inFlow || !s.keyAllowed then (s.skip 1).skipBlanks fuel else s
    | '#' :: cs => (s.skip (1 + (cs.takeWhile fun c => !isBreak c).length)).skipBlanks fuel
    | c :: _ =>
      if isBreak c then
        { s with cursor := s.cursor.skipBreak, keyAllowed := s.keyAllowed || !s.inFlow }.skipBlanks
          fuel
      else s
    | [] => s

def marker? (s : Scanner) (t : Token) : Option Scanner := do
  let s ← (s.unroll (-1)).forgetKey?
  return { s.push t with keyAllowed := false }.skip 3

def openFlow? (s : Scanner) (t : Token) : Option Scanner := do
  let s ← s.noteKey?
  return { s.push t with key := none, keys := s.key :: s.keys, keyAllowed := true }.skip 1

def closeFlow? (s : Scanner) (t : Token) : Option Scanner := do
  let s ← s.forgetKey?
  let s := match s.keys with
    | k :: ks => { s with key := k, keys := ks }
    | [] => s
  return { s.push t with keyAllowed := false }.skip 1

def comma? (s : Scanner) : Option Scanner := do
  let s ← s.forgetKey?
  return { s.push .comma with keyAllowed := true }.skip 1

def entry? (s : Scanner) : Option Scanner := do
  if !s.inFlow && !s.keyAllowed then none
  else
    let s := s.openBlock s.cursor.column s.tokens.length .blockList
    let s ← s.forgetKey?
    return { s.push .entry with keyAllowed := true }.skip 1

/-- A question mark in front of a key. -/
def explicitKey? (s : Scanner) : Option Scanner := do
  if !s.inFlow && !s.keyAllowed then none
  else
    let s := s.openBlock s.cursor.column s.tokens.length .blockMap
    let s ← s.forgetKey?
    return { s.push .key with keyAllowed := !s.inFlow }.skip 1

def value? (s : Scanner) : Option Scanner :=
  match s.key with
  | some k =>
    let s := (s.insert k.number [.key]).openBlock k.column k.number .blockMap
    some ({ s.push .value with key := none, keyAllowed := false }.skip 1)
  | none =>
    if !s.inFlow && !s.keyAllowed then none
    else
      let s := s.openBlock s.cursor.column s.tokens.length .blockMap
      some ({ s.push .value with keyAllowed := !s.inFlow }.skip 1)

def quoted? (s : Scanner) (quote : Char) : Option Scanner := do
  let s ← s.noteKey?
  let c := s.cursor.skip 1
  let (text, cursor) ← Token.quoted? quote (c.rest.length + 1) [] c
  return { s.push (.scalar (String.ofList text.reverse) false) with cursor, keyAllowed := false }

def plain? (s : Scanner) : Option Scanner := do
  let s ← s.noteKey?
  let (text, lines, cursor) ←
    Token.plain? s.inFlow (s.indent + 1) (s.cursor.rest.length + 1) [] .empty s.cursor
  return { s.push (.scalar (String.ofList text.reverse) true) with cursor, keyAllowed := lines }

/-- Characters that start no plain scalar. -/
def isIndicator (c : Char) : Bool := "-?:,[]\x7b\x7d#&*!|>'\"%@\x60".toList.contains c

def startsPlain (s : Scanner) : List Char → Bool
  | '-' :: cs => !(cs.head?.map isSpace).getD false
  | '?' :: cs => !s.inFlow && !atBlank cs
  | ':' :: cs => !s.inFlow && !atBlank cs
  | c :: cs => !isIndicator c && !atBlank (c :: cs)
  | [] => false

/-- The next token, which starts here. -/
def token? (s : Scanner) : Option Scanner :=
  if s.cursor.atMarker '-' then s.marker? .documentStart
  else if s.cursor.atMarker '.' then s.marker? .documentEnd
  else match s.cursor.rest with
    | '[' :: _ => s.openFlow? .flowList
    | '\x7b' :: _ => s.openFlow? .flowMap
    | ']' :: _ => s.closeFlow? .flowListEnd
    | '\x7d' :: _ => s.closeFlow? .flowMapEnd
    | ',' :: _ => s.comma?
    | '\'' :: _ => s.quoted? '\''
    | '"' :: _ => s.quoted? '"'
    | c :: cs =>
      if c = '-' && atBlank cs then s.entry?
      else if c = '?' && (s.inFlow || atBlank cs) then s.explicitKey?
      else if c = ':' && (s.inFlow || atBlank cs) then s.value?
      else if s.startsPlain (c :: cs) then s.plain?
      else none
    | [] => none

/-- All tokens up to the end. -/
def finish? : Nat → Scanner → Option (List Token)
  | 0, _ => none
  | fuel + 1, s => do
    let s ← (s.skipBlanks (s.cursor.rest.length + 1)).dropStale?
    let s := s.unroll s.cursor.column
    if s.cursor.rest.isEmpty then
      let s ← (s.unroll (-1)).forgetKey?
      return s.tokens.reverse
    else finish? fuel (← s.token?)

end Scanner

/-- The tokens of a text; none if it has none. -/
def ofText? (s : String) : Option (List Token) :=
  let cs := match s.toList with
    | '\ufeff' :: cs => cs
    | cs => cs
  if cs.all isAllowed then (Scanner.start cs).finish? (cs.length + 1) else none

end Token
end Yaml
end ScooterFleet
