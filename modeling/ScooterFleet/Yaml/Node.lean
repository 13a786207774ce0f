import ScooterFleet.Yaml.Token

/-!
# Documents

A settings file holds one document: a tree of scalars, lists and mappings.

* `Node.ofTokens?` reads the tree off the tokens of a file.  A value that is left out is an empty plain
  scalar, and a file without a document holds nothing but one.
* `Node.ofText?` reads a text.

The items of a list may stand in the column of the key whose value the list is.  Then no token marks the
start and the end of the list, and it ends where no dash follows.
-/

namespace ScooterFleet
namespace Yaml

inductive Node where
  | scalar (text : String) (plain : Bool)
  | list (items : List Node)
  | map (entries : List (Node × Node))

namespace Node

/-- What stands where a value is left out. -/
def empty : Node := .scalar "" true

/-- Where a node stands. -/
inductive Place where
  /-- Inside of brackets or braces. -/
  | flow
  | block
  /-- At a key of a block; the items of a list may follow without a block of their own. -/
  | entry
  deriving DecidableEq, Repr

/-- Is the key or the value in front of these tokens left out?  They are the tokens of a block. -/
def isLeftOut : List Token → Bool
  | .key :: _ | .value :: _ | .blockEnd :: _ => true
  | _ => false

/-- Is the item in front of these tokens left out? -/
def isItemLeftOut : List Token → Bool
  | .entry :: _ => true
  | ts => isLeftOut ts

/-- Is the value in front of these tokens left out, where `close` ends the collection? -/
def isFlowLeftOut (close : Token) (ts : List Token) : Bool :=
  ts.head? = some .comma || ts.head? = some close

def isFlowKeyLeftOut (close : Token) (ts : List Token) : Bool :=
  ts.head? = some .value || isFlowLeftOut close ts

/-- Goes over the comma in front of all items but the first. -/
def afterComma? (first : Bool) : List Token → Option (List Token)
  | .comma :: ts => if first then none else some ts
  | ts => if first then some ts else none

/-- A node and the tokens behind it, or what stands for one that is left out. -/
def orEmpty (leftOut : Bool) (ts : List Token) (node : Option (Node × List Token)) :
    Option (Node × List Token) :=
  if leftOut then some (empty, ts) else node

mutual

/-- The node at the front of some tokens, and what follows it. -/
def node? (place : Place) : Nat → List Token → Option (Node × List Token)
  | 0, _ => none
  | fuel + 1, ts =>
    match ts with
    | .scalar text plain :: ts => some (.scalar text plain, ts)
    | .flowList :: ts => (flowItems? true fuel ts).map fun (items, ts) => (.list items, ts)
    | .flowMap :: ts => (flowEntries? true fuel ts).map fun (entries, ts) => (.map entries, ts)
    | .blockList :: ts =>
      if place = .flow then none else (items? true fuel ts).map fun (items, ts) => (.list items, ts)
    | .blockMap :: ts =>
      if place = .flow then none
      else (entries? fuel ts).map fun (entries, ts) => (.map entries, ts)
    | .entry :: _ =>
      if place = .entry then (items? false fuel ts).map fun (items, ts) => (.list items, ts)
      else none
    | _ => none

/-- The items of a list, which has a block of its own or not. -/
def items? (own : Bool) : Nat → List Token → Option (List Node × List Token)
  | 0, _ => none
  | fuel + 1, ts =>
    match ts with
    | .entry :: ts => do
      let (item, ts) ← orEmpty (isItemLeftOut ts) ts (node? .block fuel ts)
      let (items, ts) ← items? own fuel ts
      return (item :: items, ts)
    | .blockEnd :: rest => some ([], if own then rest else ts)
    | _ => if own then none else some ([], ts)

/-- The entries of a mapping in a block. -/
def entries? : Nat → List Token → Option (List (Node × Node) × List Token)
  | 0, _ => none
  | fuel + 1, ts =>
    match ts with
    | .key :: ts => do
      let (key, ts) ← orEmpty (isLeftOut ts) ts (node? .entry fuel ts)
      let (value, ts) ← match ts with
        | .value :: ts => orEmpty (isLeftOut ts) ts (node? .entry fuel ts)
        | ts => some (empty, ts)
      let (entries, ts) ← entries? fuel ts
      return ((key, value) :: entries, ts)
    | .blockEnd :: ts => some ([], ts)
    | _ => none

/-- The value of an entry inside of brackets or braces. -/
def flowValue? (close : Token) : Nat → List Token → Option (Node × List Token)
  | 0, _ => none
  | fuel + 1, ts =>
    match ts with
    | .value :: ts => orEmpty (isFlowLeftOut close ts) ts (node? .flow fuel ts)
    | ts => some (empty, ts)

/-- The items between brackets.  A key makes an item a mapping with one entry; where the key is left
out, the token behind it is lost. -/
def flowItems? (first : Bool) : Nat → List Token → Option (List Node × List Token)
  | 0, _ => none
  | fuel + 1, ts =>
    match ts with
    | .flowListEnd :: ts => some ([], ts)
    | ts => do
      match ← afterComma? first ts with
      | .flowListEnd :: ts => return ([], ts)
      | .key :: ts =>
        let (key, ts) ←
          orEmpty (isFlowKeyLeftOut .flowListEnd ts) (ts.drop 1) (node? .flow fuel ts)
        let (value, ts) ← flowValue? .flowListEnd fuel ts
        let (items, ts) ← flowItems? false fuel ts
        return (.map [(key, value)] :: items, ts)
      | ts =>
        let (item, ts) ← node? .flow fuel ts
        let (items, ts) ← flowItems? false fuel ts
        return (item :: items, ts)

/-- The entries between braces; one that is no key has no value. -/
def flowEntries? (first : Bool) : Nat → List Token → Option (List (Node × Node) × List Token)
  | 0, _ => none
  | fuel + 1, ts =>
    match ts with
    | .flowMapEnd :: ts => some ([], ts)
    | ts => do
      match ← afterComma? first ts with
      | .flowMapEnd :: ts => return ([], ts)
      | .key :: ts =>
        let (key, ts) ← orEmpty (isFlowKeyLeftOut .flowMapEnd ts) ts (node? .flow fuel ts)
        let (value, ts) ← flowValue? .flowMapEnd fuel ts
        let (entries, ts) ← flowEntries? false fuel ts
        return ((key, value) :: entries, ts)
      | ts =>
        let (key, ts) ← node? .flow fuel ts
        let (entries, ts) ← flowEntries? false fuel ts
        return ((key, empty) :: entries, ts)

end

/-- The first document, and what follows it.  One that starts with a mark may be left out. -/
def document? (ts : List Token) : Option (Node × List Token) :=
  let fuel := 2 * ts.length + 2
  match ts with
  | [] | [.documentStart] => some (empty, [])
  | .documentStart :: .documentStart :: _ => none
  | .documentStart :: .documentEnd :: ts => some (empty, ts)
  | .documentStart :: ts => node? .block fuel ts
  | ts => node? .block fuel ts

/-- The one document of a file; marks of its end may follow. -/
def ofTokens? (ts : List Token) : Option Node := do
  let (node, rest) ← document? ts
  if rest.all (· = .documentEnd) then some node else none

def ofText? (s : String) : Option Node := (Token.ofText? s).bind ofTokens?

end Node
end Yaml
end ScooterFleet
