/-!
# Media types

The type of a request's body, such as `application/json; charset=utf-8`: a type, a subtype with an
optional suffix behind its last `+`, and parameters.  Letter case does not count.
-/

namespace ScooterFleet
namespace Http

structure MediaType where
  type : String
  /-- Up to the suffix. -/
  subtype : String
  suffix : Option String
  deriving DecidableEq, Repr

namespace MediaType

/-- The characters of names. -/
def isToken (c : Char) : Bool := c.isAlphanum || "!#$%&'*+-.^_`|~".toList.contains c

def isQuotable (c : Char) : Bool := 31 < c.toNat && c.toNat ≠ 127

/-- What follows the value of a parameter. -/
def afterValue? : List Char → Option (List Char)
  | [] => some []
  | ';' :: cs => some cs
  | _ => none

/-- What follows a value behind its opening quote.  A quote that comes first belongs to the value. -/
def afterQuoted? : List Char → Option (List Char)
  | [] => none
  | c :: cs =>
    if isQuotable c then
      match cs.dropWhile fun c => c ≠ '"' && isQuotable c with
      | '"' :: cs => afterValue? (cs.dropWhile (· = ' '))
      | _ => none
    else none

/-- One parameter, and what follows it.  A value without quotes is empty at the end alone. -/
def parameter? (cs : List Char) : Option (List Char) :=
  if (cs.takeWhile isToken).isEmpty then none
  else
    match cs.dropWhile isToken with
    | '=' :: '"' :: cs => afterQuoted? cs
    | '=' :: ';' :: _ => none
    | '=' :: cs => afterValue? (cs.dropWhile isToken)
    | _ => none

/-- Are these parameters?  Blanks may stand in front of each. -/
def areParameters : Nat → List Char → Bool
  | 0, cs => cs.isEmpty
  | fuel + 1, cs =>
    match cs.dropWhile (· = ' ') with
    | [] => true
    | cs =>
      match parameter? cs with
      | some cs => areParameters fuel cs
      | none => false

/-- The subtype, and the suffix behind its last `+` that does not stand in front. -/
def splitSuffix (cs : List Char) : List Char × Option (List Char) :=
  let back := cs.reverse
  match back.dropWhile (· ≠ '+') with
  | '+' :: front =>
    if front.isEmpty then (cs, none)
    else (front.reverse, some (back.takeWhile (· ≠ '+')).reverse)
  | _ => (cs, none)

def lower (cs : List Char) : String := String.ofList (cs.map Char.toLower)

def ofText? (s : String) : Option MediaType :=
  let type := s.toList.takeWhile isToken
  match s.toList.dropWhile isToken with
  | '/' :: cs =>
    let sub := cs.takeWhile isToken
    let (subtype, suffix) := splitSuffix sub
    let sound := match cs.dropWhile isToken with
      | [] => true
      | ';' :: cs => !sub.isEmpty && areParameters cs.length cs
      | _ => false
    if type.isEmpty || !sound then none
    else some ⟨lower type, lower subtype, suffix.map lower⟩
  | _ => none

def isJson (m : MediaType) : Bool :=
  m.type = "application" && (m.subtype = "json" || m.suffix = some "json")

end MediaType
end Http
end ScooterFleet
