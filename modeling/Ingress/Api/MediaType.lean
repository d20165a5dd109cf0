/-!
# Media types

A media type names the format of a body: a type, a subtype, and parameters behind semicolons.
A subtype may name the format that it is built upon behind a plus sign. Types are compared without
regard to case, and parameters have to be well formed but say nothing here.
-/

namespace Ingress.Api

/-- Whether a character may stand in a type, a subtype or a parameter without quotes. -/
def isTokenCharacter (c : Char) : Bool :=
  c.isAlphanum || "!#$%&'*+-.^_|~".contains c || c.toNat = 0x60

/-- Whether a character may stand between quotes. -/
def isQuotable (c : Char) : Bool :=
  ' ' ≤ c && c ≤ '~'

/-- How far parameters have been read. -/
inductive ParameterState where
  /-- Before a name. -/
  | start
  /-- In a name. -/
  | name
  /-- Before a value. -/
  | valueStart
  /-- In a value without quotes. -/
  | value
  /-- Behind an opening quote. -/
  | quoteStart
  /-- In a value with quotes. -/
  | quoted
  /-- Behind a closing quote. -/
  | closed
  deriving DecidableEq

namespace ParameterState

/-- Read one more character. -/
def step : ParameterState → Char → Option ParameterState
  | .start, c => if c = ' ' then some .start else if isTokenCharacter c then some .name else none
  | .name, c => if c = '=' then some .valueStart else if isTokenCharacter c then some .name else none
  | .valueStart, c =>
    if c = '"' then some .quoteStart else if isTokenCharacter c then some .value else none
  | .value, c => if c = ';' then some .start else if isTokenCharacter c then some .value else none
  | .quoteStart, c => if isQuotable c then some .quoted else none
  | .quoted, c => if c = '"' then some .closed else if isQuotable c then some .quoted else none
  | .closed, c => if c = ';' then some .start else if c = ' ' then some .closed else none

/-- Whether parameters may end here. -/
def isFinal : ParameterState → Bool
  | .start | .valueStart | .value | .closed => true
  | .name | .quoteStart | .quoted => false

end ParameterState

/-- Whether a text is a list of parameters, behind the first semicolon. -/
def areParameters (text : List Char) : Bool :=
  (text.foldlM ParameterState.step .start).any ParameterState.isFinal

/-- The name of a format. -/
structure MediaType where
  /-- The type. -/
  type : List Char
  /-- The subtype without what it is built upon. -/
  subtype : List Char
  /-- What the subtype is built upon. -/
  suffix : Option (List Char)
  deriving DecidableEq

namespace MediaType

/-- A subtype cut at its last plus sign, unless it begins with that. -/
def cutSuffix (subtype : List Char) : List Char × Option (List Char) :=
  let suffix := (subtype.reverse.takeWhile (· ≠ '+')).reverse
  let rest := subtype.take (subtype.length - suffix.length - 1)
  if rest.isEmpty then (subtype, none) else (rest, some suffix)

/-- The media type that a text names. -/
def ofText? (text : List Char) : Option MediaType :=
  let type := text.takeWhile isTokenCharacter
  match text.drop type.length with
  | '/' :: rest =>
    let subtype := rest.takeWhile isTokenCharacter
    let wellFormed := match rest.drop subtype.length with
      | [] => true
      | ';' :: parameters => !subtype.isEmpty && areParameters parameters
      | _ => false
    if type.isEmpty || !wellFormed then none
    else
      let (subtype, suffix) := cutSuffix subtype
      some { type, subtype, suffix }
  | _ => none

/-- Whether two names are equal but for case. -/
def sameName (a b : List Char) : Bool :=
  a.map Char.toLower = b.map Char.toLower

/-- Whether a format is JSON or is built upon it. -/
def isJson (m : MediaType) : Bool :=
  sameName m.type "application".toList &&
    (sameName m.subtype "json".toList || m.suffix.any (sameName "json".toList))

end MediaType

end Ingress.Api
