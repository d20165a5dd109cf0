import Ingress.Json.Skip

/-!
# Outlines of values

An outline says how a value of some type is written, and `Outline.reader` reads by it: a value
that does not follow its outline is refused where it departs from it, even if the text ends before
the value does. What is read is the value without the fields that nobody asks for, which are only
passed over.

A record is written as an object, where fields stand under their names, or as an array, where they
stand in the order of the outline (`Manner`).
-/

namespace Ingress.Json

/-- What it means that a field is absent from a record. -/
inductive Absence where
  /-- The record is unfit. -/
  | refused
  /-- The field has no value, but in an array it has to be there. -/
  | inObject
  /-- The field has a value of its own for that. -/
  | allowed
  deriving DecidableEq

/-- How a record is written, and which fields it may have besides those of its own. -/
inductive Manner where
  /-- As an object or an array. No field may be repeated, and other fields are passed over. -/
  | plain
  /-- As an object. Fields may be repeated, and other fields are passed over. -/
  | loose
  /-- As an object. No field may be repeated; other fields are documents and have to suit another
  record. -/
  | embedding (suits : List (String × Json) → Bool)

/-- How a value of some type is written. -/
inductive Outline where
  /-- As any document. -/
  | document
  /-- As a value that is no container and that is accepted. -/
  | scalar (accepts : Json → Bool)
  /-- As null, or as another outline says. -/
  | nullable (item : Outline)
  /-- As an array. -/
  | list (item : Outline)
  /-- As an object with any keys. -/
  | map (value : Outline)
  /-- As a record. -/
  | record (manner : Manner) (fields : List (String × Absence × Outline))
  /-- As a name, or as an object with null under the name. -/
  | choice (names : List String)
  /-- As a record of a name and of a content whose outline depends on the name. A content that
  comes before the name is a document and has to suit the name. -/
  | tagged (tag content : String) (cases : List (String × (Json → Bool) × Outline))

/-- A scalar; a container is unfit at its first character. -/
def readAtom (fuel : Nat) : Reader Json
  | '[' :: _ | '{' :: _ => .error .unfit
  | text => readScalar fuel text

/-- A scalar that is accepted. -/
def readAccepted (fuel : Nat) (accepts : Json → Bool) : Reader Json := fun text => do
  let (value, rest) ← readAtom fuel text
  if accepts value then return (value, rest) else throw .unfit

/-- The fault of a text in a place where something else is asked for: a scalar is unfit only if it
is well formed. -/
def mistaken (fuel : Nat) (text : List Char) : Fault :=
  match readAtom fuel text with
  | .ok _ => .unfit
  | .error fault => fault

/-- Null, or a value. -/
def readNullable (item : Reader Json) : Reader Json
  | 'n' :: rest => (readWord ['u', 'l', 'l'] rest).map fun (_, rest) => (.null, rest)
  | text => item text

/-- An array. -/
def readList (fuel : Nat) (item : Reader Json) : Reader Json
  | '[' :: rest => (readSeries ']' item fuel rest).map fun (items, rest) => (.array items, rest)
  | text => .error (mistaken fuel text)

/-- An object with any keys. -/
def readMap (fuel : Nat) (value : Reader Json) : Reader Json
  | '{' :: rest =>
    (readSeries '}' (readField (readString fuel) value) fuel rest).map
      fun (fields, rest) => (.object fields, rest)
  | text => .error (mistaken fuel text)

/-- Whether a value is one of some names. -/
def isNameOf (names : List String) : Json → Bool
  | .string name => names.contains name
  | _ => false

/-- A name, or an object with null under the name. -/
def readChoice (fuel : Nat) (names : List String) : Reader Json
  | [] => .error .truncated
  | '"' :: rest => readAccepted fuel (isNameOf names) ('"' :: rest)
  | '{' :: rest => do
    let (name, rest) ← readAccepted fuel (isNameOf names) (skipBlanks rest)
    match skipBlanks rest with
    | ':' :: rest => do
      let (_, rest) ← readAccepted fuel (· matches .null) (skipBlanks rest)
      match skipBlanks rest with
      | '}' :: rest => return (name, rest)
      | rest => throw (faultAt rest)
    | rest => throw (faultAt rest)
  | _ => .error .malformed

/-- A key that is not refused. -/
def readNewKey (fuel : Nat) (refused : String → Bool) : Reader String := fun text => do
  let (key, rest) ← readString fuel text
  if refused key then throw .unfit else return (key, rest)

/-- The entries of an object up to its closing brace, from a first key on, where the reader of an
entry is given what the entries before it hold. Every round takes a character, so the length of
the text is fuel enough. -/
def readEntries (entry : σ → Reader σ) : Nat → σ → Reader σ
  | 0, _, text => .error (faultAt text)
  | fuel + 1, state, text => do
    let (state, rest) ← entry state (skipBlanks text)
    match skipBlanks rest with
    | ',' :: rest => readEntries entry fuel state rest
    | '}' :: rest => return (state, rest)
    | rest => throw (faultAt rest)

/-- An object's entries behind its opening brace, of which there may be none. -/
def readObject (fuel : Nat) (entry : σ → Reader σ) (initial : σ) : Reader σ := fun text =>
  match skipBlanks text with
  | '}' :: rest => .ok (initial, rest)
  | rest => readEntries entry fuel initial rest

/-- The reader of a field, and what it means that the field is absent. -/
structure FieldReader where
  /-- The name. -/
  name : String
  /-- What absence means. -/
  absence : Absence
  /-- The reader of the value. -/
  read : Reader Json

namespace Manner

/-- Whether a field may be repeated. -/
def repeats : Manner → Bool
  | .loose => true
  | .plain | .embedding _ => false

/-- The value of a field that is not the record's own, if it is kept. -/
def readOther (fuel depth : Nat) : Manner → Reader (Option Json)
  | .plain | .loose => fun text => (skipValue fuel text).map fun (_, rest) => (none, rest)
  | .embedding _ => fun text =>
    (readValue fuel depth text).map fun (value, rest) => (some value, rest)

/-- Whether the fields that were found suit the record that is embedded. -/
def suitsOthers : Manner → List (String × Json) → Bool
  | .plain, _ | .loose, _ => true
  | .embedding suits, found => suits found

end Manner

/-- A field of a record that is written as an object, after those that were found before it. -/
def readNamedField (fuel depth : Nat) (manner : Manner) (fields : List FieldReader)
    (found : List (String × Json)) : Reader (List (String × Json)) := fun text => do
  let known := fun key => fields.find? (·.name = key)
  let refused := fun key =>
    !manner.repeats && (known key).isSome && found.any (·.1 = key)
  let (key, rest) ← readKey (readNewKey fuel refused) text
  match known key with
  | some field => do
    let (value, rest) ← field.read rest
    return (found ++ [(key, value)], rest)
  | none => do
    let (value, rest) ← manner.readOther fuel depth rest
    return (found ++ (value.map (key, ·)).toList, rest)

/-- A record that is written as an object, behind the opening brace. -/
def readNamed (fuel depth : Nat) (manner : Manner) (fields : List FieldReader) : Reader Json :=
  fun text => do
    let (found, rest) ← readObject fuel (readNamedField fuel depth manner fields) [] text
    let complete := fields.all fun field =>
      field.absence ≠ .refused || found.any (·.1 = field.name)
    if complete && manner.suitsOthers found then return (.object found, rest) else throw .unfit

/-- A record that is written as an array, behind the opening bracket or a value. -/
def readPlaced : List FieldReader → Bool → Reader (List Json)
  | [], _, text =>
    match skipBlanks text with
    | ']' :: rest => .ok ([], rest)
    | rest => .error (faultAt rest)
  | field :: fields, first, text =>
    match skipBlanks text with
    | [] => .error .truncated
    | c :: rest =>
      if c = ']' then
        if (field :: fields).all (·.absence = .allowed) then .ok ([], rest) else .error .unfit
      else if !first && c ≠ ',' then .error .malformed
      else do
        let (value, rest) ← field.read (if first then c :: rest else skipBlanks rest)
        let (values, rest) ← readPlaced fields false rest
        return (value :: values, rest)

/-- A record. -/
def readRecord (fuel depth : Nat) (manner : Manner) (fields : List FieldReader) : Reader Json
  | '{' :: rest => readNamed fuel depth manner fields rest
  | '[' :: rest =>
    match manner with
    | .plain =>
      (readPlaced fields true rest).map fun (values, rest) => (.array values, rest)
    | .loose | .embedding _ => .error .unfit
  | text => .error (mistaken fuel text)

/-- The reader of a content that goes with a name. -/
structure CaseReader where
  /-- The name. -/
  name : String
  /-- Whether a document is such a content. -/
  suits : Json → Bool
  /-- The reader of the content. -/
  read : Reader Json

/-- What was found of a name and its content. -/
structure TaggedParts where
  /-- What goes with the name. -/
  branch? : Option CaseReader := none
  /-- The content. -/
  content? : Option Json := none

/-- The name in front of a content, and the reader that goes with it. -/
def readCase (fuel : Nat) (cases : List CaseReader) : Reader CaseReader := fun text => do
  let (name, rest) ← readChoice fuel (cases.map (·.name)) text
  match cases.find? fun branch => isNameOf [branch.name] name with
  | some branch => return (branch, rest)
  | none => throw .unfit

/-- A field of a record of a name and a content. -/
def readTaggedField (fuel depth : Nat) (tag content : String) (cases : List CaseReader)
    (parts : TaggedParts) : Reader TaggedParts := fun text => do
  let refused := fun key =>
    (key = tag && parts.branch?.isSome) || (key = content && parts.content?.isSome)
  let (key, rest) ← readKey (readNewKey fuel refused) text
  if key = tag then
    let (branch, rest) ← readCase fuel cases rest
    if parts.content?.all branch.suits then return ({ parts with branch? := some branch }, rest)
    else throw .unfit
  else if key = content then
    let (value, rest) ← match parts.branch? with
      | some branch => branch.read rest
      | none => readValue fuel depth rest
    return ({ parts with content? := some value }, rest)
  else
    let (_, rest) ← skipValue fuel rest
    return (parts, rest)

/-- A record of a name and a content, by their names. -/
def taggedRecord (tag content : String) (branch : CaseReader) (value : Json) : Json :=
  .object [(tag, .string branch.name), (content, value)]

/-- A record of a name and a content. -/
def readTagged (fuel depth : Nat) (tag content : String) (cases : List CaseReader) : Reader Json
  | '{' :: rest => do
    let entry := readTaggedField fuel depth tag content cases
    let (parts, rest) ← readObject fuel entry {} rest
    match parts.branch?, parts.content? with
    | some branch, some value => return (taggedRecord tag content branch value, rest)
    | _, _ => throw .unfit
  | '[' :: rest =>
    match skipBlanks rest with
    | ']' :: _ => throw .unfit
    | rest => do
      let (branch, rest) ← readCase fuel cases rest
      match skipBlanks rest with
      | ',' :: rest => do
        let (value, rest) ← branch.read (skipBlanks rest)
        match skipBlanks rest with
        | ']' :: rest => return (taggedRecord tag content branch value, rest)
        | rest => throw (faultAt rest)
      | ']' :: _ => throw .unfit
      | rest => throw (faultAt rest)
  | text => .error (mistaken fuel text)

namespace Outline

mutual

/-- The reader of a value by its outline. Its documents nest at most the given number of
containers, and none of its containers has more items than the fuel says. -/
def reader (fuel depth : Nat) : Outline → Reader Json
  | .document => readValue fuel depth
  | .scalar accepts => readAccepted fuel accepts
  | .nullable item => readNullable (reader fuel depth item)
  | .list item => readList fuel (reader fuel (depth - 1) item)
  | .map value => readMap fuel (reader fuel (depth - 1) value)
  | .record manner fields =>
    readRecord fuel (depth - 1) manner (fieldReaders fuel (depth - 1) fields)
  | .choice names => readChoice fuel names
  | .tagged tag content cases =>
    readTagged fuel (depth - 1) tag content (caseReaders fuel (depth - 1) cases)

/-- The readers of a record's fields. -/
def fieldReaders (fuel depth : Nat) : List (String × Absence × Outline) → List FieldReader
  | [] => []
  | (name, absence, outline) :: rest =>
    { name, absence, read := reader fuel depth outline } :: fieldReaders fuel depth rest

/-- The readers of the contents that go with names. -/
def caseReaders (fuel depth : Nat) : List (String × (Json → Bool) × Outline) → List CaseReader
  | [] => []
  | (name, suits, outline) :: rest =>
    { name, suits, read := reader fuel depth outline } :: caseReaders fuel depth rest

end

/-- The value that a text holds, without the fields that nobody asks for. -/
def ofText (outline : Outline) (text : String) : Except Fault Json :=
  readAll (fun fuel => outline.reader fuel maxDepth) text

end Outline

end Ingress.Json
