import Ingress.Json.Outline

/-!
# Reading typed values

A shape says how a value of some type is written and what is made of what is read. It reads a
value out of a document (`Shape.ofJson`) or straight out of a text (`Shape.ofText`). `ShapeError`
says why a document does not have a shape.

The shape of a record is put together from its fields (`Fields`). A field is *required*, has a
*default* for when it is absent, or is *optional*: then null means the same as absence.
-/

namespace Ingress.Json

/-- Why a document does not have the expected shape. -/
inductive ShapeError where
  /-- A required field is absent. -/
  | missingField (name : String)
  /-- A value of another JSON type stands in the place of the expected one. -/
  | invalidType
  /-- A value of the expected type is outside the allowed range. -/
  | invalidValue
  /-- An array has too few or too many items for what it stands for. -/
  | invalidLength (actual : Nat) (expected : String)
  /-- A known key occurs twice. -/
  | duplicateField (name : String)
  /-- A text is not written in the form that its place asks for. -/
  | malformed (reason : String)
  deriving DecidableEq, Repr

/-- The wording of an error. -/
def ShapeError.message : ShapeError → String
  | .missingField name => "missing field `" ++ name ++ "`"
  | .invalidType => "invalid type"
  | .invalidValue => "invalid value"
  | .invalidLength actual expected =>
    "invalid length " ++ toString actual ++ ", expected " ++ expected
  | .duplicateField name => "duplicate field `" ++ name ++ "`"
  | .malformed reason => reason

/-- How a value of some type is written, and what is made of it. -/
structure Shape (α : Type) where
  /-- How it is written. -/
  outline : Outline
  /-- What is made of a document. -/
  ofJson : Json → Except ShapeError α

namespace Shape

/-- The value that a text holds. -/
def ofText (shape : Shape α) (text : String) : Except Fault α := do
  let document ← shape.outline.ofText text
  (shape.ofJson document).mapError fun _ => .unfit

/-- Whether a document has a shape. -/
def fits (shape : Shape α) (document : Json) : Bool :=
  (shape.ofJson document).isOk

/-- The shape of values that are made of others. -/
def map (f : α → β) (shape : Shape α) : Shape β where
  outline := shape.outline
  ofJson document := (shape.ofJson document).map f

/-- A value that is no container, as it is read. -/
def scalar (read : Json → Except ShapeError α) : Shape α where
  outline := .scalar fun document => (read document).isOk
  ofJson := read

/-- Any document. -/
def document : Shape Json where
  outline := .document
  ofJson := .ok

/-- A text. -/
def text : Shape String := scalar fun
  | .string value => .ok value
  | _ => .error .invalidType

/-- A text, as it is read. -/
def textAs (read : String → Except ShapeError α) : Shape α := scalar fun
  | .string value => read value
  | _ => .error .invalidType

/-- A truth value. -/
def bool : Shape Bool := scalar fun
  | .bool value => .ok value
  | _ => .error .invalidType

/-- A whole number between two bounds, both included. -/
def integerIn (least greatest : Int) : Shape Int := scalar fun
  | .integer value =>
    if least ≤ value ∧ value ≤ greatest then .ok value else .error .invalidValue
  | _ => .error .invalidType

/-- A signed number of 32 bits. -/
def int32 : Shape Int32 :=
  (integerIn (-2147483648) 2147483647).map Int32.ofInt

/-- A signed number of 64 bits. -/
def int64 : Shape Int64 :=
  (integerIn (-9223372036854775808) 9223372036854775807).map Int64.ofInt

/-- An unsigned number of 16 bits. -/
def uint16 : Shape UInt16 :=
  (integerIn 0 65535).map fun n => UInt16.ofNat n.toNat

/-- Null, or a value. -/
def nullable (item : Shape α) : Shape (Option α) where
  outline := .nullable item.outline
  ofJson
    | .null => .ok none
    | value => (item.ofJson value).map some

/-- Read every element, stopping at the first that does not fit. -/
def traverse (read : α → Except ShapeError β) : List α → Except ShapeError (List β)
  | [] => .ok []
  | value :: rest => do
    let head ← read value
    let tail ← traverse read rest
    return head :: tail

/-- A sequence. -/
def list (item : Shape α) : Shape (List α) where
  outline := .list item.outline
  ofJson
    | .array items => traverse item.ofJson items
    | _ => .error .invalidType

/-- Values under any keys, in writing order. -/
def entries (value : Shape α) : Shape (List (String × α)) where
  outline := .map value.outline
  ofJson
    | .object fields => traverse (fun (key, v) => (value.ofJson v).map (key, ·)) fields
    | _ => .error .invalidType

/-- One of several named values. -/
def choice (choices : List (String × α)) : Shape α where
  outline := .choice (choices.map (·.1))
  ofJson
    | .string name | .object [(name, .null)] =>
      match choices.lookup name with
      | some value => .ok value
      | none => .error .invalidValue
    | _ => .error .invalidType

end Shape

/-- The common view of a record that was written as an object or as an array. -/
structure Record where
  /-- The fields that were written, by name. -/
  fields : List (String × Json)
  /-- What is wrong when a required field is not among them. -/
  absent : String → ShapeError := .missingField
  /-- Whether a field was written by its place and not by its name. -/
  positional : Bool := false

/-- A key of the record's own that occurs again later. -/
def repeatedKey? (known : List String) : List (String × Json) → Option String
  | [] => none
  | (key, _) :: rest =>
    if known.contains key && rest.any (·.1 = key) then some key else repeatedKey? known rest

/-- The number of fields, in words. -/
def elementCount (n : Nat) : String :=
  if n = 1 then "1 element" else toString n ++ " elements"

namespace Record

/-- View an object as a record with the given fields, none of them repeated. -/
def ofFields (known : List String) (fields : List (String × Json)) : Except ShapeError Record :=
  match repeatedKey? known fields with
  | some key => .error (.duplicateField key)
  | none => .ok { fields }

/-- View an array as a record of the given name with the given fields. -/
def ofItems (name : String) (known : List String) (items : List Json) : Except ShapeError Record :=
  if known.length < items.length then
    .error (.invalidLength items.length "fewer elements in array")
  else
    .ok {
      fields := known.zip items
      absent := fun field =>
        .invalidLength (known.idxOf field) ("struct " ++ name ++ " with " ++ elementCount known.length)
      positional := true }

/-- View a document as the record of the given name with the given fields. -/
def ofJson (name : String) (known : List String) : Json → Except ShapeError Record
  | .object fields => ofFields known fields
  | .array items => ofItems name known items
  | _ => .error .invalidType

end Record

/-- Fields of a record, and what is made of them. -/
structure Fields (α : Type) where
  /-- How the fields are written, by name. -/
  outlines : List (String × Absence × Outline)
  /-- What is made of a record. -/
  ofRecord : Record → Except ShapeError α

namespace Fields

/-- Fields are put together with what was made of the fields before them. -/
instance : Applicative Fields where
  pure value := { outlines := [], ofRecord := fun _ => .ok value }
  seq f x := {
    outlines := f.outlines ++ (x ()).outlines
    ofRecord := fun r => do return (← f.ofRecord r) (← (x ()).ofRecord r) }

@[simp] theorem ofRecord_seq (f : Fields (α → β)) (x : Fields α) (r : Record) :
    (f <*> x).ofRecord r = (do return (← f.ofRecord r) (← x.ofRecord r)) := rfl

@[simp] theorem ofRecord_map (f : α → β) (x : Fields α) (r : Record) :
    (f <$> x).ofRecord r = (do return f (← x.ofRecord r)) := rfl

@[simp] theorem outlines_seq (f : Fields (α → β)) (x : Fields α) :
    (f <*> x).outlines = f.outlines ++ x.outlines := rfl

/-- The names of the fields. -/
def names (fields : Fields α) : List String :=
  fields.outlines.map (·.1)

/-- A field that has to be there. -/
def required (name : String) (item : Shape α) : Fields α where
  outlines := [(name, .refused, item.outline)]
  ofRecord r :=
    match r.fields.lookup name with
    | some value => item.ofJson value
    | none => .error (r.absent name)

/-- A field with a value for when it is absent. -/
def defaulted (name : String) (default : α) (item : Shape α) : Fields α where
  outlines := [(name, .allowed, item.outline)]
  ofRecord r :=
    match r.fields.lookup name with
    | some value => item.ofJson value
    | none => .ok default

/-- A field that may be absent or null. -/
def optional (name : String) (item : Shape α) : Fields (Option α) :=
  defaulted name none item.nullable

/-- A field that may be null, and absent only from an object. -/
def nullable (name : String) (item : Shape α) : Fields (Option α) where
  outlines := [(name, .inObject, item.nullable.outline)]
  ofRecord r :=
    match r.fields.lookup name with
    | some value => item.nullable.ofJson value
    | none => if r.positional then .error (r.absent name) else .ok none

/-- A field that may be repeated, if it is there: the last value counts, and all have to fit. -/
def last (name : String) (item : Shape α) : Fields (Option α) where
  outlines := [(name, .allowed, item.outline)]
  ofRecord r := do
    let written := r.fields.filter (·.1 = name)
    return (← Shape.traverse item.ofJson (written.map (·.2))).getLast?

/-- A field that may be absent, null or repeated. -/
def loose (name : String) (item : Shape α) : Fields (Option α) :=
  Option.join <$> last name item.nullable

/-- A field that may be repeated, with a value for when it is absent or null. -/
def looseOr (name : String) (default : α) (item : Shape α) : Fields α :=
  (·.getD default) <$> loose name item

end Fields

namespace Shape

/-- A record of the given name. -/
def record (name : String) (fields : Fields α) : Shape α where
  outline := .record .plain fields.outlines
  ofJson document := do fields.ofRecord (← Record.ofJson name fields.names document)

/-- A record that is written as an object only, with fields that may be repeated. -/
def looseRecord (fields : Fields α) : Shape α where
  outline := .record .loose fields.outlines
  ofJson
    | .object written => fields.ofRecord { fields := written }
    | _ => .error .invalidType

/-- The record that another one embeds, by the fields that both have together. -/
def embedded (fields : Fields α) (written : List (String × Json)) : Except ShapeError α := do
  fields.ofRecord (← Record.ofFields fields.names written)

/-- A record that is written as an object only, and in which the fields of another one stand among
its own. -/
def embedding (fields : Fields α) (other : Fields β) : Shape (α × β) where
  outline := .record (.embedding fun written => (embedded other written).isOk) fields.outlines
  ofJson
    | .object written => do return (← embedded fields written, ← embedded other written)
    | _ => .error .invalidType

/-- A record of a name and a content whose shape depends on the name. -/
def tagged (name tag content : String) (cases : List (String × Shape α)) : Shape α where
  outline := .tagged tag content (cases.map fun (name, shape) => (name, shape.fits, shape.outline))
  ofJson document := do
    let parts := Fields.required tag (choice cases)
    let r ← Record.ofJson name [tag, content] document
    let shape ← parts.ofRecord r
    (Fields.required content shape).ofRecord r

end Shape

end Ingress.Json
