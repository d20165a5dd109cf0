/-!
# JSON values

A JSON document as a tree. An object keeps its fields in the order in which they
were written, repeated keys included, because some readers refuse a repeated key
and others let the last one win. `Json.canonical` is the form that has lost
both: fields ascend by key and every key occurs once.
-/

namespace Ingress

/-- A JSON document. -/
inductive Json where
  /-- The literal null. -/
  | null
  /-- One of the literals true and false. -/
  | bool (value : Bool)
  /-- A number without fraction and exponent that fits in 64 bits, signed or unsigned. -/
  | integer (value : Int)
  /-- Any other number, by the shortest text of the double next to it. -/
  | real (text : String)
  /-- A text. -/
  | string (value : String)
  /-- A sequence of values. -/
  | array (items : List Json)
  /-- Keys with their values, in writing order. -/
  | object (fields : List (String × Json))
  deriving Inhabited

namespace Json

/-- Put a field in its place among ascending keys; a key that is there gets the new value. -/
def insertField (key : String) (value : Json) : List (String × Json) → List (String × Json)
  | [] => [(key, value)]
  | (k, v) :: rest =>
    if key < k then (key, value) :: (k, v) :: rest
    else if key = k then (key, value) :: rest
    else (k, v) :: insertField key value rest

/-- The fields in ascending key order, of a repeated key the last one. -/
def sortFields (fields : List (String × Json)) : List (String × Json) :=
  fields.foldl (fun sorted field => insertField field.1 field.2 sorted) []

mutual

/-- The same document with every object's keys ascending and unrepeated. -/
def canonical : Json → Json
  | .array items => .array (canonicalItems items)
  | .object fields => .object (sortFields (canonicalFields fields))
  | .null => .null
  | .bool value => .bool value
  | .integer value => .integer value
  | .real text => .real text
  | .string value => .string value

/-- Every item in canonical form. -/
def canonicalItems : List Json → List Json
  | [] => []
  | item :: rest => canonical item :: canonicalItems rest

/-- Every field's value in canonical form. -/
def canonicalFields : List (String × Json) → List (String × Json)
  | [] => []
  | (key, value) :: rest => (key, canonical value) :: canonicalFields rest

end

/-- The first value written under a key; none of a value that is no object. -/
def field? (key : String) : Json → Option Json
  | .object fields => fields.lookup key
  | _ => none

/-- The last value written under a key; none of a value that is no object. -/
def lastField? (key : String) : Json → Option Json
  | .object fields => fields.reverse.lookup key
  | _ => none

/-- A field that is there and is not null. -/
def present? (key : String) (value : Json) : Option Json :=
  match value.field? key with
  | some .null => none
  | found => found

/-- A list as an array. -/
def ofList (write : α → Json) (items : List α) : Json :=
  .array (items.map write)

/-- A text, or null for none. -/
def ofOption (write : α → Json) : Option α → Json
  | some value => write value
  | none => .null

/-- The fields of an object that is written only in part: each entry says what it adds. -/
def ofFields (fields : List (Option (String × Json))) : Json :=
  .object (fields.filterMap id)

end Json

end Ingress
