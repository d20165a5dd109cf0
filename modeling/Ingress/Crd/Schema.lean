import Ingress.Json.Value

/-!
# Schemas of written forms

A schema says which documents are well-formed: texts, truth values, numbers of some width, maps of
texts, lists and records. In a record every field has a `Presence`, which says what it means that
the field is absent. A schema is itself written as a document, in the vocabulary of OpenAPI
(`Schema.toJson`), where keys ascend.
-/

namespace Ingress.Crd

/-- What it means that a field is absent. -/
inductive Presence where
  /-- The record is malformed. -/
  | required
  /-- The field is empty. -/
  | omissible
  /-- The field has no value; it may as well be null. -/
  | nullable
  /-- The field has this value. -/
  | defaulted (value : Json)

/-- Which documents are well-formed. -/
inductive Schema where
  /-- A text. -/
  | text
  /-- A truth value. -/
  | flag
  /-- A whole number with a sign, of so many bits. -/
  | integer (bits : Nat)
  /-- A map from texts to texts. -/
  | textMap
  /-- A list. -/
  | list (item : Schema)
  /-- A record. -/
  | record (fields : List (String × Presence × Schema))
  /-- What another schema says, with a description. -/
  | described (description : String) (schema : Schema)

namespace Presence

/-- What a field's schema says about its absence. -/
def keywords : Presence → List (String × Json)
  | .required | .omissible => []
  | .nullable => [("nullable", .bool true)]
  | .defaulted value => [("default", value)]

/-- Whether a field has to be there. -/
def isRequired : Presence → Bool
  | .required => true
  | .omissible | .nullable | .defaulted _ => false

end Presence

namespace Schema

/-- The names of the fields that have to be there, ascending. -/
def requiredNames (fields : List (String × Presence × Schema)) : List String :=
  ((fields.filter fun (_, presence, _) => presence.isRequired).map (·.1)).mergeSort

/-- What a record's schema says about the fields that have to be there. -/
def requiredKeywords (fields : List (String × Presence × Schema)) : List (String × Json) :=
  match requiredNames fields with
  | [] => []
  | names => [("required", .ofList .string names)]

mutual

/-- What a schema says, by keyword. -/
def keywords : Schema → List (String × Json)
  | .text => [("type", .string "string")]
  | .flag => [("type", .string "boolean")]
  | .integer bits => [("format", .string ("int" ++ toString bits)), ("type", .string "integer")]
  | .textMap => [
      ("additionalProperties", .object [("type", .string "string")]), ("type", .string "object")]
  | .list item => [("items", .object (Json.sortFields (keywords item))), ("type", .string "array")]
  | .record fields =>
    ("properties", .object (Json.sortFields (properties fields))) :: ("type", .string "object") ::
      requiredKeywords fields
  | .described description schema => ("description", .string description) :: keywords schema

/-- The schemas of a record's fields, by name. -/
def properties : List (String × Presence × Schema) → List (String × Json)
  | [] => []
  | (name, presence, schema) :: rest =>
    (name, .object (Json.sortFields (presence.keywords ++ keywords schema))) :: properties rest

end

/-- A schema as a document. -/
def toJson (schema : Schema) : Json :=
  .object (Json.sortFields schema.keywords)

end Schema

end Ingress.Crd
