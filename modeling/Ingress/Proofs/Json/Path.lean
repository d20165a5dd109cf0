import Ingress.Proofs.Json.Written

/-!
# Paths into documents

A path names fields from the outermost inwards. `Json.at?` is what stands at a path, and
`Json.blank` is the document with null in its place, so two documents that are equal once a path is
blank differ at most in what stands there. Of an object that is written in part both come down to
one entry.
-/

namespace Ingress.Json

/-- What stands at a path, of repeated names under the first. -/
def at? : List String → Json → Option Json
  | [], document => some document
  | name :: path, document => (document.field? name).bind (at? path)

/-- The document with null in the place of what stands at a path. -/
def blank : List String → Json → Json
  | [], _ => .null
  | name :: path, .object fields =>
    .object (fields.map fun field =>
      if field.1 = name then (field.1, blank path field.2) else field)
  | _, document => document

/-- What stands under a name that an object holds. -/
theorem at?_of_holds {fields : List (String × Json)} {name : String} {value : Option Json}
    (h : Record.Holds { fields } name value) (path : List String) :
    (Json.object fields).at? (name :: path) = value.bind (at? path) := by
  have hlookup : (Json.object fields).field? name = value := h.lookup_eq
  rw [at?, hlookup]

/-- What stands under a name in an object that is written in part. -/
theorem at?_written {entries : List (String × Option Json)}
    (hnodup : (entries.map Prod.fst).Nodup) {name : String} {value : Option Json}
    (h : (name, value) ∈ entries) (path : List String) :
    (Json.object (written entries)).at? (name :: path) = value.bind (at? path) :=
  at?_of_holds (holds_written hnodup h) path

/-- An object that is written in part is blank at a path where the entry of its first name is. -/
theorem blank_written (entries : List (String × Option Json)) (name : String)
    (path : List String) :
    (Json.object (written entries)).blank (name :: path) =
      .object (written (entries.map fun entry =>
        (entry.1, if entry.1 = name then entry.2.map (blank path) else entry.2))) := by
  unfold blank written
  rw [List.map_filterMap, List.filterMap_map]
  congr 2
  funext entry
  obtain ⟨key, value⟩ := entry
  cases value with
  | none => by_cases hkey : key = name <;> simp [fieldOf, hkey]
  | some value => by_cases hkey : key = name <;> simp [fieldOf, hkey]

end Ingress.Json
