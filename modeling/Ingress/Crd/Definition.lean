import Ingress.Crd.Schema
import Ingress.Resource.Basic
import Ingress.Text.Split

/-!
# Custom resource definitions

A cluster learns about a kind of objects from its definition: what the kind is called, in which
group and version, and which objects of it are well-formed. Every kind here lives in namespaces and
has one version, which is served and stored.
-/

namespace Ingress.Crd

/-- The definition of a kind of objects. -/
structure Definition where
  /-- The group that the kind belongs to. -/
  group : String
  /-- The version of the kind. -/
  version : String
  /-- The name of the kind. -/
  kind : String
  /-- The plural in lower case. -/
  plural : String
  /-- The title of the schema. -/
  title : String
  /-- What an object of the kind is. -/
  description : String
  /-- Which specifications are well-formed. -/
  spec : Schema

namespace Definition

/-- The group and the version that an API version names. -/
def groupAndVersion (apiVersion : String) : String × String :=
  match Text.cutAt? '/' apiVersion.toList with
  | some (group, version) => (String.ofList group, String.ofList version)
  | none => ("", apiVersion)

/-- The definition of a kind, with the rest of what its schema says. -/
def ofKind (K : Type) [Resource K] (title description : String) (spec : Schema) : Definition where
  group := (groupAndVersion (Resource.apiVersion K)).1
  version := (groupAndVersion (Resource.apiVersion K)).2
  kind := Resource.kind K
  plural := Resource.plural K
  title
  description
  spec

/-- What the kind is called. -/
def names (d : Definition) : Json :=
  .object [
    ("categories", .array []), ("kind", .string d.kind), ("plural", .string d.plural),
    ("shortNames", .array []), ("singular", .string d.kind.toLower)]

/-- The schema of whole objects. -/
def schema (d : Definition) : Json :=
  .object [
    ("description", .string d.description),
    ("properties", .object [("spec", d.spec.toJson)]),
    ("required", .array [.string "spec"]),
    ("title", .string d.title),
    ("type", .string "object")]

/-- The version of the kind. -/
def versionJson (d : Definition) : Json :=
  .object [
    ("additionalPrinterColumns", .array []), ("name", .string d.version),
    ("schema", .object [("openAPIV3Schema", d.schema)]),
    ("served", .bool true), ("storage", .bool true), ("subresources", .object [])]

/-- The written form. -/
def toJson (d : Definition) : Json :=
  .object [
    ("apiVersion", .string "apiextensions.k8s.io/v1"),
    ("kind", .string "CustomResourceDefinition"),
    ("metadata", .object [("name", .string (d.plural ++ "." ++ d.group))]),
    ("spec", .object [
      ("group", .string d.group), ("names", d.names), ("scope", .string "Namespaced"),
      ("versions", .array [d.versionJson])])]

end Definition

end Ingress.Crd
