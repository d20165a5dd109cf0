import Ingress.Resource.Metadata

/-!
# Kinds of cluster objects

A kind of object has a name, an API version, a plural for its paths, metadata that can be
read and replaced, and a written form. An object is told from others of its kind by its
`ObjectKey`: its namespace, nothing where it has none, and its name.
-/

namespace Ingress

/-- A kind of cluster objects. -/
class Resource (K : Type) where
  /-- The name of the kind. -/
  kind : String
  /-- The API version that objects of the kind are written with. -/
  apiVersion : String
  /-- The plural in lower case, as it stands in paths. -/
  plural : String
  /-- What an object says about itself. -/
  metadata : K → Metadata
  /-- The object with other metadata. -/
  withMetadata : K → Metadata → K
  /-- The written form. -/
  toJson : K → Json
  /-- The shape that an object is read by. -/
  shape : Json.Shape K

/-- What tells the objects of one kind apart. -/
structure ObjectKey where
  /-- The namespace, nothing where there is none. -/
  ns : String
  /-- The name. -/
  name : String
  deriving DecidableEq, Repr

namespace ObjectKey

/-- Keys ascend by namespace, within a namespace by name. -/
instance : Ord ObjectKey where
  compare a b := (compare a.ns b.ns).then (compare a.name b.name)

/-- Keys compare by namespace, and by name where namespaces are equal. -/
theorem compare_def (a b : ObjectKey) :
    compare a b = (compare a.ns b.ns).then (compare a.name b.name) := rfl

instance : Std.OrientedOrd ObjectKey where
  eq_swap {a b} := by
    have hns : compare a.ns b.ns = (compare b.ns a.ns).swap := Std.OrientedCmp.eq_swap
    have hname : compare a.name b.name = (compare b.name a.name).swap := Std.OrientedCmp.eq_swap
    rw [compare_def, compare_def, hns, hname]
    cases compare b.ns a.ns <;> rfl

instance : Std.TransOrd ObjectKey where
  isLE_trans {a b c} hab hbc := by
    simp only [compare_def, Ordering.isLE_then_iff_and] at hab hbc ⊢
    refine ⟨Std.TransCmp.isLE_trans hab.1 hbc.1, ?_⟩
    rcases hab.2 with h | h
    · exact .inl (Std.TransCmp.lt_of_lt_of_isLE h hbc.1)
    · rcases hbc.2 with h' | h'
      · exact .inl (Std.TransCmp.lt_of_isLE_of_lt hab.1 h')
      · exact .inr (Std.TransCmp.isLE_trans h h')

instance : Std.LawfulEqOrd ObjectKey where
  eq_of_compare {a b} h := by
    rw [compare_def, Ordering.then_eq_eq] at h
    cases a; cases b
    simp only [ObjectKey.mk.injEq]
    exact ⟨Std.LawfulEqCmp.eq_of_compare h.1, Std.LawfulEqCmp.eq_of_compare h.2⟩

end ObjectKey

namespace Resource

variable [Resource K]

/-- The name of an object, nothing where it has none. -/
def name (object : K) : String := (metadata object).displayName

/-- The namespace of an object. -/
def ns (object : K) : Option String := (metadata object).ns

/-- The key of an object. -/
def key (object : K) : ObjectKey := ⟨(metadata object).nsText, name object⟩

/-- The labels of an object, none where they were never set. -/
def labels (object : K) : Labels := (metadata object).labels.getD ∅

/-- The value of an annotation. -/
def annotation? (object : K) (key : String) : Option String :=
  (metadata object).annotations.bind fun annotations => annotations[key]?

/-- An object's written form: version, kind and metadata, then the rest. -/
def envelope (apiVersion kind : String) (metadata : Metadata)
    (rest : List (Option (String × Json))) : Json :=
  .ofFields (
    some ("apiVersion", .string apiVersion) :: some ("kind", .string kind) ::
      some ("metadata", metadata.toJson) :: rest)

end Resource

end Ingress
