import Ingress.Proofs.Json.Path
import Ingress.Proofs.Resource.Metadata

/-!
# Labels in the written form of an object

An object's labels stand in its metadata. What stands under one of them there is the label
(`Resource.at?_label`), and objects that have labels and are otherwise the same are the same
document once these are blank (`Resource.blank_labels`).
-/

namespace Ingress

open Json

/-- Where an object's labels stand. -/
def labelsAt : List String := ["metadata", "labels"]

namespace Labels

variable (labels : Labels)

/-- The entries of the written form. -/
def entries : List (String × Option Json) :=
  labels.toList.map fun (key, value) => (key, some (.string value))

/-- The written form is made from the entries. -/
theorem toJson_eq : labels.toJson = .object (written labels.entries) := by
  unfold toJson written entries
  rw [List.filterMap_map, ← List.filterMap_eq_map]
  rfl

/-- The names of the entries are the keys. -/
theorem map_fst_entries : labels.entries.map Prod.fst = labels.keys := by
  unfold entries
  rw [List.map_map, ← Std.ExtTreeMap.map_fst_toList_eq_keys]
  rfl

/-- The names of the entries are distinct. -/
theorem nodup_entries : (labels.entries.map Prod.fst).Nodup := by
  rw [map_fst_entries]
  exact Std.ExtTreeMap.nodup_keys

/-- What stands under a key in the written form. -/
theorem at?_toJson (key : String) : labels.toJson.at? [key] = labels[key]?.map .string := by
  rw [toJson_eq]
  cases hvalue : labels[key]? with
  | none =>
    have hout : key ∉ labels.entries.map Prod.fst := by
      rw [map_fst_entries, Std.ExtTreeMap.mem_keys, ← Std.ExtTreeMap.isSome_getElem?_iff_mem,
        hvalue]
      exact Bool.false_ne_true
    exact at?_of_holds (holds_written_of_notMem hout) []
  | some value =>
    have hmem : (key, some (Json.string value)) ∈ labels.entries :=
      List.mem_map.mpr
        ⟨(key, value), Std.ExtTreeMap.mem_toList_iff_getElem?_eq_some.mpr hvalue, rfl⟩
    exact at?_written labels.nodup_entries hmem []

end Labels

/-- The labels stand in the written form of metadata. -/
theorem Metadata.at?_labels (m : Metadata) (path : List String) :
    m.toJson.at? ("labels" :: path) = (m.labels.map Labels.toJson).bind (at? path) := by
  have hnodup : (m.entries.map Prod.fst).Nodup := by simp [entries]
  rw [Metadata.toJson_eq]
  exact at?_written hnodup (by simp [entries]) path

/-- Metadata with labels are the same document, once these are blank, whichever labels they are. -/
theorem Metadata.blank_labels (m : Metadata) (first second : Labels) :
    { m with labels := some first }.toJson.blank ["labels"] =
      { m with labels := some second }.toJson.blank ["labels"] := by
  rw [Metadata.toJson_eq, Metadata.toJson_eq, blank_written, blank_written]
  rfl

namespace Resource

variable (apiVersion kind : String) (m : Metadata) (spec : Json)

/-- The names in an object's written form are distinct. -/
theorem nodup_entries : ((entries apiVersion kind m spec).map Prod.fst).Nodup := by
  simp [entries]

/-- What stands under a label in an object's written form is the label. -/
theorem at?_label (key : String) :
    (Json.object (written (entries apiVersion kind m spec))).at? (labelsAt ++ [key]) =
      (m.labels.bind fun labels => labels[key]?).map .string := by
  have hmetadata : ("metadata", some m.toJson) ∈ entries apiVersion kind m spec := by
    simp [entries]
  refine (at?_written (nodup_entries apiVersion kind m spec) hmetadata ["labels", key]).trans ?_
  rw [Option.bind_some, Metadata.at?_labels]
  cases m.labels with
  | none => rfl
  | some labels => exact labels.at?_toJson key

/-- The kind stands in an object's written form. -/
theorem at?_kind : (Json.object (written (entries apiVersion kind m spec))).at? ["kind"] =
    some (.string kind) := by
  have hkind : ("kind", some (.string kind)) ∈ entries apiVersion kind m spec := by
    simp [entries]
  exact at?_written (nodup_entries apiVersion kind m spec) hkind []

/-- Objects with labels that are otherwise the same are the same document once these are blank. -/
theorem blank_labels (first second : Labels) :
    (Json.object (written
        (entries apiVersion kind { m with labels := some first } spec))).blank labelsAt =
      (Json.object (written
        (entries apiVersion kind { m with labels := some second } spec))).blank labelsAt := by
  unfold labelsAt
  rw [blank_written, blank_written]
  congr 2
  simp [entries, m.blank_labels first second]

end Resource

end Ingress
