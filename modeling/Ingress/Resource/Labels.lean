import Std.Data.ExtTreeMap
import Ingress.Json.Shape

/-!
# Labels

Labels, annotations and selectors map texts to texts. They are kept in ascending order of
their keys, so equal maps are written alike.
-/

namespace Ingress

/-- A map from texts to texts, in ascending order of its keys. -/
abbrev Labels := Std.ExtTreeMap String String

namespace Labels

/-- The written form: an object with ascending keys. -/
def toJson (labels : Labels) : Json :=
  .object (labels.toList.map fun (key, value) => (key, .string value))

/-- The shape of labels: an object of texts. Of a repeated key the last value counts. -/
def shape : Json.Shape Labels :=
  (Json.Shape.entries .text).map fun entries => Std.ExtTreeMap.ofList entries

/-- The value of a label, the empty text where the label is absent. -/
def valueOf (labels : Option Labels) (key : String) : String :=
  ((labels.bind fun labels => labels[key]?)).getD ""

end Labels

end Ingress
