import Ingress.Resource.Labels

/-!
# Sync requests

The body of a sync request holds template labels deep inside of records with one field each:
`parent`, `spec`, `template`, `metadata` and `labels`. Any of them may be absent, and the labels
may be null. A record may also be written as an array with at most its one field.
-/

namespace Ingress.Api

/-- What is wrong with the body of a request. -/
inductive BodyFault where
  /-- It is no JSON text. -/
  | notJson
  /-- It has another shape than what is asked for. -/
  | wrongShape
  deriving DecidableEq, Repr

/-- What a fault of a text means for a body. -/
def BodyFault.ofFault : Json.Fault → BodyFault
  | .truncated | .malformed => .notJson
  | .unfit => .wrongShape

/-- The records around the labels, from the outermost inwards. -/
def labelPath : List String := ["parent", "spec", "template", "metadata", "labels"]

/-- The shape of labels, of which null means none. -/
def syncLabelsShape : Json.Shape Labels :=
  (Json.Shape.nullable Labels.shape).map (·.getD ∅)

/-- The shape of a body. -/
def syncShape : Json.Shape Labels :=
  labelPath.foldr (fun name inner => .record name (.defaulted name ∅ inner)) syncLabelsShape

/-- The labels in a body. -/
def syncLabels (body : String) : Except BodyFault Labels :=
  (syncShape.ofText body).mapError .ofFault

end Ingress.Api
