import Ingress.Proofs.Resource.Metadata
import Ingress.Resource.VirtualService

/-!
# Virtual services that are read and written

A virtual service is read back from its written form (`VirtualService.readBack`): lists and headers
that are left out where they are empty, also where the object around them is written, and parts that
are left out where there are none.
-/

namespace Ingress

open Json

namespace HeaderOperations

/-- The entries of the written form. -/
def entries (operations : HeaderOperations) : List (String × Option Json) := [
  ("set", if operations.set.isEmpty then none else some operations.set.toJson)]

theorem toJson_eq (operations : HeaderOperations) :
    operations.toJson = .object (written operations.entries) :=
  ofFields_eq_written (by simp [entries])

theorem recovers (operations : HeaderOperations) :
    HeaderOperations.shape.Recovers operations.toJson operations := by
  have hnodup : (operations.entries.map Prod.fst).Nodup := by simp [entries]
  have hset := holds_written hnodup List.mem_cons_self
  rw [toJson_eq]
  exact Shape.recovers_record "HeaderOperations" hnodup (by simp [entries]) <|
    (Fields.recovers_unless hset Std.ExtTreeMap.isEmpty_iff.mp (Labels.recovers _)).map
      HeaderOperations.mk

end HeaderOperations

namespace Headers

/-- The entries of the written form. -/
def entries (headers : Headers) : List (String × Option Json) := [
  ("request", headers.request.map HeaderOperations.toJson)]

theorem toJson_eq (headers : Headers) : headers.toJson = .object (written headers.entries) :=
  ofFields_eq_written (by simp [entries])

theorem recovers (headers : Headers) : Headers.shape.Recovers headers.toJson headers := by
  have hnodup : (headers.entries.map Prod.fst).Nodup := by simp [entries]
  have hrequest := holds_written hnodup List.mem_cons_self
  rw [toJson_eq]
  exact Shape.recovers_record "Headers" hnodup (by simp [entries]) <|
    (Fields.recovers_optional hrequest HeaderOperations.recovers).map Headers.mk

end Headers

namespace MeshDestination

/-- The entries of the written form. -/
def entries (d : MeshDestination) : List (String × Option Json) := [
  ("destination", some (.object [("host", .string d.host)])),
  ("headers", d.headers.map Headers.toJson),
  ("weight", d.weight.map fun n => .integer n.toInt)]

theorem toJson_eq (d : MeshDestination) : d.toJson = .object (written d.entries) :=
  ofFields_eq_written (by simp [entries])

theorem recovers (d : MeshDestination) : MeshDestination.shape.Recovers d.toJson d := by
  have hnodup : (d.entries.map Prod.fst).Nodup := by simp [entries]
  obtain ⟨hhost, hheaders, hweight⟩ := forall_holds_written hnodup
  rw [toJson_eq]
  exact Shape.recovers_record "HttpRouteDestination" hnodup (by simp [entries]) <|
    (Fields.recovers_required hhost
      (Shape.recovers_single "Destination" "host" (Shape.recovers_text _))).map MeshDestination.mk
      |>.seq (Fields.recovers_optional hweight Shape.recovers_int32)
      |>.seq (Fields.recovers_optional hheaders Headers.recovers)

end MeshDestination

namespace MeshRule

theorem recovers_match (path : String) : matchShape.Recovers (matchToJson path) path :=
  Shape.recovers_single "HttpMatchRequest" "uri"
    (Shape.recovers_single "StringMatch" "prefix" (Shape.recovers_text path))

/-- The entries of the written form. -/
def entries (rule : MeshRule) : List (String × Option Json) := [
  ("match", if rule.pathPrefixes = [] then none else some (.ofList matchToJson rule.pathPrefixes)),
  ("route", some (.ofList MeshDestination.toJson rule.destinations))]

theorem toJson_eq (rule : MeshRule) : rule.toJson = .object (written rule.entries) :=
  ofFields_eq_written (by simp [entries])

theorem recovers (rule : MeshRule) : MeshRule.shape.Recovers rule.toJson rule := by
  have hnodup : (rule.entries.map Prod.fst).Nodup := by simp [entries]
  obtain ⟨hmatch, hroute⟩ := forall_holds_written hnodup
  rw [toJson_eq]
  exact Shape.recovers_record "HttpRoute" hnodup (by simp [entries]) <|
    (Fields.recovers_unless hmatch id (Shape.recovers_list fun path _ => recovers_match path)).map
      MeshRule.mk
      |>.seq (Fields.recovers_required hroute (Shape.recovers_list fun d _ => d.recovers))

end MeshRule

namespace VirtualServiceSpec

/-- The entries of the written form. -/
def entries (spec : VirtualServiceSpec) : List (String × Option Json) := [
  ("gateways", if spec.gateways = [] then none else some (.ofList .string spec.gateways)),
  ("hosts", some (.ofList .string spec.hosts)),
  ("http", if spec.rules = [] then none else some (.ofList MeshRule.toJson spec.rules))]

theorem toJson_eq (spec : VirtualServiceSpec) : spec.toJson = .object (written spec.entries) :=
  ofFields_eq_written (by simp [entries])

theorem recovers (spec : VirtualServiceSpec) :
    VirtualServiceSpec.shape.Recovers spec.toJson spec := by
  have hnodup : (spec.entries.map Prod.fst).Nodup := by simp [entries]
  obtain ⟨hgateways, hhosts, hhttp⟩ := forall_holds_written hnodup
  have htexts (texts : List String) : (Shape.list .text).Recovers (.ofList .string texts) texts :=
    Shape.recovers_list fun text _ => Shape.recovers_text text
  rw [toJson_eq]
  exact Shape.recovers_record "VirtualServiceSpec" hnodup (by simp [entries]) <|
    (Fields.recovers_required hhosts (htexts _)).map VirtualServiceSpec.mk
      |>.seq (Fields.recovers_unless hgateways id (htexts _))
      |>.seq (Fields.recovers_unless hhttp id (Shape.recovers_list fun rule _ => rule.recovers))

end VirtualServiceSpec

namespace VirtualService

theorem readBack {object : VirtualService} (h : object.metadata.Dated) :
    Resource.ReadBack VirtualService.shape object.toJson object :=
  Resource.readBack_envelope "VirtualService" VirtualService.mk h object.spec.recovers

theorem ensures_dated : VirtualService.shape.Ensures fun object => object.metadata.Dated :=
  Resource.ensures_envelope (q := fun _ => True) "VirtualService" (fun _ _ _ => trivial)
    fun _ _ hdated _ => hdated

end VirtualService

end Ingress
