import Ingress.Proofs.Resource.Metadata
import Ingress.Resource.Route

/-!
# Routes that are read and written

A route is read back from its written form (`Route.readBack`): the path that is left out where it is
empty, the port that is null where there is none and the weight that is left out then. Whatever
route is read has metadata with proper timestamps (`Route.ensures_dated`).
-/

namespace Ingress

open Json

namespace Domain

/-- The entries of the written form. -/
def entries (domain : Domain) : List (String × Option Json) := [
  ("internal", some (.bool domain.internal)),
  ("name", some (.string domain.name))]

theorem recovers (domain : Domain) : Domain.shape.Recovers domain.toJson domain := by
  have hnodup : (domain.entries.map Prod.fst).Nodup := by simp [entries]
  obtain ⟨hinternal, hname⟩ := forall_holds_written hnodup
  exact Shape.recovers_record "RouteDomain" hnodup (by simp [entries]) <|
    (Fields.recovers_required hname (Shape.recovers_text _)).map Domain.mk
      |>.seq (Fields.recovers_written hinternal (Shape.recovers_bool _))

end Domain

namespace Destination

/-- The written form of an application and the type of its process. -/
def appToJson (app : String × String) : Json :=
  .object [("guid", .string app.1), ("process", .object [("type", .string app.2)])]

/-- The entries of the written form of an application. -/
def appEntries (app : String × String) : List (String × Option Json) := [
  ("guid", some (.string app.1)),
  ("process", some (.object [("type", .string app.2)]))]

theorem recovers_app (app : String × String) : appShape.Recovers (appToJson app) app := by
  have hnodup : ((appEntries app).map Prod.fst).Nodup := by simp [appEntries]
  obtain ⟨hguid, hprocess⟩ := forall_holds_written hnodup
  exact Shape.recovers_record "DestinationApp" hnodup (by simp [appEntries]) <|
    (Fields.recovers_required hguid (Shape.recovers_text _)).map Prod.mk
      |>.seq (Fields.recovers_required hprocess
        (Shape.recovers_single "AppProcess" "type" (Shape.recovers_text _)))

theorem recovers_selector (selector : Labels) :
    selectorShape.Recovers (.object [("matchLabels", selector.toJson)]) selector := by
  have hnodup : ([("matchLabels", some selector.toJson)].map Prod.fst).Nodup := by simp
  exact Shape.recovers_record "DestinationSelector" hnodup (by simp)
    (Fields.recovers_written (holds_written hnodup List.mem_cons_self) selector.recovers)

/-- The entries of the written form. -/
def entries (d : Destination) : List (String × Option Json) := [
  ("app", some (appToJson (d.appGuid, d.processType))),
  ("guid", some (.string d.guid)),
  ("port", some (.ofOption (fun n => .integer n.toInt) d.port)),
  ("selector", some (.object [("matchLabels", d.selector.toJson)])),
  ("weight", d.weight.map fun n => .integer n.toInt)]

theorem toJson_eq (d : Destination) : d.toJson = .object (written d.entries) :=
  ofFields_eq_written (by simp [entries, appToJson])

theorem recovers (d : Destination) : Destination.shape.Recovers d.toJson d := by
  have hnodup : (d.entries.map Prod.fst).Nodup := by simp [entries]
  obtain ⟨happ, hguid, hport, hselector, hweight⟩ := forall_holds_written hnodup
  rw [toJson_eq]
  exact Shape.recovers_record "RouteDestination" hnodup (by simp [entries]) <|
    (Fields.recovers_required hguid (Shape.recovers_text _)).map ofParts
      |>.seq (Fields.recovers_optional hweight Shape.recovers_int32)
      |>.seq (Fields.recovers_nullable hport Shape.recovers_int32)
      |>.seq (Fields.recovers_required happ (recovers_app _))
      |>.seq (Fields.recovers_written hselector (recovers_selector _))

end Destination

namespace Route

/-- The entries of the written form of what a route asks for. -/
def entries (route : Route) : List (String × Option Json) := [
  ("destinations", some (.ofList Destination.toJson route.destinations)),
  ("domain", some route.domain.toJson),
  ("host", some (.string route.host)),
  ("path", if route.path = "" then none else some (.string route.path)),
  ("url", some (.string route.url))]

theorem toJson_eq (route : Route) : route.toJson = Resource.envelope apiVersion kind route.metadata
    [some ("spec", .object (written route.entries))] := by
  have hspec : Json.ofFields (route.entries.map fieldOf) = .object (written route.entries) :=
    ofFields_eq_written rfl
  rw [← hspec]
  simp [entries, toJson]

theorem recovers_spec (route : Route) : specShape.Recovers (.object (written route.entries))
    (ofSpec route.host route.path route.url route.domain route.destinations) := by
  have hnodup : (route.entries.map Prod.fst).Nodup := by simp [entries]
  obtain ⟨hdestinations, hdomain, hhost, hpath, hurl⟩ := forall_holds_written hnodup
  exact Shape.recovers_record "RouteSpec" hnodup (by simp [entries]) <|
    (Fields.recovers_written hhost (Shape.recovers_text _)).map ofSpec
      |>.seq (Fields.recovers_unless hpath id (Shape.recovers_text _))
      |>.seq (Fields.recovers_written hurl (Shape.recovers_text _))
      |>.seq (Fields.recovers_required hdomain route.domain.recovers)
      |>.seq (Fields.recovers_written hdestinations
        (Shape.recovers_list fun d _ => d.recovers))

theorem readBack {route : Route} (h : route.metadata.Dated) :
    Resource.ReadBack Route.shape route.toJson route := by
  rw [toJson_eq]
  exact Resource.readBack_envelope "Route" (fun metadata spec => spec metadata) h
    route.recovers_spec

/-- A specification that is read leaves the metadata as they are. -/
theorem ensures_spec :
    specShape.Ensures fun spec => ∀ metadata, (spec metadata).metadata = metadata :=
  Shape.ensures_record (.seq_any (.seq_any (.seq_any (.seq_any
    (.map fun _ _ _ _ _ _ _ _ => rfl)))))

theorem ensures_dated : Route.shape.Ensures fun route => route.metadata.Dated :=
  Resource.ensures_envelope "Route" ensures_spec fun metadata _ hdated hspec =>
    (hspec metadata).symm ▸ hdated

end Route

end Ingress
