import Ingress.Proofs.Resource.Label
import Ingress.Proofs.Synthesis.Provider

/-!
# What template labels change

Which groups there are and which destinations have a service is decided without a look at the
template labels; they only come to stand in the metadata of every object. So for two templates the
children of the same routes correspond, one by one, and differ only in their labels
(`Synthesizer.forall₂_children`), and of these the controller's own are the same whatever a template
says (`Synthesizer.ownLabels_children`).
-/

namespace Ingress

namespace Synthesizer

variable {K : Type} (s : Synthesizer K) (routes : List Route)

/-- The groups that routes come to, in ascending order of hostnames. -/
def groups : List HostGroup :=
  (hostnames routes).filterMap fun fqdn =>
    (HostGroup.ofRoutes? s.renderer.requireWeightSum fqdn (routesOf fqdn routes)).toOption.join

/-- The objects are those of the groups. -/
theorem objects_eq_map_groups :
    (s.synthesize routes).objects = (s.groups routes).map s.objectOf := by
  rw [objects_synthesize, groups, List.map_filterMap]
  refine List.filterMap_congr fun fqdn _ => ?_
  unfold verdict
  cases HostGroup.ofRoutes? s.renderer.requireWeightSum fqdn (routesOf fqdn routes) <;> rfl

end Synthesizer

/-- The destinations that have a service, each with its route and its port. -/
def placements (routes : List Route) : List (Route × Destination × Int32) :=
  routes.flatMap fun route => route.destinations.filterMap fun destination =>
    destination.port.map fun port => (route, destination, port)

/-- The services are those of the destinations that have one. -/
theorem Synthesizer.services_eq_map_placements {K : Type} (s : Synthesizer K)
    (routes : List Route) :
    s.services routes = (placements routes).map fun placement =>
      Service.ofDestination s.labels placement.1 placement.2.1 placement.2.2 := by
  unfold services placements Route.services
  rw [List.map_flatMap]
  refine List.flatMap_congr fun route _ => ?_
  rw [List.map_filterMap]
  refine List.filterMap_congr fun destination _ => ?_
  rw [Option.map_map]
  rfl

/-- The destinations that have a service are the materialized ones. -/
theorem map_placements (routes : List Route) :
    (placements routes).map (fun placement => (placement.1, placement.2.1)) =
      routes.flatMap fun route =>
        route.materialized.map fun destination => (route, destination) := by
  unfold placements Route.materialized
  rw [List.map_flatMap]
  refine List.flatMap_congr fun route _ => ?_
  rw [List.map_filterMap, ← List.filterMap_eq_map, List.filterMap_filter]
  refine List.filterMap_congr fun destination _ => ?_
  unfold Destination.materialized
  cases destination.port <;> rfl

/-- A renderer that writes an object as its version, its kind, the metadata that it is given and
something that does not depend on these. -/
def Renderer.Encloses {K : Type} [Resource K] (r : Renderer K) (spec : HostGroup → Json) : Prop :=
  ∀ group metadata, Resource.toJson (r.render group metadata) = .object (Json.written
    (Resource.entries (Resource.apiVersion K) (Resource.kind K) metadata (spec group)))

/-- Both renderers write objects like that. -/
theorem Config.exists_encloses (config : Config) (provider : Provider) :
    ∃ spec, (config.rendererFor provider).Encloses spec := by
  cases provider with
  | istio =>
    exact ⟨fun group => (VirtualService.ofGroup config.gateways group {}).spec.toJson,
      fun _ _ => rfl⟩
  | contour =>
    exact ⟨fun group =>
      (HttpProxy.ofGroup config.tlsSecretName config.httpsOnly group {}).spec.toJson,
      fun _ _ => rfl⟩

/-- No ingress object is a service. -/
theorem Provider.kind_object_ne (provider : Provider) :
    Resource.kind provider.Object ≠ Service.kind := by
  cases provider with
  | istio => exact (by decide : VirtualService.kind ≠ Service.kind)
  | contour => exact (by decide : HttpProxy.kind ≠ Service.kind)

/-- A synthesized service is written in the same way. -/
theorem Service.exists_toJson_ofDestination (route : Route) (destination : Destination)
    (port : Int32) : ∃ spec, ∀ template,
      (Service.ofDestination template route destination port).toJson = .object (Json.written
        (Resource.entries Service.apiVersion Service.kind
          (Service.ofDestination template route destination port).metadata spec)) :=
  ⟨_, fun _ => rfl⟩

/-- A child that is the service of a destination, with the labels that say so. -/
structure ShowsService (route : Route) (destination : Destination) (child : Json) : Prop where
  /-- It is a service. -/
  kind_eq : child.at? ["kind"] = some (.string Service.kind)
  /-- It is labelled with the application. -/
  appGuid_eq : child.at? (labelsAt ++ [appGuidLabel]) = some (.string destination.appGuid)
  /-- It is labelled with the type of the process. -/
  processType_eq :
    child.at? (labelsAt ++ [processTypeLabel]) = some (.string destination.processType)
  /-- It is labelled with the route. -/
  routeGuid_eq : child.at? (labelsAt ++ [routeGuidLabel]) = some (.string route.name)

/-- The labels that the controller gives to the children of routes, whatever a template says. -/
structure OwnLabels (routes : List Route) (children : List Json) : Prop where
  /-- Every child is labelled as the controller's. -/
  managed : ∀ child ∈ children,
    child.at? (labelsAt ++ [managedByLabel]) = some (.string manager)
  /-- The services are the last children, one for each materialized destination. -/
  services : ∃ ingresses services, children = ingresses ++ services ∧
    (∀ child ∈ ingresses, child.at? ["kind"] ≠ some (.string Service.kind)) ∧
    List.Forall₂ (fun placed child => ShowsService placed.1 placed.2 child)
      (routes.flatMap fun route => route.materialized.map fun destination => (route, destination))
      services

/-- A service that is written is labelled as the controller's and as the one of its destination. -/
theorem showsService_toJson (template : Labels) (route : Route) (destination : Destination)
    (port : Int32) :
    (Service.ofDestination template route destination port).toJson.at?
        (labelsAt ++ [managedByLabel]) = some (.string manager) ∧
      ShowsService route destination
        (Service.ofDestination template route destination port).toJson := by
  obtain ⟨hmanaged, happ, hprocess, hroute⟩ :=
    Service.getElem?_labelsOf template route destination
  obtain ⟨spec, hwritten⟩ := Service.exists_toJson_ofDestination route destination port
  have hlabel : ∀ {key value}, (Service.labelsOf template route destination)[key]? = some value →
      (Service.ofDestination template route destination port).toJson.at? (labelsAt ++ [key]) =
        some (.string value) := by
    intro key value hvalue
    rw [hwritten, Resource.at?_label]
    exact congrArg (Option.map Json.string) hvalue
  refine ⟨hlabel hmanaged, ?_, hlabel happ, hlabel hprocess, hlabel hroute⟩
  rw [hwritten, Resource.at?_kind]

namespace Synthesizer

variable {K : Type} [Resource K] {s : Synthesizer K} {spec : HostGroup → Json}

/-- The written form of the object of a group. -/
theorem toJson_objectOf (hspec : s.renderer.Encloses spec) (template : Labels)
    (group : HostGroup) :
    Resource.toJson ((s.withLabels template).objectOf group) = .object (Json.written
      (Resource.entries (Resource.apiVersion K) (Resource.kind K)
        { s.metadata group with labels := some (managedLabels template) } (spec group))) :=
  hspec group _

/-- Two templates make the same children, one by one, but for the labels. -/
theorem forall₂_children (hspec : s.renderer.Encloses spec) (first second : Labels)
    (routes : List Route) :
    List.Forall₂ (fun a b => a.blank labelsAt = b.blank labelsAt)
      ((s.withLabels first).children routes) ((s.withLabels second).children routes) := by
  unfold children
  rw [objects_eq_map_groups, objects_eq_map_groups, services_eq_map_placements,
    services_eq_map_placements, List.map_map, List.map_map, List.map_map, List.map_map]
  refine List.rel_append ?_ ?_
  · change List.Forall₂ _ ((s.groups routes).map _) ((s.groups routes).map _)
    rw [List.forall₂_map_left_iff, List.forall₂_map_right_iff, List.forall₂_same]
    intro group _
    rw [Function.comp_apply, Function.comp_apply, toJson_objectOf hspec, toJson_objectOf hspec]
    exact Resource.blank_labels ..
  · rw [List.forall₂_map_left_iff, List.forall₂_map_right_iff, List.forall₂_same]
    intro placement _
    obtain ⟨spec, hservice⟩ := Service.exists_toJson_ofDestination placement.1 placement.2.1
      placement.2.2
    rw [Function.comp_apply, Function.comp_apply, hservice, hservice]
    exact Resource.blank_labels Service.apiVersion Service.kind
      (Service.ofDestination ∅ placement.1 placement.2.1 placement.2.2).metadata spec _ _

/-- Whatever a template says, the children of routes have the controller's own labels. -/
theorem ownLabels_children (hspec : s.renderer.Encloses spec)
    (hkind : Resource.kind K ≠ Service.kind) (template : Labels) (routes : List Route) :
    OwnLabels routes ((s.withLabels template).children routes) where
  managed := by
    intro child hchild
    rcases List.mem_append.mp hchild with hobject | hservice
    · rw [objects_eq_map_groups, List.map_map] at hobject
      obtain ⟨group, _, rfl⟩ := List.mem_map.mp hobject
      rw [Function.comp_apply, toJson_objectOf hspec, Resource.at?_label]
      exact congrArg (Option.map Json.string) Std.ExtTreeMap.getElem?_insert_self
    · rw [services_eq_map_placements, List.map_map] at hservice
      obtain ⟨⟨route, destination, port⟩, _, rfl⟩ := List.mem_map.mp hservice
      exact (showsService_toJson template route destination port).1
  services := by
    refine ⟨_, _, rfl, ?_, ?_⟩
    · intro child hobject
      rw [objects_eq_map_groups, List.map_map] at hobject
      obtain ⟨group, _, rfl⟩ := List.mem_map.mp hobject
      rw [Function.comp_apply, toJson_objectOf hspec, Resource.at?_kind]
      exact fun h => hkind (Json.string.inj (Option.some.inj h))
    · rw [services_eq_map_placements, ← map_placements, List.map_map, List.forall₂_map_left_iff,
        List.forall₂_map_right_iff, List.forall₂_same]
      rintro ⟨route, destination, port⟩ _
      exact (showsService_toJson template route destination port).2

end Synthesizer

end Ingress
