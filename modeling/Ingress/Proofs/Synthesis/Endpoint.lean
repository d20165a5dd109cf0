import Ingress.Proofs.Synthesis.Isolation
import Ingress.Proofs.Synthesis.RuleView

/-!
# The services behind the backends

The rules of an ingress object and the services of the routes are made apart from each other, by
two walks over the same destinations. Both walks select the same destinations in the same order, so
that the backends of a rule are the services of its route, one by one: by name, by namespace, by
port and by owner (`Config.backends_are_services`).
-/

namespace Ingress

/-- The services of a route are those of its materialized destinations, one by one. -/
theorem Route.forall₂_services (labels : Labels) (route : Route) :
    List.Forall₂ (fun destination service => ∃ port, destination.port = some port ∧
        service = Service.ofDestination labels route destination port)
      route.materialized (route.services labels) := by
  have hpairs : List.Forall₂
      (fun destination service => (Destination.port destination).map
        (Service.ofDestination labels route destination) = service) route.destinations
      (route.destinations.map fun destination =>
        destination.port.map (Service.ofDestination labels route destination)) :=
    List.forall₂_map_right_iff.mpr (List.forall₂_same.mpr fun _ _ => rfl)
  have hselected := forall₂_filterMap_id (p := Destination.materialized) hpairs ?_
  · rw [List.filterMap_map] at hselected
    refine hselected.imp fun destination service hservice => ?_
    obtain ⟨port, hport, rfl⟩ := Option.map_eq_some_iff.mp hservice
    exact ⟨port, hport, rfl⟩
  · rintro destination _ rfl
    rw [Option.isSome_map]
    rfl

/-- Where a route has no materialized destinations it has no services. -/
theorem Route.services_eq_nil_iff {labels : Labels} {route : Route} :
    route.services labels = [] ↔ route.materialized = [] := by
  have hlength := (route.forall₂_services labels).length_eq
  rw [← List.length_eq_zero_iff, ← List.length_eq_zero_iff, hlength]

/-- A backend that a service stands behind. -/
structure Endpoint.Reaches (provider : Provider) (ns : Option String) (owner : OwnerReference)
    (endpoint : Endpoint) (service : Service) : Prop where
  /-- The backend is the service by its name. -/
  name_eq : service.metadata.name = some endpoint.service
  /-- The service lies in the namespace. -/
  ns_eq : service.metadata.ns = ns
  /-- The service has the owner and no other. -/
  owners_eq : service.metadata.ownerReferences = some [owner]
  /-- The service has one port, which it serves under the same number, and if the backend says a
  port then it says this one. -/
  port_eq : ∃ spec port, service.spec = some spec ∧ spec.ports = some [port] ∧
    port.targetPort = some (.number port.port) ∧ endpoint.port = provider.portOf port.port

/-- A rule whose backends are the services of a route. -/
structure RuleView.Serves (provider : Provider) (labels : Labels) (ns : Option String)
    (rule : RuleView) (route : Route) : Prop where
  /-- Where the route has materialized destinations, the backends are its services, in order. -/
  reaches : route.materialized ≠ [] →
    List.Forall₂ (Endpoint.Reaches provider ns route.ownerReference) rule.endpoints
      (route.services labels)
  /-- The rule sends requests to the placeholder where the route has no services, and only then. -/
  placeholder : (∃ endpoint ∈ rule.endpoints, endpoint.service = placeholderName) ↔
    route.services labels = []

/-- No destination has a service of the name of the placeholder. -/
theorem Destination.serviceName_ne_placeholderName (destination : Destination) :
    destination.serviceName ≠ placeholderName := by
  intro h
  have hletters := congrArg String.toList h
  rw [serviceName, String.toList_append] at hletters
  exact absurd (List.head_eq_of_cons_eq hletters) (by decide)

namespace Rule

/-- The backends of the rule of a route with materialized destinations are these, one by one. -/
theorem Of.endpoints_viewOf (provider : Provider) {requireSum sole : Bool} {route : Route}
    {rule : Rule} (h : Of requireSum sole route rule) {backends : List Backend}
    (hbackends : rule.backends = .weighted backends) :
    (provider.viewOf rule).endpoints = route.materialized.map fun destination => {
      service := destination.serviceName
      port := provider.portOf (destination.port.getD HttpProxy.placeholderPort) } := by
  unfold Provider.viewOf
  rw [← h.map_destination hbackends, hbackends, List.map_map]
  rfl

/-- The rule of a route serves the services of the route. -/
theorem Of.serves (provider : Provider) (labels : Labels) {requireSum sole : Bool} {route : Route}
    {rule : Rule} (h : Of requireSum sole route rule) :
    (provider.viewOf rule).Serves provider labels route.ns route := by
  rcases h.backends_eq with ⟨hmaterialized, _, _, hbackends⟩ | ⟨hmaterialized, _, hbackends⟩
  · have hendpoints := h.endpoints_viewOf provider hbackends
    constructor
    · intro _
      rw [hendpoints, List.forall₂_map_left_iff]
      refine (route.forall₂_services labels).imp fun destination service hservice => ?_
      obtain ⟨port, hport, rfl⟩ := hservice
      refine ⟨rfl, rfl, rfl, _, _, rfl, rfl, rfl, ?_⟩
      -- A materialized destination has a port, so the default is never taken.
      rw [hport]
      rfl
    · refine iff_of_false ?_ (mt Route.services_eq_nil_iff.mp hmaterialized)
      rintro ⟨endpoint, hendpoint, hname⟩
      rw [hendpoints] at hendpoint
      obtain ⟨destination, _, rfl⟩ := List.mem_map.mp hendpoint
      exact destination.serviceName_ne_placeholderName hname
  · constructor
    · intro hne
      exact absurd hmaterialized hne
    · refine iff_of_true ?_ (Route.services_eq_nil_iff.mpr hmaterialized)
      unfold Provider.viewOf
      rw [hbackends]
      exact ⟨_, List.mem_singleton_self _, rfl⟩

end Rule

namespace Config

/-- Whatever the provider, its settings and the labels: every synthesized object belongs to a
hostname, its rules are those of the routes of that hostname that have one, in match order, and its
owners are these routes. The backends of each rule are the services of its route, in order and with
multiplicity, each in the namespace of the object, owned by the owner that the object has for the
rule, and at the port that the backend says; a placeholder stands for a route without services. -/
theorem backends_are_services (config : Config) {routes : List Route}
    {object : config.provider.Object}
    (hobject : object ∈ (config.synthesizer.synthesize routes).objects) :
    ∃ fqdn, Resource.annotation? object fqdnKey = some fqdn ∧
      (Resource.metadata object).ownerReferences =
        some ((ruledRoutes (routesOf fqdn routes)).map Route.ownerReference) ∧
      List.Forall₂
        (RuleView.Serves config.provider config.labels (Resource.ns object))
        (Ruled.rules object) (ruledRoutes (routesOf fqdn routes)) := by
  obtain ⟨fqdn, _, group, hgroup, rfl⟩ := Synthesizer.mem_objects.mp hobject
  have hlawful := config.lawful_synthesizer
  have hroutes := HostGroup.map_route_rules hgroup
  refine ⟨fqdn, ?_, ?_, ?_⟩
  · rw [Synthesizer.annotation?_objectOf hlawful, hgroup.of.fqdn_eq]
  · rw [Synthesizer.metadata_objectOf hlawful, ← hroutes, List.map_map]
    rfl
  · rw [config.rules_objectOf, Synthesizer.ns_objectOf hlawful, ← hroutes,
      List.forall₂_map_left_iff, List.forall₂_map_right_iff, List.forall₂_same]
    intro rule hrule
    obtain ⟨hroute, hof⟩ := hgroup.of.rule_mem hrule
    rw [hgroup.of.ns_eq _ hroute]
    exact hof.serves config.provider config.labels

/-- A route with a destination that waits for its port between two others, of which the second has
the port zero. -/
def cartRoute : Route where
  metadata := { name := some "cart", ns := some "apps" }
  host := "cart"
  domain := { name := "example.com" }
  destinations := [
    { guid := "a", port := some 9000, appGuid := "app", processType := "web" },
    { guid := "b", port := none, appGuid := "app", processType := "web" },
    { guid := "c", port := some 0, appGuid := "app", processType := "worker" }]

/-- The rule of the sample route. -/
def cartRule : RuleView where
  pathPrefixes := []
  endpoints := [{ service := "s-a", port := some 9000 }, { service := "s-c", port := some 0 }]

/-- The one rule of the sample route's object reaches the two services of the route. -/
theorem backends_are_services_cartRoute :
    ∃ object ∈ (proxyConfig.synthesizer.synthesize [cartRoute]).objects,
      Ruled.rules object = [cartRule] ∧
      cartRule.Serves .contour proxyConfig.labels (Resource.ns object) cartRoute := by
  have hroutes : routesOf "cart.example.com" [cartRoute] = [cartRoute] := by decide
  have hordered : inMatchOrder [cartRoute] = [cartRoute] := List.mergeSort_singleton _
  have hgroup : ∃ group, proxyConfig.synthesizer.HasGroup [cartRoute] "cart.example.com" group ∧
      group.rules.map proxyConfig.provider.viewOf = [cartRule] := by
    unfold Synthesizer.HasGroup HostGroup.ofRoutes?
    rw [hroutes, hordered]
    exact ⟨_, rfl, rfl⟩
  obtain ⟨group, hgroup, hrules⟩ := hgroup
  have hobject : proxyConfig.synthesizer.objectOf group ∈
      (proxyConfig.synthesizer.synthesize [cartRoute]).objects :=
    Synthesizer.mem_objects.mpr ⟨_, mem_hostnames.mpr
      ⟨cartRoute, List.mem_singleton_self _, by decide⟩, group, hgroup, rfl⟩
  have hview := (proxyConfig.rules_objectOf group).trans hrules
  obtain ⟨fqdn, hfqdn, _, hserves⟩ := backends_are_services proxyConfig hobject
  rw [Synthesizer.annotation?_objectOf proxyConfig.lawful_synthesizer, hgroup.of.fqdn_eq] at hfqdn
  cases hfqdn
  have hruled : ruledRoutes [cartRoute] = [cartRoute] := by
    unfold ruledRoutes
    rw [hordered]
    decide
  rw [hview, hroutes, hruled] at hserves
  exact ⟨_, hobject, hview, (List.forall₂_cons.mp hserves).1⟩

end Config

end Ingress
