import Ingress.Proofs.Synthesis.Provider

/-!
# The backends of ingress objects

An ingress object names the services that it sends traffic to. For both renderers these are the
backends of its group, so each is the placeholder or the service of a destination of one of the
hostname's routes, and that service is among the services of the routes
(`exists_service_of_mem_backendNames`).
-/

namespace Ingress

/-- A kind of ingress objects, which send traffic to services. -/
class Routed (K : Type) where
  /-- The names of the services that an object sends traffic to. -/
  backendNames : K → List String

instance : Routed VirtualService where
  backendNames object := object.spec.rules.flatMap fun rule =>
    rule.destinations.map MeshDestination.host

instance : Routed HttpProxy where
  backendNames object := object.spec.routes.flatMap fun route =>
    route.services.map ProxyService.name

instance : (provider : Provider) → Routed provider.Object
  | .istio => inferInstanceAs (Routed VirtualService)
  | .contour => inferInstanceAs (Routed HttpProxy)

/-- The names of the services of backends, of which the placeholder has none. -/
def Backends.names : Backends → List String
  | .weighted backends => backends.map fun backend => backend.destination.serviceName
  | .placeholder => [placeholderName]

/-- Objects that agree send traffic to the same services. -/
theorem Managed.Agrees.backendNames_eq {provider : Provider} {live desired : provider.Object}
    (h : Managed.Agrees live desired) :
    Routed.backendNames live = Routed.backendNames desired := by
  cases provider with
  | istio =>
    have hspec : VirtualService.spec live = VirtualService.spec desired := h.asks
    exact congrArg (fun spec : VirtualServiceSpec => spec.rules.flatMap fun rule =>
      rule.destinations.map MeshDestination.host) hspec
  | contour =>
    have hspec : HttpProxy.spec live = HttpProxy.spec desired := h.asks
    exact congrArg (fun spec : HttpProxySpec => spec.routes.flatMap fun route =>
      route.services.map ProxyService.name) hspec

/-- The destinations of a rule of a virtual service are its backends. -/
theorem VirtualService.map_host_destinationsOf (backends : Backends) :
    (destinationsOf backends).map MeshDestination.host = backends.names := by
  cases backends with
  | placeholder => rfl
  | weighted backends => exact List.map_map

/-- The services of a route of a proxy are its backends. -/
theorem HttpProxy.map_name_servicesOf (backends : Backends) :
    (servicesOf backends).map ProxyService.name = backends.names := by
  cases backends with
  | placeholder => rfl
  | weighted backends => exact List.map_map

/-- Both renderers send traffic to the backends of the group. -/
theorem Config.backendNames_render (config : Config) (provider : Provider) (group : HostGroup)
    (metadata : Metadata) :
    Routed.backendNames ((config.rendererFor provider).render group metadata) =
      group.rules.flatMap fun rule => rule.backends.names := by
  cases provider with
  | istio =>
    change (group.rules.map VirtualService.ruleOf).flatMap _ = _
    rw [List.flatMap_map]
    exact List.flatMap_congr fun rule _ => VirtualService.map_host_destinationsOf rule.backends
  | contour =>
    change (group.rules.map (HttpProxy.routeOf _)).flatMap _ = _
    rw [List.flatMap_map]
    exact List.flatMap_congr fun rule _ => HttpProxy.map_name_servicesOf rule.backends

/-- The backends of a route's rule are destinations of the route, or the placeholder. -/
theorem Rule.mem_names_of_ofRoute? {requireSum sole : Bool} {route : Route} {rule : Rule}
    (h : ofRoute? requireSum sole route = .ok (some rule)) {name : String}
    (hname : name ∈ rule.backends.names) :
    name = placeholderName ∨
      ∃ destination ∈ route.materialized, destination.serviceName = name := by
  cases hbackends : rule.backends with
  | weighted backends =>
    rw [hbackends] at hname
    obtain ⟨backend, hbackend, rfl⟩ := List.mem_map.mp hname
    obtain ⟨destination, hdestination, weight, rfl⟩ :=
      (of_ofRoute? h).exists_of_mem hbackends hbackend
    exact Or.inr ⟨destination, hdestination, rfl⟩
  | placeholder =>
    rw [hbackends] at hname
    exact Or.inl (List.mem_singleton.mp hname)

/-- What a synthesized object sends traffic to is the placeholder or a service that is
synthesized along with it, in its namespace. -/
theorem Config.exists_service_of_mem_backendNames (config : Config) {routes : List Route}
    {object : config.provider.Object}
    (hobject : object ∈ (config.synthesizer.synthesize routes).objects) {name : String}
    (hname : name ∈ Routed.backendNames object) :
    name = placeholderName ∨
      ⟨(Resource.key object).ns, name⟩ ∈
        (config.synthesizer.services routes).map Resource.key := by
  obtain ⟨fqdn, _, group, hgroup, rfl⟩ := Synthesizer.mem_objects.mp hobject
  have hnames := config.backendNames_render config.provider group
    (config.synthesizer.metadata group)
  rw [show Routed.backendNames (config.synthesizer.objectOf group) = _ from hnames,
    List.mem_flatMap] at hname
  obtain ⟨rule, hrule, hname⟩ := hname
  obtain ⟨route, hroute, hof⟩ := hgroup.of.rule_of rule hrule
  refine (Rule.mem_names_of_ofRoute? hof hname).imp id ?_
  rintro ⟨destination, hdestination, rfl⟩
  obtain ⟨hmem, hmaterialized⟩ := List.mem_filter.mp hdestination
  obtain ⟨port, hport⟩ := Option.isSome_iff_exists.mp hmaterialized
  refine List.mem_map.mpr ⟨_, Synthesizer.mem_services.mpr
    ⟨route, (mem_routesOf.mp hroute).1, destination, hmem, port, hport, rfl⟩, ?_⟩
  rw [Synthesizer.key_objectOf config.lawful_synthesizer, hgroup.of.ns_eq route hroute]
  rfl

end Ingress
