import Ingress.Proofs.Synthesis.Provider

/-!
# Rules as both kinds of ingress objects have them

A virtual service and a proxy write a rule differently, but both name the path that a request has
to begin with and the services that it is sent to. `RuleView` is what they have in common, and
`Config.rules_render` says that both renderers write the rules of the group in their order.
-/

namespace Ingress

/-- A service that a rule sends requests to. -/
structure Endpoint where
  /-- The name of the service. -/
  service : String
  /-- The port of the service, where the object says it. -/
  port : Option Int32 := none
  deriving DecidableEq

/-- A rule of an ingress object. -/
structure RuleView where
  /-- The path beginnings that it asks for. -/
  pathPrefixes : List String
  /-- The services, in order. -/
  endpoints : List Endpoint
  deriving DecidableEq

namespace RuleView

/-- Whether a rule takes requests for a path: every path beginning that it asks for is one. -/
def accepts (rule : RuleView) (path : String) : Bool :=
  rule.pathPrefixes.all fun beginning => path.startsWith beginning

/-- The path beginning that a rule asks for, empty where it asks for none. -/
def pathPrefix (rule : RuleView) : String :=
  rule.pathPrefixes.headD ""

end RuleView

/-- A rule of a virtual service, which says no ports. -/
def MeshRule.view (rule : MeshRule) : RuleView where
  pathPrefixes := rule.pathPrefixes
  endpoints := rule.destinations.map fun d => { service := d.host }

/-- A route of a proxy. -/
def ProxyRoute.view (route : ProxyRoute) : RuleView where
  pathPrefixes := route.pathPrefixes
  endpoints := route.services.map fun s => { service := s.name, port := some s.port }

/-- A kind of ingress objects, which are lists of rules. -/
class Ruled (K : Type) where
  /-- The rules of an object, in order. -/
  rules : K → List RuleView

instance : Ruled VirtualService where
  rules object := object.spec.rules.map MeshRule.view

instance : Ruled HttpProxy where
  rules object := object.spec.routes.map ProxyRoute.view

instance : (provider : Provider) → Ruled provider.Object
  | .istio => inferInstanceAs (Ruled VirtualService)
  | .contour => inferInstanceAs (Ruled HttpProxy)

namespace Provider

/-- What the objects of a provider say about a port. -/
def portOf : Provider → Int32 → Option Int32
  | .istio, _ => none
  | .contour, port => some port

/-- The services of backends, as the objects of a provider say them. -/
def endpointsOf (provider : Provider) : Backends → List Endpoint
  | .weighted backends => backends.map fun backend => {
      service := backend.destination.serviceName
      port := provider.portOf (backend.destination.port.getD HttpProxy.placeholderPort) }
  | .placeholder =>
    [{ service := placeholderName, port := provider.portOf HttpProxy.placeholderPort }]

/-- A rule of a group, as the objects of a provider say it. -/
def viewOf (provider : Provider) (rule : Rule) : RuleView where
  pathPrefixes := rule.path.toList
  endpoints := provider.endpointsOf rule.backends

end Provider

/-- The rule of a virtual service says what the rule of the group says. -/
theorem VirtualService.view_ruleOf (rule : Rule) :
    (ruleOf rule).view = Provider.istio.viewOf rule := by
  cases hbackends : rule.backends <;>
    simp [MeshRule.view, ruleOf, Provider.viewOf, Provider.endpointsOf, Provider.portOf,
      destinationsOf, destinationOf, hbackends]

/-- The route of a proxy says what the rule of the group says. -/
theorem HttpProxy.view_routeOf (permitInsecure : Option Bool) (rule : Rule) :
    (routeOf permitInsecure rule).view = Provider.contour.viewOf rule := by
  cases hbackends : rule.backends <;>
    simp [ProxyRoute.view, routeOf, Provider.viewOf, Provider.endpointsOf, Provider.portOf,
      servicesOf, serviceOf, hbackends]

/-- Both renderers write the rules of the group, in their order. -/
theorem Config.rules_render (config : Config) (provider : Provider) (group : HostGroup)
    (metadata : Metadata) :
    Ruled.rules ((config.rendererFor provider).render group metadata) =
      group.rules.map provider.viewOf := by
  cases provider with
  | istio =>
    change (group.rules.map VirtualService.ruleOf).map MeshRule.view = _
    rw [List.map_map]
    exact List.map_congr_left fun rule _ => VirtualService.view_ruleOf rule
  | contour =>
    change (group.rules.map (HttpProxy.routeOf _)).map ProxyRoute.view = _
    rw [List.map_map]
    exact List.map_congr_left fun rule _ => HttpProxy.view_routeOf _ rule

/-- The rules of the object of a group are those of the group. -/
theorem Config.rules_objectOf (config : Config) (group : HostGroup) :
    Ruled.rules (config.synthesizer.objectOf group) =
      group.rules.map config.provider.viewOf :=
  config.rules_render config.provider group (config.synthesizer.metadata group)

end Ingress
