import Ingress.Resource.VirtualService
import Ingress.Synthesis.Rule

/-!
# Renderers

A renderer writes a hostname's rules as an ingress object of one kind. There are two: a mesh's
virtual service and a Contour proxy. Validation and order are not theirs; they differ in the
object they write, the stem of its name, and whether explicit weights have to sum to a hundred.
-/

namespace Ingress

/-- How the rules of a hostname become an ingress object. -/
structure Renderer (K : Type) where
  /-- What the name of every object begins with. -/
  stem : String
  /-- Whether explicit weights have to sum to a hundred. -/
  requireWeightSum : Bool
  /-- The object of a group with the given metadata. -/
  render : HostGroup → Metadata → K

/-- The host that stands for the destinations of a route that has none. -/
def placeholderName : String := "no-destinations"

namespace VirtualService

/-- The gateway of traffic inside the mesh. -/
def meshGateway : String := "mesh"

/-- The destination of a backend. -/
def destinationOf (backend : Backend) : MeshDestination where
  host := backend.destination.serviceName
  weight := some backend.weight
  headers := some {
    request := some {
      set := Std.ExtTreeMap.ofList (backend.headers.map fun header => (header.name, header.value)) } }

/-- The destinations of a rule. -/
def destinationsOf : Backends → List MeshDestination
  | .placeholder => [{ host := placeholderName }]
  | .weighted backends => backends.map destinationOf

/-- A rule of a virtual service. -/
def ruleOf (rule : Rule) : MeshRule where
  pathPrefixes := rule.path.toList
  destinations := destinationsOf rule.backends

/-- The gateways of a group: the mesh's for an internal one, else the configured ones. -/
def gatewaysOf (gateways : List String) (group : HostGroup) : List String :=
  if group.internal then [meshGateway] else gateways

/-- The virtual service of a group. -/
def ofGroup (gateways : List String) (group : HostGroup) (metadata : Metadata) :
    VirtualService where
  metadata
  spec := {
    hosts := [group.fqdn]
    gateways := gatewaysOf gateways group
    rules := group.rules.map ruleOf }

/-- Virtual services that are published through the given gateways. -/
def renderer (gateways : List String) : Renderer VirtualService where
  stem := "vs-"
  requireWeightSum := true
  render := ofGroup gateways

end VirtualService

namespace HttpProxy

/-- The port of the placeholder. -/
def placeholderPort : Int32 := 8080

/-- The service of a backend. -/
def serviceOf (backend : Backend) : ProxyService where
  name := backend.destination.serviceName
  port := backend.destination.port.getD placeholderPort
  weight := some backend.weight.toInt64
  requestHeaders := some backend.headers

/-- The services of a rule. -/
def servicesOf : Backends → List ProxyService
  | .placeholder => [{ name := placeholderName, port := placeholderPort }]
  | .weighted backends => backends.map serviceOf

/-- A route of a proxy. -/
def routeOf (permitInsecure : Option Bool) (rule : Rule) : ProxyRoute where
  pathPrefixes := rule.path.toList
  services := servicesOf rule.backends
  permitInsecure

/-- The secret of a group: the configured one, but none for an internal group. -/
def tlsOf (tlsSecretName : Option String) (group : HostGroup) : Option String :=
  if group.internal then none else tlsSecretName

/-- The proxy of a group. Where TLS is terminated every route says whether it also serves
requests without TLS. -/
def ofGroup (tlsSecretName : Option String) (httpsOnly : Bool) (group : HostGroup)
    (metadata : Metadata) : HttpProxy :=
  let tls := tlsOf tlsSecretName group
  { metadata
    spec := {
      virtualHost := some { fqdn := group.fqdn, tlsSecretName := tls }
      routes := group.rules.map (routeOf (tls.map fun _ => !httpsOnly)) } }

/-- Proxies that terminate TLS with the given secret. -/
def renderer (tlsSecretName : Option String) (httpsOnly : Bool) : Renderer HttpProxy where
  stem := "hp-"
  requireWeightSum := false
  render := ofGroup tlsSecretName httpsOnly

end HttpProxy

end Ingress
