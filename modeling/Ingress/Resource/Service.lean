import Ingress.Resource.Basic
import Ingress.Resource.ServiceStatus

/-!
# Services

A service gives a stable name and port to the pods that a selector picks. Only its selector
and ports are written by this program; the rest of its specification and its status belong to
the cluster and are carried along, every part of them.
-/

namespace Ingress

/-- A port by its number or by its name. -/
inductive PortTarget where
  /-- A port number. -/
  | number (port : Int32)
  /-- The name of a port. -/
  | named (name : String)
  deriving DecidableEq

/-- A port of a service. -/
structure ServicePort where
  /-- The protocol that applications speak on the port. -/
  appProtocol : Option String := none
  /-- The name of the port. -/
  name : Option String := none
  /-- The port on every node. -/
  nodePort : Option Int32 := none
  /-- The port. -/
  port : Int32
  /-- The transport protocol. -/
  protocol : Option String := none
  /-- The port of the pods. -/
  targetPort : Option PortTarget := none
  deriving DecidableEq

/-- How a client stays with one pod by its address. -/
structure ClientIPConfig where
  /-- For how many seconds. -/
  timeoutSeconds : Option Int32 := none
  deriving DecidableEq

/-- How a client stays with one pod. -/
structure SessionAffinityConfig where
  /-- How it does by its address. -/
  clientIP : Option ClientIPConfig := none
  deriving DecidableEq

/-- What a service asks for, and what the cluster has assigned to it. -/
structure ServiceSpec where
  /-- Whether a load balancer gets a port on every node. -/
  allocateLoadBalancerNodePorts : Option Bool := none
  /-- The address of the service. -/
  clusterIP : Option String := none
  /-- All addresses of the service. -/
  clusterIPs : Option (List String) := none
  /-- Addresses outside of the cluster. -/
  externalIPs : Option (List String) := none
  /-- The name outside of the cluster that the service stands for. -/
  externalName : Option String := none
  /-- Which pods serve traffic from outside of the cluster. -/
  externalTrafficPolicy : Option String := none
  /-- The port on every node that says whether pods are there. -/
  healthCheckNodePort : Option Int32 := none
  /-- Which pods serve traffic from inside of the cluster. -/
  internalTrafficPolicy : Option String := none
  /-- The address families. -/
  ipFamilies : Option (List String) := none
  /-- How address families are chosen. -/
  ipFamilyPolicy : Option String := none
  /-- The class of the load balancer. -/
  loadBalancerClass : Option String := none
  /-- The address of the load balancer. -/
  loadBalancerIP : Option String := none
  /-- The addresses that the load balancer lets in. -/
  loadBalancerSourceRanges : Option (List String) := none
  /-- The ports. -/
  ports : Option (List ServicePort) := none
  /-- Whether pods that are not ready count. -/
  publishNotReadyAddresses : Option Bool := none
  /-- The labels of the pods behind the service. -/
  selector : Option Labels := none
  /-- Whether a client stays with one pod. -/
  sessionAffinity : Option String := none
  /-- How a client stays with one pod. -/
  sessionAffinityConfig : Option SessionAffinityConfig := none
  /-- How traffic is spread over the pods. -/
  trafficDistribution : Option String := none
  /-- The type of the service. -/
  type : Option String := none
  deriving DecidableEq

/-- A service. -/
structure Service where
  /-- What the object says about itself. -/
  metadata : Metadata := {}
  /-- What it asks for. -/
  spec : Option ServiceSpec := none
  /-- What the cluster reports. -/
  status : Option ServiceStatus := none
  deriving DecidableEq

namespace PortTarget

/-- The written form. -/
def toJson : PortTarget → Json
  | .number port => .integer port.toInt
  | .named name => .string name

/-- The shape of a port number or name. -/
def shape : Json.Shape PortTarget := .scalar fun
  | .string name => .ok (.named name)
  | value => (Json.Shape.int32.ofJson value).map .number

end PortTarget

namespace ServicePort

/-- The written form. -/
def toJson (p : ServicePort) : Json :=
  .ofFields [
    p.appProtocol.map fun protocol => ("appProtocol", .string protocol),
    p.name.map fun name => ("name", .string name),
    p.nodePort.map fun n => ("nodePort", .integer n.toInt),
    some ("port", .integer p.port.toInt),
    p.protocol.map fun protocol => ("protocol", .string protocol),
    p.targetPort.map fun target => ("targetPort", target.toJson)]

/-- The shape of a port; an absent number is zero. -/
def shape : Json.Shape ServicePort := .looseRecord <|
  ServicePort.mk <$> .loose "appProtocol" .text <*> .loose "name" .text <*>
    .loose "nodePort" .int32 <*> .looseOr "port" 0 .int32 <*> .loose "protocol" .text <*>
    .loose "targetPort" PortTarget.shape

end ServicePort

namespace ClientIPConfig

/-- The written form. -/
def toJson (config : ClientIPConfig) : Json :=
  .ofFields [config.timeoutSeconds.map fun n => ("timeoutSeconds", .integer n.toInt)]

/-- The shape of how a client stays with one pod by its address. -/
def shape : Json.Shape ClientIPConfig :=
  .looseRecord (ClientIPConfig.mk <$> .loose "timeoutSeconds" .int32)

end ClientIPConfig

namespace SessionAffinityConfig

/-- The written form. -/
def toJson (config : SessionAffinityConfig) : Json :=
  .ofFields [config.clientIP.map fun config => ("clientIP", config.toJson)]

/-- The shape of how a client stays with one pod. -/
def shape : Json.Shape SessionAffinityConfig :=
  .looseRecord (SessionAffinityConfig.mk <$> .loose "clientIP" ClientIPConfig.shape)

end SessionAffinityConfig

namespace ServiceSpec

/-- The written form. -/
def toJson (spec : ServiceSpec) : Json :=
  .ofFields [
    spec.allocateLoadBalancerNodePorts.map fun b => ("allocateLoadBalancerNodePorts", .bool b),
    spec.clusterIP.map fun ip => ("clusterIP", .string ip),
    spec.clusterIPs.map fun ips => ("clusterIPs", .ofList .string ips),
    spec.externalIPs.map fun ips => ("externalIPs", .ofList .string ips),
    spec.externalName.map fun name => ("externalName", .string name),
    spec.externalTrafficPolicy.map fun policy => ("externalTrafficPolicy", .string policy),
    spec.healthCheckNodePort.map fun n => ("healthCheckNodePort", .integer n.toInt),
    spec.internalTrafficPolicy.map fun policy => ("internalTrafficPolicy", .string policy),
    spec.ipFamilies.map fun families => ("ipFamilies", .ofList .string families),
    spec.ipFamilyPolicy.map fun policy => ("ipFamilyPolicy", .string policy),
    spec.loadBalancerClass.map fun name => ("loadBalancerClass", .string name),
    spec.loadBalancerIP.map fun ip => ("loadBalancerIP", .string ip),
    spec.loadBalancerSourceRanges.map fun ranges =>
      ("loadBalancerSourceRanges", .ofList .string ranges),
    spec.ports.map fun ports => ("ports", .ofList ServicePort.toJson ports),
    spec.publishNotReadyAddresses.map fun b => ("publishNotReadyAddresses", .bool b),
    spec.selector.map fun selector => ("selector", selector.toJson),
    spec.sessionAffinity.map fun affinity => ("sessionAffinity", .string affinity),
    spec.sessionAffinityConfig.map fun config => ("sessionAffinityConfig", config.toJson),
    spec.trafficDistribution.map fun name => ("trafficDistribution", .string name),
    spec.type.map fun type => ("type", .string type)]

/-- The shape of what a service asks for. -/
def shape : Json.Shape ServiceSpec := .looseRecord <|
  ServiceSpec.mk <$> .loose "allocateLoadBalancerNodePorts" .bool <*>
    .loose "clusterIP" .text <*> .loose "clusterIPs" (.list .text) <*>
    .loose "externalIPs" (.list .text) <*> .loose "externalName" .text <*>
    .loose "externalTrafficPolicy" .text <*> .loose "healthCheckNodePort" .int32 <*>
    .loose "internalTrafficPolicy" .text <*> .loose "ipFamilies" (.list .text) <*>
    .loose "ipFamilyPolicy" .text <*> .loose "loadBalancerClass" .text <*>
    .loose "loadBalancerIP" .text <*> .loose "loadBalancerSourceRanges" (.list .text) <*>
    .loose "ports" (.list ServicePort.shape) <*> .loose "publishNotReadyAddresses" .bool <*>
    .loose "selector" Labels.shape <*> .loose "sessionAffinity" .text <*>
    .loose "sessionAffinityConfig" SessionAffinityConfig.shape <*>
    .loose "trafficDistribution" .text <*> .loose "type" .text

end ServiceSpec

namespace Service

/-- The version of services. -/
def apiVersion : String := "v1"

/-- The kind of services. -/
def kind : String := "Service"

/-- The written form. -/
def toJson (service : Service) : Json :=
  Resource.envelope apiVersion kind service.metadata [
    service.spec.map fun spec => ("spec", spec.toJson),
    service.status.map fun status => ("status", status.toJson)]

/-- A field that may be absent but has no other value than the given one. -/
def fixedField (name value : String) : Json.Fields Unit :=
  (fun _ => ()) <$> .last name (.textAs fun text =>
    if text = value then .ok () else .error .invalidValue)

/-- The shape of a service; absent metadata are empty ones, and a version or a kind that is there
has to be the one of services. -/
def shape : Json.Shape Service := .looseRecord <|
  (fun _ _ => Service.mk) <$> fixedField "apiVersion" apiVersion <*> fixedField "kind" kind <*>
    .looseOr "metadata" {} Metadata.shape <*> .loose "spec" ServiceSpec.shape <*>
    .loose "status" ServiceStatus.shape

instance : Resource Service where
  kind := kind
  apiVersion := apiVersion
  plural := "services"
  metadata := metadata
  withMetadata service metadata := { service with metadata }
  toJson := toJson
  shape := shape

end Service

end Ingress
