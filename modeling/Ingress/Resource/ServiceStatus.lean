import Ingress.Resource.Metadata

/-!
# What the cluster reports about a service

Where a load balancer serves it, and which conditions hold of it. This program writes nothing of
that. What is written for an entry is there in any case, so an absent number is zero, an absent
text is empty and an absent point in time is the epoch.
-/

namespace Ingress

/-- What has become of one port of a load balancer. -/
structure PortStatus where
  /-- Why the port is not served. -/
  error : Option String := none
  /-- The port. -/
  port : Int32
  /-- The transport protocol. -/
  protocol : String
  deriving DecidableEq

/-- A place where a load balancer serves. -/
structure LoadBalancerPlace where
  /-- The name of the place. -/
  hostname : Option String := none
  /-- The address of the place. -/
  ip : Option String := none
  /-- Whether the address belongs to the load balancer or to the nodes. -/
  ipMode : Option String := none
  /-- The ports. -/
  ports : Option (List PortStatus) := none
  deriving DecidableEq

/-- What is reported about a load balancer. -/
structure LoadBalancerStatus where
  /-- The places where it serves. -/
  places : Option (List LoadBalancerPlace) := none
  deriving DecidableEq

/-- Whether something holds of an object. -/
structure Condition where
  /-- Since when it does or does not. -/
  lastTransitionTime : Timestamp
  /-- The reason for a reader. -/
  message : String
  /-- The generation of the object that was looked at. -/
  observedGeneration : Option Int64 := none
  /-- The reason in one word. -/
  reason : String
  /-- Whether it does: true, false or unknown. -/
  status : String
  /-- What holds or does not. -/
  type : String
  deriving DecidableEq

/-- What the cluster reports about a service. -/
structure ServiceStatus where
  /-- What holds of the service, and what does not. -/
  conditions : Option (List Condition) := none
  /-- The load balancer. -/
  loadBalancer : Option LoadBalancerStatus := none
  deriving DecidableEq

namespace PortStatus

/-- The written form. -/
def toJson (p : PortStatus) : Json :=
  .ofFields [
    p.error.map fun error => ("error", .string error),
    some ("port", .integer p.port.toInt),
    some ("protocol", .string p.protocol)]

/-- The shape of what has become of a port. -/
def shape : Json.Shape PortStatus := .looseRecord <|
  PortStatus.mk <$> .loose "error" .text <*> .looseOr "port" 0 .int32 <*>
    .looseOr "protocol" "" .text

end PortStatus

namespace LoadBalancerPlace

/-- The written form. -/
def toJson (place : LoadBalancerPlace) : Json :=
  .ofFields [
    place.hostname.map fun hostname => ("hostname", .string hostname),
    place.ip.map fun ip => ("ip", .string ip),
    place.ipMode.map fun mode => ("ipMode", .string mode),
    place.ports.map fun ports => ("ports", .ofList PortStatus.toJson ports)]

/-- The shape of a place. -/
def shape : Json.Shape LoadBalancerPlace := .looseRecord <|
  LoadBalancerPlace.mk <$> .loose "hostname" .text <*> .loose "ip" .text <*>
    .loose "ipMode" .text <*> .loose "ports" (.list PortStatus.shape)

end LoadBalancerPlace

namespace LoadBalancerStatus

/-- The written form. -/
def toJson (balancer : LoadBalancerStatus) : Json :=
  .ofFields [
    balancer.places.map fun places => ("ingress", .ofList LoadBalancerPlace.toJson places)]

/-- The shape of what is reported about a load balancer. -/
def shape : Json.Shape LoadBalancerStatus := .looseRecord <|
  LoadBalancerStatus.mk <$> .loose "ingress" (.list LoadBalancerPlace.shape)

end LoadBalancerStatus

namespace Condition

/-- The written form. -/
def toJson (condition : Condition) : Json :=
  .ofFields [
    some ("lastTransitionTime", .string condition.lastTransitionTime.text),
    some ("message", .string condition.message),
    condition.observedGeneration.map fun n => ("observedGeneration", .integer n.toInt),
    some ("reason", .string condition.reason),
    some ("status", .string condition.status),
    some ("type", .string condition.type)]

/-- The shape of a condition. -/
def shape : Json.Shape Condition := .looseRecord <|
  Condition.mk <$> .looseOr "lastTransitionTime" .epoch Timestamp.shape <*>
    .looseOr "message" "" .text <*> .loose "observedGeneration" .int64 <*>
    .looseOr "reason" "" .text <*> .looseOr "status" "" .text <*> .looseOr "type" "" .text

end Condition

namespace ServiceStatus

/-- The written form. -/
def toJson (status : ServiceStatus) : Json :=
  .ofFields [
    status.conditions.map fun conditions => ("conditions", .ofList Condition.toJson conditions),
    status.loadBalancer.map fun balancer => ("loadBalancer", balancer.toJson)]

/-- The shape of what the cluster reports. -/
def shape : Json.Shape ServiceStatus := .looseRecord <|
  ServiceStatus.mk <$> .loose "conditions" (.list Condition.shape) <*>
    .loose "loadBalancer" LoadBalancerStatus.shape

end ServiceStatus

end Ingress
