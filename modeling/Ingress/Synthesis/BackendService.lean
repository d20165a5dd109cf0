import Ingress.Log
import Ingress.Resource.Service
import Ingress.Synthesis.Naming

/-!
# The services of a route

Every materialized destination of a route gets a service of its own, which the route owns. A
destination without a port is skipped, and the log says so.
-/

namespace Ingress

namespace Service

/-- The labels of a destination's service. -/
def labelsOf (template : Labels) (route : Route) (destination : Destination) : Labels :=
  (((managedLabels template).insert appGuidLabel destination.appGuid).insert
    processTypeLabel destination.processType).insert routeGuidLabel route.name

/-- The service of a destination at a port. Protocol and target port are spelled out although
the cluster would fill them in, so that an unchanged service compares equal. -/
def ofDestination (template : Labels) (route : Route) (destination : Destination) (port : Int32) :
    Service where
  metadata := {
    name := some destination.serviceName
    ns := route.ns
    labels := some (labelsOf template route destination)
    annotations := some (Std.ExtTreeMap.ofList [(routeFqdnKey, route.fqdn)])
    ownerReferences := some [route.ownerReference] }
  spec := some {
    selector := some destination.selector
    ports := some [{
      name := some "http"
      port
      protocol := some "TCP"
      targetPort := some (.number port) }] }

end Service

namespace Route

/-- The services of a route, in the order of its destinations. -/
def services (template : Labels) (route : Route) : List Service :=
  route.destinations.filterMap fun destination =>
    destination.port.map (Service.ofDestination template route destination)

/-- What the log says while a route's services are built. -/
def serviceLog (route : Route) : Log :=
  route.destinations.filterMap fun destination =>
    if destination.materialized then none
    else some {
      level := .warn
      message := "Destination " ++ destination.guid ++ " of route " ++ route.name ++
        " has no port, skipping its service" }

end Route

end Ingress
