import Ingress.Resource.Basic

/-!
# Routes

A route is the intent to serve one hostname and path from a list of destinations. Its
hostname is `host.domain`, or the bare domain, and its URL is the one that was given for it,
or the hostname followed by the path.
-/

namespace Ingress

/-- The domain of a route. -/
structure Domain where
  /-- The name of the domain. -/
  name : String
  /-- Whether the domain is reachable from inside the mesh only. -/
  internal : Bool := false
  deriving DecidableEq

/-- A process of an application that serves a route. -/
structure Destination where
  /-- The identifier of the destination. -/
  guid : String
  /-- The share of the traffic, in percent. -/
  weight : Option Int32 := none
  /-- The port, once it has been assigned. -/
  port : Option Int32 := none
  /-- The identifier of the application. -/
  appGuid : String
  /-- The type of the process. -/
  processType : String
  /-- The labels of the process's pods. -/
  selector : Labels := ∅
  deriving DecidableEq

/-- The intent to serve a hostname and a path. -/
structure Route where
  /-- What the route says about itself. -/
  metadata : Metadata
  /-- The part of the hostname before the domain; empty for the bare domain. -/
  host : String := ""
  /-- The path that a request has to begin with; empty for every path. -/
  path : String := ""
  /-- The URL as given; empty where none was given. -/
  url : String := ""
  /-- The domain. -/
  domain : Domain
  /-- The destinations, in order. -/
  destinations : List Destination := []
  deriving DecidableEq

namespace Domain

/-- The written form. -/
def toJson (domain : Domain) : Json :=
  .object [("internal", .bool domain.internal), ("name", .string domain.name)]

/-- The shape of a domain. -/
def shape : Json.Shape Domain := .record "RouteDomain" <|
  Domain.mk <$> .required "name" .text <*> .defaulted "internal" false .bool

end Domain

namespace Destination

/-- The written form. -/
def toJson (d : Destination) : Json :=
  .ofFields [
    some ("app", .object [
      ("guid", .string d.appGuid),
      ("process", .object [("type", .string d.processType)])]),
    some ("guid", .string d.guid),
    some ("port", .ofOption (fun n => .integer n.toInt) d.port),
    some ("selector", .object [("matchLabels", d.selector.toJson)]),
    d.weight.map fun n => ("weight", .integer n.toInt)]

/-- The shape of the type of a process. -/
def processTypeShape : Json.Shape String :=
  .record "AppProcess" (.required "type" .text)

/-- The shape of the identifier of an application and the type of its process. -/
def appShape : Json.Shape (String × String) := .record "DestinationApp" <|
  Prod.mk <$> .required "guid" .text <*> .required "process" processTypeShape

/-- The shape of the labels of a selector. -/
def selectorShape : Json.Shape Labels :=
  .record "DestinationSelector" (.defaulted "matchLabels" ∅ Labels.shape)

/-- A destination with the application and the process that it belongs to. -/
def ofParts (guid : String) (weight port : Option Int32) (app : String × String)
    (selector : Labels) : Destination where
  guid := guid
  weight := weight
  port := port
  appGuid := app.1
  processType := app.2
  selector := selector

/-- The shape of a destination. -/
def shape : Json.Shape Destination := .record "RouteDestination" <|
  ofParts <$> .required "guid" .text <*> .optional "weight" .int32 <*> .nullable "port" .int32 <*>
    .required "app" appShape <*> .defaulted "selector" ∅ selectorShape

/-- A destination is materialized once it has a port. -/
def materialized (d : Destination) : Bool := d.port.isSome

/-- The name of the service of a destination; a service name may not begin with a digit. -/
def serviceName (d : Destination) : String := "s-" ++ d.guid

end Destination

namespace Route

/-- The version of routes. -/
def apiVersion : String := "networking.cloudfoundry.org/v1alpha1"

/-- The kind of routes. -/
def kind : String := "Route"

/-- The written form. -/
def toJson (route : Route) : Json :=
  Resource.envelope apiVersion kind route.metadata [
    some ("spec", .ofFields [
      some ("destinations", .ofList Destination.toJson route.destinations),
      some ("domain", route.domain.toJson),
      some ("host", .string route.host),
      if route.path = "" then none else some ("path", .string route.path),
      some ("url", .string route.url)])]

/-- The route with some specification, once its metadata are known. -/
def ofSpec (host path url : String) (domain : Domain) (destinations : List Destination)
    (metadata : Metadata) : Route :=
  { metadata, host, path, url, domain, destinations }

/-- The shape of the specification of a route. -/
def specShape : Json.Shape (Metadata → Route) := .record "RouteSpec" <|
  ofSpec <$> .defaulted "host" "" .text <*> .defaulted "path" "" .text <*>
    .defaulted "url" "" .text <*> .required "domain" Domain.shape <*>
    .defaulted "destinations" [] (.list Destination.shape)

/-- The shape of a route. -/
def shape : Json.Shape Route := .record "Route" <|
  (fun metadata spec => spec metadata) <$> .required "metadata" Metadata.shape <*>
    .required "spec" specShape

instance : Resource Route where
  kind := kind
  apiVersion := apiVersion
  plural := "routes"
  metadata := metadata
  withMetadata route metadata := { route with metadata }
  toJson := toJson
  shape := shape

/-- The name of a route. -/
def name (route : Route) : String := route.metadata.displayName

/-- The namespace of a route. -/
def ns (route : Route) : Option String := route.metadata.ns

/-- The hostname that a route serves. -/
def fqdn (route : Route) : String :=
  if route.host = "" then route.domain.name else route.host ++ "." ++ route.domain.name

/-- The full URL of a route, by which the routes of a hostname are put in order. -/
def fullUrl (route : Route) : String :=
  if route.url = "" then route.fqdn ++ route.path else route.url

/-- The value of a label of a route, nothing where it has none. -/
def label (route : Route) (key : String) : String :=
  Labels.valueOf route.metadata.labels key

/-- A route that has been asked to go. -/
def terminating (route : Route) : Bool := route.metadata.deletionTimestamp.isSome

/-- The destinations that take part in weights and backends. -/
def materialized (route : Route) : List Destination :=
  route.destinations.filter Destination.materialized

end Route

end Ingress
