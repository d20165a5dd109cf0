import Ingress.Resource.Basic

/-!
# HTTP proxies

The part of a Contour proxy that is written here: a virtual host, with a secret where it
terminates TLS, and an ordered list of routes that match paths and split their traffic among
services.
-/

namespace Ingress

/-- A header with its value. -/
structure Header where
  /-- The name. -/
  name : String
  /-- The value. -/
  value : String
  deriving DecidableEq

/-- A service of a proxy's route with its share of the traffic. -/
structure ProxyService where
  /-- The name of the service. -/
  name : String
  /-- The port of the service. -/
  port : Int32
  /-- The share of the traffic, relative to the other services. -/
  weight : Option Int64 := none
  /-- The request headers that are set, where headers are touched at all. -/
  requestHeaders : Option (List Header) := none
  deriving DecidableEq

/-- A route of a proxy. -/
structure ProxyRoute where
  /-- The path beginnings that all have to match; without any, every path matches. -/
  pathPrefixes : List String := []
  /-- The services. -/
  services : List ProxyService
  /-- Whether requests without TLS are served, where it was said. -/
  permitInsecure : Option Bool := none
  deriving DecidableEq

/-- The virtual host of a proxy. -/
structure VirtualHost where
  /-- The hostname. -/
  fqdn : String
  /-- The name of the secret that TLS is terminated with. -/
  tlsSecretName : Option String := none
  deriving DecidableEq

/-- What a proxy asks for. -/
structure HttpProxySpec where
  /-- The virtual host. -/
  virtualHost : Option VirtualHost := none
  /-- The routes, of which the first that matches counts. -/
  routes : List ProxyRoute := []
  deriving DecidableEq

/-- A proxy. -/
structure HttpProxy where
  /-- What the object says about itself. -/
  metadata : Metadata
  /-- What it asks for. -/
  spec : HttpProxySpec
  deriving DecidableEq

namespace Header

/-- The written form. -/
def toJson (header : Header) : Json :=
  .object [("name", .string header.name), ("value", .string header.value)]

/-- The shape of a header. -/
def shape : Json.Shape Header := .record "HeaderValue" <|
  Header.mk <$> .required "name" .text <*> .required "value" .text

end Header

namespace ProxyService

/-- The written form of the headers that are set; none at all are not written. -/
def headersToJson (headers : List Header) : Json :=
  .ofFields [if headers = [] then none else some ("set", .ofList Header.toJson headers)]

/-- The shape of the headers that are set. -/
def headersShape : Json.Shape (List Header) :=
  .record "HeadersPolicy" (.defaulted "set" [] (.list Header.shape))

/-- The written form. -/
def toJson (service : ProxyService) : Json :=
  .ofFields [
    some ("name", .string service.name),
    some ("port", .integer service.port.toInt),
    service.requestHeaders.map fun headers => ("requestHeadersPolicy", headersToJson headers),
    service.weight.map fun n => ("weight", .integer n.toInt)]

/-- The shape of a service. -/
def shape : Json.Shape ProxyService := .record "ProxyService" <|
  ProxyService.mk <$> .required "name" .text <*> .required "port" .int32 <*>
    .optional "weight" .int64 <*> .optional "requestHeadersPolicy" headersShape

end ProxyService

namespace ProxyRoute

/-- The written form of one path beginning. -/
def conditionToJson (path : String) : Json :=
  .object [("prefix", .string path)]

/-- The shape of one path beginning. -/
def conditionShape : Json.Shape String :=
  .record "MatchCondition" (.required "prefix" .text)

/-- The written form. -/
def toJson (route : ProxyRoute) : Json :=
  .ofFields [
    if route.pathPrefixes = [] then none
    else some ("conditions", .ofList conditionToJson route.pathPrefixes),
    route.permitInsecure.map fun b => ("permitInsecure", .bool b),
    some ("services", .ofList ProxyService.toJson route.services)]

/-- The shape of a route of a proxy. -/
def shape : Json.Shape ProxyRoute := .record "ProxyRoute" <|
  ProxyRoute.mk <$> .defaulted "conditions" [] (.list conditionShape) <*>
    .required "services" (.list ProxyService.shape) <*> .optional "permitInsecure" .bool

end ProxyRoute

namespace VirtualHost

/-- The written form. -/
def toJson (host : VirtualHost) : Json :=
  .ofFields [
    some ("fqdn", .string host.fqdn),
    host.tlsSecretName.map fun secret => ("tls", .object [("secretName", .string secret)])]

/-- The shape of the name of a secret. -/
def tlsShape : Json.Shape String :=
  .record "Tls" (.required "secretName" .text)

/-- The shape of a virtual host. -/
def shape : Json.Shape VirtualHost := .record "VirtualHost" <|
  VirtualHost.mk <$> .required "fqdn" .text <*> .optional "tls" tlsShape

end VirtualHost

namespace HttpProxySpec

/-- The written form. -/
def toJson (spec : HttpProxySpec) : Json :=
  .ofFields [
    if spec.routes = [] then none else some ("routes", .ofList ProxyRoute.toJson spec.routes),
    spec.virtualHost.map fun host => ("virtualhost", host.toJson)]

/-- The shape of what a proxy asks for. -/
def shape : Json.Shape HttpProxySpec := .record "HttpProxySpec" <|
  HttpProxySpec.mk <$> .optional "virtualhost" VirtualHost.shape <*>
    .defaulted "routes" [] (.list ProxyRoute.shape)

end HttpProxySpec

namespace HttpProxy

/-- The version of proxies. -/
def apiVersion : String := "projectcontour.io/v1"

/-- The kind of proxies. -/
def kind : String := "HTTPProxy"

/-- The written form. -/
def toJson (object : HttpProxy) : Json :=
  Resource.envelope apiVersion kind object.metadata [some ("spec", object.spec.toJson)]

/-- The shape of a proxy. -/
def shape : Json.Shape HttpProxy := .record "HttpProxy" <|
  HttpProxy.mk <$> .required "metadata" Metadata.shape <*> .required "spec" HttpProxySpec.shape

instance : Resource HttpProxy where
  kind := kind
  apiVersion := apiVersion
  plural := "httpproxies"
  metadata := metadata
  withMetadata object metadata := { object with metadata }
  toJson := toJson
  shape := shape

end HttpProxy

end Ingress
