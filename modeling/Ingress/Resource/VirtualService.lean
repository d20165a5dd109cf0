import Ingress.Resource.Basic

/-!
# Virtual services

The part of a mesh's virtual service that is written here: the hosts, the gateways they are
published through, and rules that match paths and split their traffic among destinations.
-/

namespace Ingress

/-- Headers to set, by name. -/
structure HeaderOperations where
  /-- The values to set. -/
  set : Labels := ∅
  deriving DecidableEq

/-- What a rule does to headers. -/
structure Headers where
  /-- What it does to those of the request. -/
  request : Option HeaderOperations := none
  deriving DecidableEq

/-- A destination of a rule with its share of the traffic. -/
structure MeshDestination where
  /-- The host that serves the traffic. -/
  host : String
  /-- The share in percent. -/
  weight : Option Int32 := none
  /-- What is done to headers. -/
  headers : Option Headers := none
  deriving DecidableEq

/-- A rule of a virtual service. -/
structure MeshRule where
  /-- The path beginnings of which one has to match; without any, every path matches. -/
  pathPrefixes : List String := []
  /-- The destinations. -/
  destinations : List MeshDestination
  deriving DecidableEq

/-- What a virtual service asks for. -/
structure VirtualServiceSpec where
  /-- The hostnames. -/
  hosts : List String
  /-- The gateways. -/
  gateways : List String := []
  /-- The rules, of which the first that matches counts. -/
  rules : List MeshRule := []
  deriving DecidableEq

/-- A virtual service. -/
structure VirtualService where
  /-- What the object says about itself. -/
  metadata : Metadata
  /-- What it asks for. -/
  spec : VirtualServiceSpec
  deriving DecidableEq

namespace HeaderOperations

/-- The written form; no headers are not written. -/
def toJson (operations : HeaderOperations) : Json :=
  .ofFields [
    if operations.set.isEmpty then none else some ("set", Labels.toJson operations.set)]

/-- The shape of header operations. -/
def shape : Json.Shape HeaderOperations :=
  .record "HeaderOperations" (HeaderOperations.mk <$> .defaulted "set" ∅ Labels.shape)

end HeaderOperations

namespace Headers

/-- The written form. -/
def toJson (headers : Headers) : Json :=
  .ofFields [headers.request.map fun operations => ("request", operations.toJson)]

/-- The shape of what is done to headers. -/
def shape : Json.Shape Headers :=
  .record "Headers" (Headers.mk <$> .optional "request" HeaderOperations.shape)

end Headers

namespace MeshDestination

/-- The written form. -/
def toJson (d : MeshDestination) : Json :=
  .ofFields [
    some ("destination", .object [("host", .string d.host)]),
    d.headers.map fun headers => ("headers", headers.toJson),
    d.weight.map fun n => ("weight", .integer n.toInt)]

/-- The shape of the host of a destination. -/
def hostShape : Json.Shape String :=
  .record "Destination" (.required "host" .text)

/-- The shape of a destination. -/
def shape : Json.Shape MeshDestination := .record "HttpRouteDestination" <|
  MeshDestination.mk <$> .required "destination" hostShape <*> .optional "weight" .int32 <*>
    .optional "headers" Headers.shape

end MeshDestination

namespace MeshRule

/-- The written form of one path beginning. -/
def matchToJson (path : String) : Json :=
  .object [("uri", .object [("prefix", .string path)])]

/-- The shape of the path beginning of a match on a text. -/
def textMatchShape : Json.Shape String :=
  .record "StringMatch" (.required "prefix" .text)

/-- The shape of one path beginning. -/
def matchShape : Json.Shape String :=
  .record "HttpMatchRequest" (.required "uri" textMatchShape)

/-- The written form. -/
def toJson (rule : MeshRule) : Json :=
  .ofFields [
    if rule.pathPrefixes = [] then none
    else some ("match", .ofList matchToJson rule.pathPrefixes),
    some ("route", .ofList MeshDestination.toJson rule.destinations)]

/-- The shape of a rule. -/
def shape : Json.Shape MeshRule := .record "HttpRoute" <|
  MeshRule.mk <$> .defaulted "match" [] (.list matchShape) <*>
    .required "route" (.list MeshDestination.shape)

end MeshRule

namespace VirtualServiceSpec

/-- The written form. -/
def toJson (spec : VirtualServiceSpec) : Json :=
  .ofFields [
    if spec.gateways = [] then none else some ("gateways", .ofList .string spec.gateways),
    some ("hosts", .ofList .string spec.hosts),
    if spec.rules = [] then none else some ("http", .ofList MeshRule.toJson spec.rules)]

/-- The shape of what a virtual service asks for. -/
def shape : Json.Shape VirtualServiceSpec := .record "VirtualServiceSpec" <|
  VirtualServiceSpec.mk <$> .required "hosts" (.list .text) <*>
    .defaulted "gateways" [] (.list .text) <*> .defaulted "http" [] (.list MeshRule.shape)

end VirtualServiceSpec

namespace VirtualService

/-- The version of virtual services. -/
def apiVersion : String := "networking.istio.io/v1alpha3"

/-- The kind of virtual services. -/
def kind : String := "VirtualService"

/-- The written form. -/
def toJson (object : VirtualService) : Json :=
  Resource.envelope apiVersion kind object.metadata [some ("spec", object.spec.toJson)]

/-- The shape of a virtual service. -/
def shape : Json.Shape VirtualService := .record "VirtualService" <|
  VirtualService.mk <$> .required "metadata" Metadata.shape <*>
    .required "spec" VirtualServiceSpec.shape

instance : Resource VirtualService where
  kind := kind
  apiVersion := apiVersion
  plural := "virtualservices"
  metadata := metadata
  withMetadata object metadata := { object with metadata }
  toJson := toJson
  shape := shape

end VirtualService

end Ingress
