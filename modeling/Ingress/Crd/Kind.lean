import Ingress.Crd.Definition
import Ingress.Resource.HttpProxy
import Ingress.Resource.Route
import Ingress.Resource.VirtualService

/-!
# The defined kinds

The three kinds of objects that a cluster does not know by itself, and their definitions. A field
that is written even when it is empty has a default; one that is not written then may be left out.
-/

namespace Ingress.Crd

/-- A kind with a definition. -/
inductive Kind where
  /-- Routes. -/
  | route
  /-- Virtual services. -/
  | virtualService
  /-- HTTP proxies. -/
  | httpProxy
  deriving DecidableEq, Repr

/-- Which specifications of routes are well-formed. -/
def routeSpec : Schema :=
  .record [
    ("destinations", .defaulted (.array []), .list (.record [
      ("app", .required, .record [
        ("guid", .required, .text),
        ("process", .required, .record [("type", .required, .text)])]),
      ("guid", .required, .text),
      ("port", .nullable, .integer 32),
      ("selector", .defaulted (.object [("matchLabels", .object [])]), .record [
        ("matchLabels", .defaulted (.object []), .textMap)]),
      ("weight", .nullable, .integer 32)])),
    ("domain", .required, .record [
      ("internal", .defaulted (.bool false), .flag),
      ("name", .required, .text)]),
    ("host", .defaulted (.string ""), .text),
    ("path", .omissible, .text),
    ("url", .defaulted (.string ""), .text)]

/-- Which specifications of virtual services are well-formed. -/
def virtualServiceSpec : Schema :=
  .described "The subset of the Istio VirtualService schema the route controller writes."
    (.record [
      ("gateways", .omissible, .list .text),
      ("hosts", .required, .list .text),
      ("http", .omissible, .list (.record [
        ("match", .omissible, .list (.record [
          ("uri", .required, .record [("prefix", .required, .text)])])),
        ("route", .required, .list (.record [
          ("destination", .required, .record [("host", .required, .text)]),
          ("headers", .nullable, .record [
            ("request", .nullable, .record [("set", .omissible, .textMap)])]),
          ("weight", .nullable, .integer 32)]))]))])

/-- Which specifications of HTTP proxies are well-formed. -/
def httpProxySpec : Schema :=
  .described "The subset of the Contour HTTPProxy schema the route controller writes."
    (.record [
      ("routes", .omissible, .list (.record [
        ("conditions", .omissible, .list (.record [("prefix", .required, .text)])),
        ("permitInsecure", .nullable, .flag),
        ("services", .required, .list (.record [
          ("name", .required, .text),
          ("port", .required, .integer 32),
          ("requestHeadersPolicy", .nullable, .record [
            ("set", .omissible, .list (.record [
              ("name", .required, .text),
              ("value", .required, .text)]))]),
          ("weight", .nullable, .integer 64)]))])),
      ("virtualhost", .nullable, .record [
        ("fqdn", .required, .text),
        ("tls", .nullable, .record [("secretName", .required, .text)])])])

namespace Kind

/-- The definition of a kind. -/
def definition : Kind → Definition
  | .route =>
    .ofKind Route "Route"
      "Route is a platform-neutral HTTP routing intent for one hostname and path" routeSpec
  | .virtualService =>
    .ofKind VirtualService "VirtualService"
      "VirtualService routes traffic for a set of hosts through Istio gateways" virtualServiceSpec
  | .httpProxy =>
    .ofKind HttpProxy "HttpProxy"
      "HTTPProxy is a Contour virtual host with an ordered list of routes" httpProxySpec

/-- What a kind may be called on the command line. -/
def names : Kind → List String
  | .route => ["route", "routes"]
  | .virtualService => ["virtual-service", "virtualservice", "virtualService", "vs"]
  | .httpProxy => ["http-proxy", "httpproxy", "httpProxy", "HTTPProxy"]

/-- Every kind. -/
def all : List Kind := [.route, .virtualService, .httpProxy]

/-- The kind that goes by a name. -/
def ofName? (name : String) : Option Kind :=
  all.find? fun kind => kind.names.contains name

end Kind

end Ingress.Crd
