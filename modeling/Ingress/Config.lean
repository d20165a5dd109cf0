import Ingress.Resource.Labels
import Ingress.Yaml.Shape

/-!
# Configuration

What the controller is told by its operator: which ingress objects to write and how, where routes
are, how often to look again without being asked, and which labels all its objects carry. It is
written in YAML. After it has been read, two conditions are checked, in this order: mesh ingress
needs a gateway, and the resync interval may not be zero.
-/

namespace Ingress

/-- The system that serves the ingress objects. -/
inductive Provider where
  /-- The mesh, by virtual services. -/
  | istio
  /-- The proxy, by HTTP proxies. -/
  | contour
  deriving DecidableEq, Repr

/-- The name of a provider. -/
def Provider.name : Provider → String
  | .istio => "istio"
  | .contour => "contour"

/-- What the controller is told by its operator. -/
structure Config where
  /-- The system that serves the ingress objects. -/
  provider : Provider
  /-- The gateways of external hostnames in the mesh. -/
  gateways : List String := []
  /-- The secret with the certificate that the proxy serves. -/
  tlsSecretName : Option String := none
  /-- Whether the proxy refuses plain requests. -/
  httpsOnly : Bool := false
  /-- The namespace that routes are listed in; none for all. -/
  ns : Option String := none
  /-- After how many seconds without a change the controller looks again. -/
  resyncSeconds : UInt64 := 30
  /-- The port that the controller listens on. -/
  apiPort : UInt16 := 8081
  /-- Labels for every object that the controller creates. -/
  labels : Labels := ∅

/-- Why there is no configuration. -/
inductive ConfigError where
  /-- The file cannot be read. -/
  | unreadable
  /-- The file is not a YAML document of the expected shape. -/
  | malformed
  /-- Mesh ingress without a gateway. -/
  | noGateway
  /-- A resync interval of zero. -/
  | zeroResync
  deriving DecidableEq, Repr

/-- The wording of an error, without the system's or the reader's own explanation. -/
def ConfigError.message : ConfigError → String
  | .unreadable => "Unable to read config file"
  | .malformed => "Unable to deserialize config file"
  | .noGateway => "Invalid config: istio.gateways must name at least one gateway"
  | .zeroResync => "Invalid config: resync_interval_secs must be greater than zero"

namespace Config

open Yaml (Shape)

/-- A number of so many bits. -/
def asUnsigned (bits : Nat) : Shape Nat := Yaml.asNatBelow (Nat.pow 2 bits)

/-- The gateways. -/
def gatewaysShape : Shape (List String) := fun d node => do
  (← Yaml.asRecord ["gateways"] d node).defaulted d "gateways" [] (Yaml.asList Yaml.asText)

/-- The secret and whether plain requests are refused. -/
def tlsShape : Shape (Option String × Bool) := fun d node => do
  let r ← Yaml.asRecord ["tls_secret_name", "https_only"] d node
  return (← r.optionalText d "tls_secret_name", ← r.defaulted d "https_only" false Yaml.asBool)

/-- The port. -/
def apiPortShape : Shape UInt16 := fun d node => do
  let r ← Yaml.asRecord ["port"] d node
  return UInt16.ofNat (← r.defaulted d "port" 8081 (asUnsigned 16))

/-- Labels; of a repeated key the last value counts. -/
def labelsShape : Shape Labels := fun d node => do
  return Std.ExtTreeMap.ofList (← Yaml.asEntries Yaml.asText d node)

/-- The names of the fields. -/
def fieldNames : List String :=
  ["provider", "istio", "contour", "namespace", "resync_interval_secs", "api", "labels"]

/-- The whole configuration. -/
def shape : Shape Config := fun d node => do
  let r ← Yaml.asRecord fieldNames d node
  let provider ←
    r.required d "provider" (Yaml.asChoice [("istio", Provider.istio), ("contour", .contour)])
  let gateways ← r.defaulted d "istio" [] gatewaysShape
  let (tlsSecretName, httpsOnly) ← r.defaulted d "contour" (none, false) tlsShape
  let ns ← r.optionalText d "namespace"
  let resync ← r.defaulted d "resync_interval_secs" 30 (asUnsigned 64)
  let apiPort ← r.defaulted d "api" 8081 apiPortShape
  let labels ← r.defaulted d "labels" ∅ labelsShape
  return {
    provider, gateways, tlsSecretName, httpsOnly, ns, resyncSeconds := UInt64.ofNat resync
    apiPort, labels }

/-- The configuration, if it can be used. -/
def validate (config : Config) : Except ConfigError Config :=
  if config.provider = .istio ∧ config.gateways = [] then .error .noGateway
  else if config.resyncSeconds = 0 then .error .zeroResync
  else .ok config

/-- The configuration that a text holds. -/
def ofText (text : String) : Except ConfigError Config :=
  match Yaml.Document.ofText? text with
  | none => .error .malformed
  | some d =>
    match shape d d.root with
    | none => .error .malformed
    | some config => config.validate

/-- The configuration that a file's bytes hold; none stand for a file that cannot be read. -/
def ofBytes : Option ByteArray → Except ConfigError Config
  | none => .error .unreadable
  | some bytes =>
    match String.fromUTF8? bytes with
    | none => .error .malformed
    | some text => ofText text

end Config

end Ingress
