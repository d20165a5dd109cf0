import Ingress.Synthesis.BackendService
import Ingress.Synthesis.Renderer

/-!
# Synthesis

A synthesizer makes the ingress objects and services that routes ask for. Every hostname gets
one verdict: an object, nothing, or an error, and verdicts come in ascending order of
hostnames. The children of a list of routes are all its objects: the ingress objects, then the
services of each route in the order given.
-/

namespace Ingress

/-- A renderer with the labels that every object carries. -/
structure Synthesizer (K : Type) where
  /-- How a hostname becomes an object. -/
  renderer : Renderer K
  /-- The template labels. -/
  labels : Labels

/-- The ingress objects of a list of routes and the hostnames that have none for a fault. -/
structure Synthesis (K : Type) where
  /-- The objects, in ascending order of hostnames. -/
  objects : List K
  /-- The failures, in ascending order of hostnames. -/
  errors : List GroupError

/-- The hostnames that failed. -/
def Synthesis.failedFqdns (synthesis : Synthesis K) : List String :=
  synthesis.errors.map GroupError.fqdn

namespace Synthesizer

/-- The same renderer with other labels. -/
def withLabels (s : Synthesizer K) (labels : Labels) : Synthesizer K :=
  { s with labels }

/-- The name of the object of a hostname. -/
def objectName (s : Synthesizer K) (fqdn : String) : String :=
  ingressName s.renderer.stem fqdn

/-- The metadata of the object of a group. -/
def metadata (s : Synthesizer K) (group : HostGroup) : Metadata where
  name := some (s.objectName group.fqdn)
  ns := group.ns
  labels := some (managedLabels s.labels)
  annotations := some (Std.ExtTreeMap.ofList [(fqdnKey, group.fqdn)])
  ownerReferences := some group.ownerReferences

/-- The object of a group. -/
def objectOf (s : Synthesizer K) (group : HostGroup) : K :=
  s.renderer.render group (s.metadata group)

/-- What the routes of one hostname come to: an object, nothing, or a fault. -/
def verdict (s : Synthesizer K) (fqdn : String) (routes : List Route) :
    Except SynthesisError (Option K) :=
  (HostGroup.ofRoutes? s.renderer.requireWeightSum fqdn routes).map (Option.map s.objectOf)

/-- The verdict on every hostname, in ascending order. -/
def verdicts (s : Synthesizer K) (routes : List Route) :
    List (String × Except SynthesisError (Option K)) :=
  (hostnames routes).map fun fqdn => (fqdn, s.verdict fqdn (routesOf fqdn routes))

/-- The object of a verdict. -/
def objectOfVerdict : String × Except SynthesisError (Option K) → Option K
  | (_, .ok object) => object
  | (_, .error _) => none

/-- The failure of a verdict. -/
def errorOfVerdict : String × Except SynthesisError (Option K) → Option GroupError
  | (_, .ok _) => none
  | (fqdn, .error cause) => some { fqdn, cause }

/-- The ingress objects of routes. -/
def synthesize (s : Synthesizer K) (routes : List Route) : Synthesis K where
  objects := (s.verdicts routes).filterMap objectOfVerdict
  errors := (s.verdicts routes).filterMap errorOfVerdict

/-- The services of routes, in the order given. -/
def services (s : Synthesizer K) (routes : List Route) : List Service :=
  routes.flatMap (Route.services s.labels)

/-- All objects of routes in their written form. -/
def children [Resource K] (s : Synthesizer K) (routes : List Route) : List Json :=
  (s.synthesize routes).objects.map Resource.toJson ++ (s.services routes).map Service.toJson

/-- What the log says while children are made: the failures, then the destinations that are
skipped. -/
def childrenLog (s : Synthesizer K) (routes : List Route) : Log :=
  (s.synthesize routes).errors.map (fun e => ⟨.warn, e.message⟩) ++ routes.flatMap Route.serviceLog

end Synthesizer

end Ingress
