import Ingress.Synthesis.Hostname
import Ingress.Synthesis.Naming
import Ingress.Synthesis.Weight
import Ingress.Resource.HttpProxy

/-!
# The rules of a hostname

`HostGroup` is what the two kinds of ingress objects have in common: a validated hostname with
its rules in the order in which they have to be matched. A rule sends the requests below one
path to its backends. A route without materialized destinations has no rule, unless it is the
only one of its hostname: then a placeholder keeps the rule valid.
-/

namespace Ingress

/-- A destination with its share of the traffic and the headers its requests get. -/
structure Backend where
  /-- The destination. -/
  destination : Destination
  /-- The share of the traffic. -/
  weight : Int32
  /-- The request headers, in order. -/
  headers : List Header
  deriving DecidableEq

/-- Where the requests of a rule go. -/
inductive Backends where
  /-- To destinations, each with its share. -/
  | weighted (backends : List Backend)
  /-- Nowhere yet. -/
  | placeholder
  deriving DecidableEq

/-- A rule, made from one route. -/
structure Rule where
  /-- The route. -/
  route : Route
  /-- The path that a request has to begin with; none matches every path. -/
  path : Option String
  /-- Where the requests go. -/
  backends : Backends
  deriving DecidableEq

/-- A validated hostname with its rules in match order. -/
structure HostGroup where
  /-- The hostname. -/
  fqdn : String
  /-- The namespace that all routes of the hostname lie in. -/
  ns : Option String
  /-- Whether the hostname is reachable from inside the mesh only. -/
  internal : Bool
  /-- The rules. -/
  rules : List Rule
  deriving DecidableEq

/-- The headers that tell a backend whom a request is for. -/
def backendHeaders (route : Route) (destination : Destination) : List Header := [
  ⟨"CF-App-Id", destination.appGuid⟩,
  ⟨"CF-Space-Id", route.label spaceGuidLabel⟩,
  ⟨"CF-Organization-Id", route.label orgGuidLabel⟩,
  ⟨"CF-App-Process-Type", destination.processType⟩]

/-- The backend of a route's destination. -/
def Backend.ofDestination (route : Route) (destination : Destination) (weight : Int32) :
    Backend where
  destination
  weight
  headers := backendHeaders route destination

namespace Rule

/-- The path of a route's rule. -/
def pathOf (route : Route) : Option String :=
  if route.path = "" then none else some route.path

/-- The rule of a route, if it has one; `sole` says that it is the only route of its hostname. -/
def ofRoute? (requireSum sole : Bool) (route : Route) : Except SynthesisError (Option Rule) := do
  if route.materialized ≠ [] then
    let weights ← resolveWeights route requireSum
    let backends := List.zipWith (Backend.ofDestination route) route.materialized weights
    return some { route, path := pathOf route, backends := .weighted backends }
  else if sole then
    return some { route, path := pathOf route, backends := .placeholder }
  else
    return none

end Rule

namespace HostGroup

/-- The owners of a hostname's object: the routes of its rules. -/
def ownerReferences (group : HostGroup) : List OwnerReference :=
  group.rules.map fun rule => rule.route.ownerReference

/-- The group of a hostname's routes: an error where they are faulty, nothing where they
have no rule. -/
def ofRoutes? (requireSum : Bool) (fqdn : String) (routes : List Route) :
    Except SynthesisError (Option HostGroup) := do
  validateGroup routes
  let ordered := inMatchOrder routes
  let rules ← ordered.mapM (Rule.ofRoute? requireSum (ordered.length = 1))
  match ordered, rules.filterMap id with
  | first :: _, rule :: rest =>
    return some { fqdn, ns := first.ns, internal := first.domain.internal, rules := rule :: rest }
  | _, _ => return none

end HostGroup

end Ingress
