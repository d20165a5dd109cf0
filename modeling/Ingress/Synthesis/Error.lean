/-!
# Why a hostname cannot be synthesized

The routes of one hostname have to agree on their domain and their namespace, and the weights
of each of them have to make sense. The first fault that is found fails the whole hostname.
-/

namespace Ingress

/-- A fault among the routes of one hostname. -/
inductive SynthesisError where
  /-- Two routes disagree on whether their domain is internal. -/
  | internalMismatch (first other : String)
  /-- Two routes lie in different namespaces. -/
  | namespaceMismatch (first other : String)
  /-- A route has weights on some but not all destinations. -/
  | partialWeights (route : String)
  /-- The weights of a route do not sum to a hundred. -/
  | weightSum (route : String)
  /-- A route without destinations came to the inference of weights. -/
  | noDestinations (route : String)
  deriving DecidableEq, Repr

/-- The wording of a fault. -/
def SynthesisError.message : SynthesisError → String
  | .internalMismatch first other =>
    "route guid " ++ first ++ " and route guid " ++ other ++
      " disagree on whether or not the domain is internal"
  | .namespaceMismatch first other =>
    "route guid " ++ first ++ " and route guid " ++ other ++
      " share the same FQDN but have different namespaces"
  | .partialWeights route =>
    "invalid destinations for route " ++ route ++ ": weights must be set on all or none"
  | .weightSum route =>
    "invalid destinations for route " ++ route ++ ": weights must sum up to 100"
  | .noDestinations route =>
    "route " ++ route ++ " reached weight inference without destinations"

/-- A fault with the hostname that it failed. -/
structure GroupError where
  /-- The hostname. -/
  fqdn : String
  /-- The fault. -/
  cause : SynthesisError
  deriving DecidableEq, Repr

/-- The wording of a hostname's failure. -/
def GroupError.message (e : GroupError) : String :=
  "unable to synthesize ingress for " ++ e.fqdn ++ ": " ++ e.cause.message

end Ingress
