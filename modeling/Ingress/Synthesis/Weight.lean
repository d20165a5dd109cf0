import Ingress.Resource.Route
import Ingress.Synthesis.Error

/-!
# Weights of destinations

Weights are percentages of a route's traffic. Only materialized destinations count. Weights
are given for all of them or for none; if none, the traffic is split evenly, and what the
division leaves over goes to the first destination. Weights are words of 32 bits, their sum is
taken in 64 bits.
-/

namespace Ingress

/-- What the weights of a route have to sum to. -/
def fullWeight : Int32 := 100

/-- The weights that are given among destinations. -/
def explicitWeights (destinations : List Destination) : List Int32 :=
  destinations.filterMap Destination.weight

/-- The sum of weights in 64 bits. -/
def weightSum (weights : List Int32) : Int64 :=
  weights.foldl (fun sum weight => sum + weight.toInt64) 0

/-- The routes of a hostname have to agree with the first of them on `internal` and on the
namespace; the first that does not is named, for `internal` before the namespace. -/
def checkAgreement (first : Route) : List Route → Except SynthesisError Unit
  | [] => .ok ()
  | route :: rest =>
    if first.domain.internal ≠ route.domain.internal then
      .error (.internalMismatch first.name route.name)
    else if first.ns ≠ route.ns then
      .error (.namespaceMismatch first.name route.name)
    else checkAgreement first rest

/-- Whether the routes of a hostname agree with each other. -/
def validateGroup : List Route → Except SynthesisError Unit
  | [] => .ok ()
  | first :: rest => checkAgreement first (first :: rest)

/-- Whether the weights of a route are complete and, where it is asked for, sum to a hundred. -/
def validateWeights (route : Route) (requireSum : Bool) : Except SynthesisError Unit :=
  let destinations := route.materialized
  let weights := explicitWeights destinations
  if weights.length ≠ 0 ∧ weights.length ≠ destinations.length then
    .error (.partialWeights route.name)
  else if requireSum ∧ weights.length ≠ 0 ∧ weightSum weights ≠ fullWeight.toInt64 then
    .error (.weightSum route.name)
  else .ok ()

/-- An even split among a number of destinations, the remainder on the first. There is none
among no destinations, nor among more than 32 bits can count. -/
def inferWeights (n : Nat) : Option (List Int32) :=
  if n = 0 ∨ 2147483647 < n then none
  else
    let count := Int32.ofNat n
    let weight := fullWeight / count
    some ((weight + (fullWeight - count * weight)) :: List.replicate (n - 1) weight)

/-- The weight of each materialized destination of a route, in order. -/
def resolveWeights (route : Route) (requireSum : Bool) : Except SynthesisError (List Int32) := do
  validateWeights route requireSum
  let destinations := route.materialized
  if destinations ≠ [] ∧ destinations.all fun d => d.weight.isSome then
    return explicitWeights destinations
  match inferWeights destinations.length with
  | some weights => return weights
  | none => throw (.noDestinations route.name)

end Ingress
