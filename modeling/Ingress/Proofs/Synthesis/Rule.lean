import Ingress.Proofs.Synthesis.Weight
import Ingress.Synthesis.Rule

/-!
# The rule of a route

What a route's rule looks like (`Rule.Of`), and which routes have one: those with materialized
destinations, and a route that is the only one of its hostname.
-/

namespace Ingress

namespace Rule

/-- A rule that was made from a route. -/
structure Of (requireSum sole : Bool) (route : Route) (rule : Rule) : Prop where
  /-- It is the rule of that route. -/
  route_eq : rule.route = route
  /-- It asks for the path of the route. -/
  path_eq : rule.path = pathOf route
  /-- It sends requests to the materialized destinations by their weights, or, where the route has
  none and is the only one of its hostname, to the placeholder. -/
  backends_eq :
    (route.materialized ≠ [] ∧ ∃ weights, resolveWeights route requireSum = .ok weights ∧
      rule.backends = .weighted
        (List.zipWith (Backend.ofDestination route) route.materialized weights)) ∨
    (route.materialized = [] ∧ sole = true ∧ rule.backends = .placeholder)

/-- The rule that a route comes to was made from it. -/
theorem of_ofRoute? {requireSum sole : Bool} {route : Route} {rule : Rule}
    (h : ofRoute? requireSum sole route = .ok (some rule)) : Of requireSum sole route rule := by
  unfold ofRoute? at h
  split at h
  · next hmaterialized =>
    obtain ⟨weights, hweights, hrule⟩ := bind_eq_ok_iff.mp h
    cases hrule
    exact ⟨rfl, rfl, .inl ⟨hmaterialized, weights, hweights, rfl⟩⟩
  · next hmaterialized =>
    split at h
    · next hsole =>
      cases h
      exact ⟨rfl, rfl, .inr ⟨not_ne_iff.mp hmaterialized, hsole, rfl⟩⟩
    · cases h

/-- The backends of a rule are the materialized destinations of its route, one by one. -/
theorem Of.map_destination {requireSum sole : Bool} {route : Route} {rule : Rule}
    (h : Of requireSum sole route rule) {backends : List Backend}
    (hbackends : rule.backends = .weighted backends) :
    backends.map Backend.destination = route.materialized := by
  rcases h.backends_eq with ⟨_, weights, hweights, hweighted⟩ | ⟨_, _, hplaceholder⟩
  · rw [hbackends] at hweighted
    cases hweighted
    rw [List.map_zipWith]
    exact List.map_zip_eq_zipWith.symm.trans
      (List.map_fst_zip (Nat.le_of_eq (length_resolveWeights hweights).symm))
  · rw [hbackends] at hplaceholder
    cases hplaceholder

/-- Every backend of a rule is one of a materialized destination of its route. -/
theorem Of.exists_of_mem {requireSum sole : Bool} {route : Route} {rule : Rule}
    (h : Of requireSum sole route rule) {backends : List Backend}
    (hbackends : rule.backends = .weighted backends) {backend : Backend}
    (hbackend : backend ∈ backends) :
    ∃ destination ∈ route.materialized, ∃ weight,
      backend = Backend.ofDestination route destination weight := by
  rcases h.backends_eq with ⟨_, weights, _, hweighted⟩ | ⟨_, _, hplaceholder⟩
  · rw [hbackends] at hweighted
    cases hweighted
    obtain ⟨i, hi, rfl⟩ := List.mem_iff_getElem.mp hbackend
    rw [List.getElem_zipWith]
    exact ⟨_, List.getElem_mem _, _, rfl⟩
  · rw [hbackends] at hplaceholder
    cases hplaceholder

/-- A route that comes to a result has a rule if it has materialized destinations or is the only
one of its hostname. -/
theorem isSome_of_ofRoute? {requireSum sole : Bool} {route : Route} {result : Option Rule}
    (h : ofRoute? requireSum sole route = .ok result) :
    result.isSome ↔ route.materialized ≠ [] ∨ sole = true := by
  unfold ofRoute? at h
  split at h
  · next hmaterialized =>
    obtain ⟨weights, _, hrule⟩ := bind_eq_ok_iff.mp h
    cases hrule
    exact iff_of_true rfl (.inl hmaterialized)
  · next hmaterialized =>
    split at h
    · next hsole =>
      cases h
      exact iff_of_true rfl (.inr hsole)
    · next hsole =>
      cases h
      exact iff_of_false nofun (not_or.mpr ⟨hmaterialized, hsole⟩)

/-- Without destinations that are materialized, whether a route is alone decides on its rule;
otherwise it does not. -/
theorem ofRoute?_congr {requireSum sole sole' : Bool} {route : Route}
    (h : route.materialized ≠ [] ∨ sole = sole') :
    ofRoute? requireSum sole route = ofRoute? requireSum sole' route := by
  unfold ofRoute?
  rcases h with hsome | rfl
  · rw [if_pos hsome, if_pos hsome]
  · rfl

/-- Whether a route is alone does not decide on its fault. -/
theorem ofRoute?_eq_error_congr {requireSum sole : Bool} (sole' : Bool) {route : Route}
    {cause : SynthesisError} (h : ofRoute? requireSum sole route = .error cause) :
    ofRoute? requireSum sole' route = .error cause := by
  rw [← h]
  refine ofRoute?_congr (.inl fun hnone => ?_)
  unfold ofRoute? at h
  rw [if_neg (not_not_intro hnone)] at h
  split at h <;> cases h

/-- Where a route has no rule for a fault, its weights are at fault. -/
theorem ofRoute?_eq_error_iff {requireSum sole : Bool} {route : Route}
    {cause : SynthesisError} (hcount : route.materialized.length ≤ 2147483647) :
    ofRoute? requireSum sole route = .error cause ↔ route.Misweighted requireSum cause := by
  unfold ofRoute?
  split
  · next hsome =>
    rw [bind_eq_error_iff, ← resolveWeights_eq_error_iff hsome hcount]
    exact or_iff_left (by rintro ⟨_, _, ⟨⟩⟩)
  · next hnone =>
    refine iff_of_false (by split <;> exact nofun) fun hfails => hnone hfails.materialized_ne

end Rule

end Ingress
