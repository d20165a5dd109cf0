import Ingress.Proofs.Synthesis.TrafficSplit
import Ingress.Proofs.Synthesis.Verdict

/-!
# Weights that line up with destinations

Which destinations are there, whether their weights are complete, whether all of them have one and
how many an even split is for: all of this is asked of the materialized destinations alone. So an
even split is never asked for without destinations, and the weights of a route are those of its
materialized destinations, one by one (`HostGroup.weights_line_up`).
-/

namespace Ingress

/-- Weights that stand for the materialized destinations of a route, one by one. -/
structure Route.WeighedBy (route : Route) (weights : List Int32) : Prop where
  /-- There are as many as materialized destinations. -/
  length_eq : weights.length = route.materialized.length
  /-- Where all of these have a weight, each has its own. -/
  given : (∀ d ∈ route.materialized, d.weight ≠ none) →
    ∀ (i : Nat) (d : Destination), route.materialized[i]? = some d → weights[i]? = d.weight
  /-- Otherwise they share evenly. -/
  inferred : (¬∀ d ∈ route.materialized, d.weight ≠ none) →
    inferWeights route.materialized.length = some weights

/-- Where all destinations have a weight, the explicit weight at a place is that of the destination
there. -/
theorem getElem?_explicitWeights {destinations : List Destination}
    (h : ∀ d ∈ destinations, d.weight ≠ none) (i : Nat) :
    (explicitWeights destinations)[i]? = destinations[i]?.bind Destination.weight := by
  induction destinations generalizing i with
  | nil => rfl
  | cons d rest ih =>
    rw [List.forall_mem_cons] at h
    obtain ⟨weight, hweight⟩ := Option.ne_none_iff_exists'.mp h.1
    have hexplicit : explicitWeights (d :: rest) = weight :: explicitWeights rest :=
      List.filterMap_cons_some hweight
    rw [hexplicit]
    cases i with
    | zero => exact hweight.symm
    | succ i => exact ih h.2 i

/-- The weights of some destinations that 32 bits can count do not fail for want of destinations. -/
theorem resolveWeights_ne_noDestinations {route : Route} {requireSum : Bool}
    (hsome : route.materialized ≠ []) (hcount : route.materialized.length ≤ 2147483647)
    (name : String) : resolveWeights route requireSum ≠ .error (.noDestinations name) := by
  intro herror
  cases (resolveWeights_eq_error_iff hsome hcount).mp herror

/-- Weights that can be resolved line up with the destinations of their route. -/
theorem weighedBy_of_resolveWeights {route : Route} {requireSum : Bool} {weights : List Int32}
    (h : resolveWeights route requireSum = .ok weights) : route.WeighedBy weights where
  length_eq := length_resolveWeights h
  given hgiven i d hd := by
    rcases resolveWeights_eq_ok_cases h with ⟨_, rfl, _⟩ | ⟨hmissing, _⟩
    · rw [getElem?_explicitWeights hgiven, hd]
      rfl
    · have hmem := List.mem_of_getElem? hd
      exact absurd (hmissing d hmem) (hgiven d hmem)
  inferred hmissing := by
    rcases resolveWeights_eq_ok_cases h with ⟨hgiven, _⟩ | ⟨_, hinfer⟩
    · exact absurd hgiven hmissing
    · exact hinfer

/-- The backends of a rule are the materialized destinations of its route, with weights that line up
with them. -/
theorem Rule.Of.weighedBy {requireSum sole : Bool} {route : Route} {rule : Rule}
    (h : Of requireSum sole route rule) {backends : List Backend}
    (hbackends : rule.backends = .weighted backends) :
    route.WeighedBy (backends.map Backend.weight) := by
  rcases h.backends_eq with ⟨_, weights, hweights, hweighted⟩ | ⟨_, _, hplaceholder⟩
  · rw [hbackends] at hweighted
    cases hweighted
    have hmap : (List.zipWith (Backend.ofDestination route) route.materialized weights).map
        Backend.weight = weights := by
      rw [List.map_zipWith]
      exact List.map_zip_eq_zipWith.symm.trans
        (List.map_snd_zip (Nat.le_of_eq (length_resolveWeights hweights)))
    rw [hmap]
    exact weighedBy_of_resolveWeights hweights
  · rw [hbackends] at hplaceholder
    cases hplaceholder

namespace HostGroup

/-- Where 32 bits can count the destinations of every route, nothing fails the routes of a hostname
for want of destinations. -/
theorem ofRoutes?_ne_noDestinations (requireSum : Bool) (fqdn : String) {routes : List Route}
    (hcount : ∀ route ∈ routes, route.materialized.length ≤ 2147483647) (name : String) :
    ofRoutes? requireSum fqdn routes ≠ .error (.noDestinations name) := by
  intro herror
  cases (ofRoutes?_eq_error_iff hcount).mp herror with
  | validation hdiffers =>
    obtain ⟨_, _, _, _, _, hroute⟩ := hdiffers
    cases hroute
  | weights _ hweights =>
    obtain ⟨_, _, _, _, _, hroute⟩ := hweights
    cases hroute

/-- Whether or not sums are looked at, and whatever routes a hostname has, as long as 32 bits can
count the materialized destinations of each: they never fail for want of destinations. Neither do
the weights of a route that has a materialized destination, and where they can be resolved, they
line up with the materialized destinations. So do the backends of every rule that the hostname is
given, none of which is lost. -/
theorem weights_line_up (requireSum : Bool) (fqdn : String) {routes : List Route}
    (hcount : ∀ route ∈ routes, route.materialized.length ≤ 2147483647) :
    (∀ name, ofRoutes? requireSum fqdn routes ≠ .error (.noDestinations name)) ∧
    (∀ route ∈ routes, route.materialized ≠ [] →
      (∀ name, resolveWeights route requireSum ≠ .error (.noDestinations name)) ∧
      ∀ weights, resolveWeights route requireSum = .ok weights → route.WeighedBy weights) ∧
    ∀ group, ofRoutes? requireSum fqdn routes = .ok (some group) →
      ∀ rule ∈ group.rules, rule.route ∈ routes ∧
        ∀ backends, rule.backends = .weighted backends →
          backends.map Backend.destination = rule.route.materialized ∧
          rule.route.WeighedBy (backends.map Backend.weight) := by
  refine ⟨ofRoutes?_ne_noDestinations requireSum fqdn hcount, fun route hroute hsome => ⟨?_, ?_⟩,
    fun group hgroup rule hrule => ?_⟩
  · exact resolveWeights_ne_noDestinations hsome (hcount route hroute)
  · exact fun weights hweights => weighedBy_of_resolveWeights hweights
  · obtain ⟨hroute, hof⟩ := (of_ofRoutes? hgroup).rule_mem hrule
    exact ⟨hroute, fun backends hbackends =>
      ⟨hof.map_destination hbackends, hof.weighedBy hbackends⟩⟩

/-- A route of a sample hostname, with destinations that are named, weighted and given a port. -/
def patchyRoute (name path : String)
    (destinations : List (String × Option Int32 × Option Int32)) : Route where
  metadata := { name := some name, ns := some "apps" }
  host := "web"
  path
  domain := { name := "example.com" }
  destinations := destinations.map fun (guid, weight, port) =>
    { guid, weight, port, appGuid := "app", processType := "web" }

/-- A route whose two materialized destinations have weights, and one between them has none. -/
def weightedRoute : Route :=
  patchyRoute "weighted" "/cart"
    [("u", some 60, some 8080), ("v", none, none), ("w", some 40, some 8080)]

/-- A route of which only a destination that is not materialized has a weight. -/
def unweightedRoute : Route :=
  patchyRoute "unweighted" ""
    [("x", none, some 8080), ("y", some 40, none), ("z", none, some 8080), ("z", none, some 0)]

/-- The sample routes have a group, one of whose rules has three backends. -/
theorem exists_group_patchyRoutes :
    ∃ group, ofRoutes? true "web.example.com" [unweightedRoute, weightedRoute] = .ok (some group) ∧
      ∃ rule ∈ group.rules, ∃ backends, rule.backends = .weighted backends ∧
        backends.map Backend.weight = [34, 33, 33] := by
  have hordered : inMatchOrder [unweightedRoute, weightedRoute] =
      [weightedRoute, unweightedRoute] :=
    (inMatchOrder_eq_of_perm (.swap _ _ _) (by decide)).trans
      (List.mergeSort_of_pairwise (by decide))
  unfold ofRoutes?
  rw [hordered]
  exact ⟨_, rfl, _, List.mem_cons_of_mem _ List.mem_cons_self, _, rfl, rfl⟩

/-- A weight counts where its destination is materialized, and only there. -/
theorem weights_line_up_patchyRoutes :
    (∀ name, ofRoutes? true "web.example.com" [unweightedRoute, weightedRoute] ≠
      .error (.noDestinations name)) ∧
    resolveWeights weightedRoute true = .ok [60, 40] ∧ weightedRoute.WeighedBy [60, 40] ∧
    resolveWeights unweightedRoute true = .ok [34, 33, 33] ∧
    unweightedRoute.WeighedBy [34, 33, 33] ∧
    ∃ group, ofRoutes? true "web.example.com" [unweightedRoute, weightedRoute] = .ok (some group) ∧
      ∃ rule ∈ group.rules, rule.route ∈ [unweightedRoute, weightedRoute] ∧
        rule.route.WeighedBy [34, 33, 33] := by
  obtain ⟨hnever, hresolved, hrules⟩ :=
    @weights_line_up true "web.example.com" [unweightedRoute, weightedRoute] (by decide)
  obtain ⟨group, hgroup, rule, hrule, backends, hbackends, hweights⟩ := exists_group_patchyRoutes
  obtain ⟨hroute, hlined⟩ := hrules group hgroup rule hrule
  refine ⟨hnever, by decide, ?_, by decide, ?_, group, hgroup, rule, hrule, hroute, ?_⟩
  · exact (hresolved weightedRoute (by decide) (by decide)).2 _ (by decide)
  · exact (hresolved unweightedRoute (by decide) (by decide)).2 _ (by decide)
  · exact hweights ▸ (hlined backends hbackends).2

end HostGroup

end Ingress
