import Ingress.Proofs.Synthesis.Traffic
import Ingress.Proofs.Synthesis.Verdict

/-!
# Weights as percentages

Virtual services split exactly a hundred percent. The words that weights are summed up and split in
are wide enough as long as 32 bits can count the destinations (`Route.WeighsExactly`), so a rule has
the weights that its route was given, or an even split, and these sum to a hundred
(`Config.virtualServices_split_hundred`). That the weights are percentages one by one follows only
where none was given that is negative (`Config.weights_are_percentages_iff`).
-/

namespace Ingress

/-- The weights that a rule says. -/
def TrafficRule.weights (rule : TrafficRule) : List Int :=
  rule.shares.filterMap Share.weight

/-- A rule that splits all the traffic of its route. -/
structure TrafficRule.SplitsFully (rule : TrafficRule) (route : Route) : Prop where
  /-- Every materialized destination has a weight: the given one, else its part of the even split. -/
  map_weight : route.materialized ≠ [] →
    rule.shares.map Share.weight = route.split.map fun portion => some portion.2
  /-- The weights sum to a hundred. -/
  sum_weights : route.materialized ≠ [] → rule.weights.sum = 100
  /-- Without a materialized destination the placeholder stands alone, without a weight. -/
  placeholder : route.materialized = [] → rule.shares = [{ service := placeholderName }]

/-- A route whose weights come out in words as they do in numbers without bounds. -/
structure Route.WeighsExactly (route : Route) : Prop where
  /-- Neither the sum of the given weights nor any sum on the way to it leaves 64 bits. -/
  sums : ∀ k, (weightSum ((explicitWeights route.materialized).take k)).toInt =
    exactSum ((explicitWeights route.materialized).take k)
  /-- Nothing on the way to an even split leaves 32 bits. -/
  even : route.materialized ≠ [] → ExactSplit route.materialized.length
  /-- The sum is at fault exactly where all weights are given and do not sum to a hundred. -/
  fault_iff : resolveWeights route true = .error (.weightSum route.name) ↔
    route.materialized ≠ [] ∧ (∀ d ∈ route.materialized, d.weight ≠ none) ∧
      exactSum (explicitWeights route.materialized) ≠ 100

/-- A route none of whose materialized destinations was given a negative weight. -/
def Route.GivesNoNegative (route : Route) : Prop :=
  ∀ d ∈ route.materialized, ∀ weight, d.weight = some weight → 0 ≤ weight.toInt

namespace Route

variable {route : Route}

/-- If 32 bits can count the destinations of a route, they can count those that are
materialized. -/
theorem length_materialized_le (h : route.destinations.length < 2 ^ 31) :
    route.materialized.length ≤ 2147483647 :=
  Nat.le_trans (List.length_filter_le _ _) (Nat.le_of_lt_succ h)

/-- A fault of the sum is a sum of all weights that is off. -/
theorem misweighted_weightSum_iff {requireSum : Bool} :
    route.Misweighted requireSum (.weightSum route.name) ↔ route.materialized ≠ [] ∧
      (∀ d ∈ route.materialized, d.weight ≠ none) ∧ requireSum = true ∧
        exactSum (explicitWeights route.materialized) ≠ 100 := by
  constructor
  · intro h
    cases h with
    | sum hsome hall hasked hsum => exact ⟨hsome, hall, hasked, hsum⟩
  · rintro ⟨hsome, hall, hasked, hsum⟩
    exact .sum hsome hall hasked hsum

/-- Weights come out exactly as long as 32 bits can count the materialized destinations. -/
theorem weighsExactly (hcount : route.materialized.length ≤ 2147483647) :
    route.WeighsExactly where
  sums k := by
    have hlength : (explicitWeights route.materialized).length ≤ route.materialized.length :=
      List.length_filterMap_le _ _
    exact toInt_weightSum (Nat.le_trans (List.length_take_le' _ _) (by omega))
  even hsome := exactSplit (mt List.length_eq_zero_iff.mp hsome) hcount
  fault_iff := by
    by_cases hsome : route.materialized = []
    · refine iff_of_false (fun hfault => ?_) fun hsum => hsum.1 hsome
      rw [resolveWeights_eq, hsome] at hfault
      cases hfault
    · rw [resolveWeights_eq_error_iff hsome hcount, misweighted_weightSum_iff]
      simp only [true_and]

/-- A route has shares where it has materialized destinations. -/
theorem split_eq_nil_iff : route.split = [] ↔ route.materialized = [] := by
  rw [← route.map_fst_split, List.map_eq_nil_iff]

/-- A share is that of a materialized destination: its weight, where one was given, else a part of
the even split. -/
theorem mem_split {portion : Destination × Int} (h : portion ∈ route.split) :
    portion.1 ∈ route.materialized ∧
      ((∃ weight, portion.1.weight = some weight ∧ portion.2 = weight.toInt) ∨
        portion.1.weight = none ∧
          ∃ i, portion.2 = evenShare route.materialized.length i) := by
  unfold split at h
  obtain ⟨⟨d, i⟩, hpair, rfl⟩ := List.mem_map.mp h
  refine ⟨List.fst_mem_of_mem_zipIdx hpair, ?_⟩
  dsimp only
  cases d.weight with
  | some weight => exact .inl ⟨weight, rfl, rfl⟩
  | none => exact .inr ⟨rfl, i, rfl⟩

/-- No share is negative exactly where no weight is that was given. -/
theorem split_nonneg_iff :
    (∀ share ∈ route.split.map Prod.snd, 0 ≤ share) ↔ route.GivesNoNegative := by
  rw [List.forall_mem_map]
  constructor
  · intro h d hd weight hweight
    rw [← route.map_fst_split] at hd
    obtain ⟨portion, hportion, rfl⟩ := List.mem_map.mp hd
    rcases (mem_split hportion).2 with ⟨given, hgiven, hshare⟩ | ⟨hnone, _⟩
    · cases hgiven.symm.trans hweight
      exact hshare ▸ h portion hportion
    · cases hnone.symm.trans hweight
  · intro h portion hportion
    obtain ⟨hd, ⟨weight, hweight, hshare⟩ | ⟨_, i, hshare⟩⟩ := mem_split hportion
    · exact hshare ▸ h portion.1 hd weight hweight
    · exact hshare ▸ evenShare_nonneg _ i

/-- Shares that sum to a hundred are percentages exactly where no weight is negative that was
given. -/
theorem split_percentages_iff (hsum : route.materialized ≠ [] →
    (route.split.map Prod.snd).sum = 100) :
    (∀ share ∈ route.split.map Prod.snd, 0 ≤ share ∧ share ≤ 100) ↔ route.GivesNoNegative := by
  rw [← split_nonneg_iff]
  refine ⟨fun h share hshare => (h share hshare).1, fun h share hshare => ⟨h share hshare, ?_⟩⟩
  have hsome : route.materialized ≠ [] := by
    intro hnone
    rw [split_eq_nil_iff.mpr hnone] at hshare
    cases hshare
  -- Where none is negative, no part exceeds the whole.
  rw [← hsum hsome]
  exact List.single_le_sum h share hshare

end Route

/-- The weights of a rule that serves a route are the shares of the materialized destinations; the
placeholder has none. -/
theorem TrafficRule.Serves.weights_eq {rule : TrafficRule} {route : Route} (h : rule.Serves route) :
    rule.weights = route.split.map Prod.snd := by
  unfold weights
  by_cases hsome : route.materialized = []
  · rw [h.placeholder hsome, Route.split_eq_nil_iff.mpr hsome]
    rfl
  · calc rule.shares.filterMap Share.weight
        = (rule.shares.map Share.weight).filterMap id := List.filterMap_map (g := id).symm
      _ = (route.split.map fun portion => some portion.2).filterMap id := by
        rw [h.map_weight hsome]
      _ = route.split.filterMap fun portion => some portion.2 := List.filterMap_map
      _ = route.split.map Prod.snd := congrFun List.filterMap_eq_map route.split

/-- The routes of a hostname that have a rule give no negative weight exactly where none of its
routes does. -/
theorem forall_ruledRoutes_givesNoNegative {routes : List Route} :
    (∀ route ∈ ruledRoutes routes, route.GivesNoNegative) ↔
      ∀ route ∈ routes, route.GivesNoNegative := by
  constructor
  · intro h route hroute d hd
    have hsome : route.materialized ≠ [] := List.ne_nil_of_mem hd
    exact h route (mem_ruledRoutes.mpr ⟨hroute, .inl hsome⟩) d hd
  · intro h route hroute
    exact h route (mem_ruledRoutes.mp hroute).1

/-- The sum of the weights of a route fails the routes of a hostname where they agree and this is
the first fault of weights in match order. -/
theorem HostGroup.fails_weightSum_iff {routes : List Route} {requireSum : Bool} {name : String} :
    Fails requireSum routes (.weightSum name) ↔
      (∀ a ∈ routes, ∀ b ∈ routes, a.Agrees b) ∧
        FirstFault (Route.Misweighted requireSum) (inMatchOrder routes) (.weightSum name) := by
  constructor
  · intro hfails
    cases hfails with
    | validation hdiffers =>
      obtain ⟨_, _, _, _, _, hdiffers⟩ := hdiffers
      cases hdiffers
    | weights hagree hfault =>
      exact ⟨validateGroup_eq_ok_iff.mp (checkAgreement_eq_ok_iff.mpr hagree), hfault⟩
  · rintro ⟨hagree, hfault⟩
    cases routes with
    | nil =>
      rw [inMatchOrder, List.mergeSort_nil] at hfault
      exact absurd hfault not_firstFault_nil
    | cons first rest => exact .weights (hagree first List.mem_cons_self) hfault

namespace Config

/-- The rules of a virtual service split all the traffic of the routes that have one. -/
theorem forall₂_splitsFully (config : Config) {routes : List Route} {fqdn : String}
    {group : HostGroup} (hgroup : (config.synthesizerFor .istio).HasGroup routes fqdn group)
    (hcount : ∀ route ∈ routes, route.materialized.length ≤ 2147483647) :
    List.Forall₂ TrafficRule.SplitsFully
      (Traffic.rules ((config.synthesizerFor .istio).objectOf group))
      (ruledRoutes (routesOf fqdn routes)) := by
  have htraffic := config.forall₂_traffic .istio hgroup
  rw [List.forall₂_iff_zip] at htraffic ⊢
  refine ⟨htraffic.1, fun {rule route} hpair => ?_⟩
  obtain ⟨hserves, hresolves⟩ := htraffic.2 hpair
  refine ⟨hserves.map_weight, fun hsome => ?_, hserves.placeholder⟩
  obtain ⟨weights, hweights⟩ := hresolves hsome
  have hroute := (mem_ruledRoutes.mp (List.of_mem_zip hpair).2).1
  rw [hserves.weights_eq]
  exact route.sum_split hweights hsome (hcount route (mem_routesOf.mp hroute).1)

/-- Whatever the settings and labels, and whatever the weights, as long as each route has fewer than
2³¹ destinations: the rules of every virtual service are, one by one, those of the routes of its
hostname that have one, and each has the placeholder alone, without a weight, or a weight for every
destination, the given one or else its part of the even split, which sum to a hundred. All of this
is reckoned in words that are wide enough, and a hostname fails for a sum exactly where its routes
agree and the first fault of weights, in match order, is a sum of all weights of a route that is not
a hundred. -/
theorem virtualServices_split_hundred (config : Config) {routes : List Route}
    (hcount : ∀ route ∈ routes, route.destinations.length < 2 ^ 31) :
    (∀ object ∈ ((config.synthesizerFor .istio).synthesize routes).objects, ∃ fqdn,
      Resource.annotation? object fqdnKey = some fqdn ∧
      List.Forall₂ TrafficRule.SplitsFully (Traffic.rules object)
        (ruledRoutes (routesOf fqdn routes))) ∧
    (∀ route ∈ routes, route.WeighsExactly) ∧
    ∀ fqdn name, ⟨fqdn, .weightSum name⟩ ∈
        ((config.synthesizerFor .istio).synthesize routes).errors ↔
      (∃ route ∈ routes, route.fqdn = fqdn) ∧
      (∀ a ∈ routesOf fqdn routes, ∀ b ∈ routesOf fqdn routes, a.Agrees b) ∧
      FirstFault (Route.Misweighted true) (inMatchOrder (routesOf fqdn routes))
        (.weightSum name) := by
  have hmaterialized : ∀ route ∈ routes, route.materialized.length ≤ 2147483647 :=
    fun route hroute => Route.length_materialized_le (hcount route hroute)
  refine ⟨fun object hobject => ?_, fun route hroute => ?_, fun fqdn name => ?_⟩
  · obtain ⟨fqdn, _, group, hgroup, rfl⟩ := Synthesizer.mem_objects.mp hobject
    refine ⟨fqdn, ?_, config.forall₂_splitsFully hgroup hmaterialized⟩
    rw [Synthesizer.annotation?_objectOf (config.lawful_rendererFor .istio), hgroup.of.fqdn_eq]
  · exact Route.weighsExactly (hmaterialized route hroute)
  · rw [Synthesizer.mem_errors, mem_hostnames, Synthesizer.verdict_eq_error_iff,
      ← HostGroup.fails_weightSum_iff]
    refine and_congr_right fun _ => HostGroup.ofRoutes?_eq_error_iff fun route hroute => ?_
    exact hmaterialized route (mem_routesOf.mp hroute).1

/-- A route whose weights sum to a hundred, though neither is a percentage. -/
def skewedRoute : Route where
  metadata := { name := some "r", ns := some "apps" }
  host := "web"
  domain := { name := "example.com" }
  destinations := [
    { guid := "x", weight := some 150, port := some 8080, appGuid := "app", processType := "web" },
    { guid := "y", weight := some (-50), port := some 8080, appGuid := "app",
      processType := "web" }]

/-- A route of another hostname whose weights would sum to a hundred in 32 bits. -/
def wrappingRoute : Route where
  metadata := { name := some "s", ns := some "apps" }
  host := "shop"
  domain := { name := "example.com" }
  destinations := [some 2147483647, some 2147483647, some 102].map fun weight =>
    { guid := "z", weight, port := some 8080, appGuid := "app", processType := "web" }

/-- The hostname of a route that stands alone has a virtual service with its two weights. -/
theorem exists_group_skewedRoute {routes : List Route}
    (hroutes : routesOf "web.example.com" routes = [skewedRoute]) :
    ∃ group, (meshConfig.synthesizerFor .istio).HasGroup routes "web.example.com" group ∧
      (Traffic.rules ((meshConfig.synthesizerFor .istio).objectOf group)).map
        TrafficRule.weights = [[150, -50]] := by
  have hordered : inMatchOrder [skewedRoute] = [skewedRoute] := List.mergeSort_singleton _
  unfold Synthesizer.HasGroup HostGroup.ofRoutes?
  rw [hroutes, hordered]
  exact ⟨_, rfl, rfl⟩

/-- The weights of the first of these routes are taken, and the second fails its hostname, as its
sum does not fit into 32 bits. -/
theorem skewedRoute_splits_hundred :
    let mesh := (meshConfig.synthesizerFor .istio).synthesize [skewedRoute, wrappingRoute]
    (∃ object ∈ mesh.objects,
      List.Forall₂ TrafficRule.SplitsFully (Traffic.rules object) [skewedRoute]) ∧
    ⟨"shop.example.com", .weightSum "s"⟩ ∈ mesh.errors ∧ wrappingRoute.WeighsExactly := by
  intro mesh
  have hcount : ∀ route ∈ [skewedRoute, wrappingRoute], route.destinations.length < 2 ^ 31 := by
    decide
  obtain ⟨hobjects, hexact, hfaults⟩ := virtualServices_split_hundred meshConfig hcount
  have hweb : routesOf "web.example.com" [skewedRoute, wrappingRoute] = [skewedRoute] := by decide
  have hshop : routesOf "shop.example.com" [skewedRoute, wrappingRoute] = [wrappingRoute] := by
    decide
  have hordered (route : Route) : inMatchOrder [route] = [route] := List.mergeSort_singleton _
  refine ⟨?_, (hfaults _ _).mpr ⟨by decide, ?_, ?_⟩, hexact _ (by decide)⟩
  · obtain ⟨group, hgroup, _⟩ := exists_group_skewedRoute hweb
    have hobject : (meshConfig.synthesizerFor .istio).objectOf group ∈ mesh.objects :=
      Synthesizer.mem_objects.mpr ⟨_, mem_hostnames.mpr (by decide), group, hgroup, rfl⟩
    obtain ⟨fqdn, hfqdn, hrules⟩ := hobjects _ hobject
    rw [Synthesizer.annotation?_objectOf (meshConfig.lawful_rendererFor .istio),
      hgroup.of.fqdn_eq] at hfqdn
    cases hfqdn
    unfold ruledRoutes at hrules
    rw [hweb, hordered] at hrules
    exact ⟨_, hobject, hrules⟩
  · rw [hshop]
    simp only [List.mem_singleton, forall_eq]
    exact ⟨rfl, rfl⟩
  · have hfault : wrappingRoute.Misweighted true (.weightSum "s") :=
      .sum (by decide) (by decide) rfl (by decide)
    rw [hshop, hordered]
    exact firstFault_cons_iff.mpr (.inl hfault)

/-- Whatever the provider, its settings and the labels: no weight that the object of a hostname says
is negative exactly where no route of the hostname gives a materialized destination a negative one.
As a virtual service its weights then are percentages one by one, and only then, as long as each
route has fewer than 2³¹ destinations. -/
theorem weights_are_percentages_iff (config : Config) {routes : List Route} {fqdn : String}
    {object : config.provider.Object}
    (hobject : object ∈ (config.synthesizer.synthesize routes).objectsFor fqdn) :
    ((∀ rule ∈ Traffic.rules object, ∀ weight ∈ rule.weights, 0 ≤ weight) ↔
      ∀ route ∈ routesOf fqdn routes, route.GivesNoNegative) ∧
    (config.provider = .istio → (∀ route ∈ routes, route.destinations.length < 2 ^ 31) →
      ((∀ rule ∈ Traffic.rules object, ∀ weight ∈ rule.weights, 0 ≤ weight ∧ weight ≤ 100) ↔
        ∀ route ∈ routesOf fqdn routes, route.GivesNoNegative)) := by
  obtain ⟨group, hgroup, rfl⟩ :=
    (Synthesizer.mem_objectsFor _ _ config.lawful_synthesizer).mp hobject
  have htraffic := config.forall₂_traffic config.provider hgroup
  have hall (p : Int → Prop) : (∀ rule ∈ Traffic.rules (config.synthesizer.objectOf group),
        ∀ weight ∈ rule.weights, p weight) ↔
      ∀ route ∈ ruledRoutes (routesOf fqdn routes), ∀ share ∈ route.split.map Prod.snd,
        p share := by
    refine forall_mem_iff_of_forall₂ htraffic fun rule route hserved => ?_
    rw [hserved.1.weights_eq]
  rw [hall, hall, ← forall_ruledRoutes_givesNoNegative]
  constructor
  · exact forall₂_congr fun route _ => Route.split_nonneg_iff
  · intro hmesh hcount
    refine forall₂_congr fun route hroute => Route.split_percentages_iff fun hsome => ?_
    obtain ⟨_, _, _, hresolves⟩ := exists_of_mem_right htraffic hroute
    obtain ⟨weights, hweights⟩ := hresolves hsome
    have hasked : (config.rendererFor config.provider).requireWeightSum = true :=
      config.requireWeightSum_synthesizer.trans (decide_eq_true hmesh)
    rw [hasked] at hweights
    have hlisted : route ∈ routes := (mem_routesOf.mp (mem_ruledRoutes.mp hroute).1).1
    exact route.sum_split hweights hsome (Route.length_materialized_le (hcount route hlisted))

/-- A virtual service says the weights of this route, of which neither is a percentage. -/
theorem weights_of_skewedRoute_not_percentages :
    ∃ object ∈ (meshConfig.synthesizer.synthesize [skewedRoute]).objectsFor "web.example.com",
      (Traffic.rules object).map TrafficRule.weights = [[150, -50]] ∧
      (¬∀ rule ∈ Traffic.rules object, ∀ weight ∈ rule.weights, 0 ≤ weight) ∧
      ¬∀ rule ∈ Traffic.rules object, ∀ weight ∈ rule.weights, 0 ≤ weight ∧ weight ≤ 100 := by
  have hroutes : routesOf "web.example.com" [skewedRoute] = [skewedRoute] := by decide
  obtain ⟨group, hgroup, hweights⟩ := exists_group_skewedRoute hroutes
  have hobject : meshConfig.synthesizer.objectOf group ∈
      (meshConfig.synthesizer.synthesize [skewedRoute]).objectsFor "web.example.com" :=
    (Synthesizer.mem_objectsFor _ _ meshConfig.lawful_synthesizer).mpr ⟨group, hgroup, rfl⟩
  have hnegative : ¬∀ route ∈ routesOf "web.example.com" [skewedRoute],
      route.GivesNoNegative := by
    rw [hroutes]
    intro h
    exact absurd (h _ List.mem_cons_self _ (List.mem_of_getElem? (i := 1) rfl) (-50) rfl)
      (by decide)
  obtain ⟨hnonneg, hpercentages⟩ := weights_are_percentages_iff meshConfig hobject
  exact ⟨_, hobject, hweights, mt hnonneg.mp hnegative,
    mt (hpercentages rfl (by decide)).mp hnegative⟩

end Config

end Ingress
