import Ingress.Proofs.Synthesis.Provider

/-!
# Synthesis does not depend on the order of the listing

Routes that are told apart by namespace and name are put in match order in one way only, so a
listing in another order comes to the same objects and fails the same hostnames
(`Config.synthesize_eq_of_perm`). Only the wording of a disagreement may name other routes,
since routes are compared with the one that is listed first.
-/

namespace Ingress

/-- No two routes have one namespace and one name. -/
def RoutesDistinct (routes : List Route) : Prop :=
  (routes.map fun route => (route.ns, route.name)).Nodup

instance (routes : List Route) : Decidable (RoutesDistinct routes) :=
  inferInstanceAs (Decidable (List.Nodup _))

/-- Among distinct routes that can share a hostname, names tell routes apart. -/
theorem RoutesDistinct.eq_of_name_eq {routes : List Route} (h : RoutesDistinct routes)
    {a b : Route} (ha : a ∈ routes) (hb : b ∈ routes) (hagree : a.Agrees b)
    (hname : a.name = b.name) : a = b :=
  List.inj_on_of_nodup_map h ha hb (Prod.ext hagree.ns hname)

/-- Distinct routes of a hostname that agree have distinct names. -/
theorem RoutesDistinct.nodup_names {routes : List Route} (h : RoutesDistinct routes) {fqdn : String}
    (hvalid : validateGroup (routesOf fqdn routes) = .ok ()) :
    ((routesOf fqdn routes).map Route.name).Nodup := by
  refine List.Nodup.map_on (fun a ha b hb hname => ?_) ((List.Nodup.of_map _ h).filter _)
  exact h.eq_of_name_eq (mem_routesOf.mp ha).1 (mem_routesOf.mp hb).1
    (validateGroup_eq_ok_iff.mp hvalid a ha b hb) hname

/-- Leaving out routes that are being deleted leaves distinct routes. -/
theorem RoutesDistinct.kept {listed : List Route} (h : RoutesDistinct listed) :
    RoutesDistinct (Reconciler.kept listed) :=
  h.sublist (List.filter_sublist.map _)

/-- A listing in another order keeps the same routes, up to their order. -/
theorem Reconciler.kept_perm {first second : List Route} (h : first.Perm second) :
    (kept first).Perm (kept second) :=
  h.filter _

namespace Synthesizer

variable {K : Type} {first second : List Route}

/-- The routes of a hostname that agree come to the same group or the same fault of weights. -/
theorem verdict_eq_of_perm (s : Synthesizer K) (h : first.Perm second)
    (hdistinct : RoutesDistinct first) {fqdn : String}
    (hvalid : validateGroup (routesOf fqdn first) = .ok ()) :
    s.verdict fqdn (routesOf fqdn first) = s.verdict fqdn (routesOf fqdn second) := by
  have hagree := validateGroup_eq_ok_iff.mp hvalid
  unfold verdict
  rw [HostGroup.ofRoutes?_eq_of_perm _ _ (routesOf_perm fqdn h) _ hvalid]
  intro a ha b hb hname
  exact hdistinct.eq_of_name_eq (mem_routesOf.mp ha).1 (mem_routesOf.mp hb).1
    (hagree a ha b hb) hname

/-- The routes of a hostname that do not agree fail in every order. -/
theorem verdict_eq_error_of_perm (s : Synthesizer K) (h : first.Perm second) {fqdn : String}
    (hvalid : validateGroup (routesOf fqdn first) ≠ .ok ()) :
    ∃ cause cause', s.verdict fqdn (routesOf fqdn first) = .error cause ∧
      s.verdict fqdn (routesOf fqdn second) = .error cause' := by
  have hvalid' : validateGroup (routesOf fqdn second) ≠ .ok () := by
    rwa [ne_eq, ← validateGroup_eq_ok_iff_of_perm (routesOf_perm fqdn h)]
  obtain ⟨cause, hcause⟩ := HostGroup.ofRoutes?_eq_error hvalid
  obtain ⟨cause', hcause'⟩ := HostGroup.ofRoutes?_eq_error hvalid'
  refine ⟨cause, cause', ?_, ?_⟩
  · unfold verdict
    rw [hcause]
    rfl
  · unfold verdict
    rw [hcause']
    rfl

/-- What is read off the verdicts without a look at the faults does not depend on the order. -/
theorem filterMap_verdicts_eq_of_perm (s : Synthesizer K) (h : first.Perm second)
    (hdistinct : RoutesDistinct first) {β : Type}
    {view : String × Except SynthesisError (Option K) → Option β}
    (hview : ∀ fqdn cause cause', view (fqdn, .error cause) = view (fqdn, .error cause')) :
    (s.verdicts first).filterMap view = (s.verdicts second).filterMap view := by
  unfold verdicts
  rw [List.filterMap_map, List.filterMap_map, ← hostnames_eq_of_perm h]
  refine List.filterMap_congr fun fqdn _ => ?_
  change view (fqdn, s.verdict fqdn (routesOf fqdn first)) =
    view (fqdn, s.verdict fqdn (routesOf fqdn second))
  by_cases hvalid : validateGroup (routesOf fqdn first) = .ok ()
  · rw [s.verdict_eq_of_perm h hdistinct hvalid]
  · obtain ⟨cause, cause', hfirst, hsecond⟩ := s.verdict_eq_error_of_perm h hvalid
    rw [hfirst, hsecond]
    exact hview fqdn cause cause'

/-- A listing in another order comes to the same objects. -/
theorem objects_eq_of_perm (s : Synthesizer K) (h : first.Perm second)
    (hdistinct : RoutesDistinct first) :
    (s.synthesize first).objects = (s.synthesize second).objects :=
  s.filterMap_verdicts_eq_of_perm h hdistinct fun _ _ _ => rfl

/-- A listing in another order fails the same hostnames. -/
theorem failedFqdns_eq_of_perm (s : Synthesizer K) (h : first.Perm second)
    (hdistinct : RoutesDistinct first) :
    (s.synthesize first).failedFqdns = (s.synthesize second).failedFqdns := by
  unfold Synthesis.failedFqdns synthesize
  rw [List.map_filterMap, List.map_filterMap]
  exact s.filterMap_verdicts_eq_of_perm h hdistinct fun _ _ _ => rfl

/-- Where the routes of a hostname agree, a listing in another order finds the same fault. -/
theorem mem_errors_iff_of_perm (s : Synthesizer K) (h : first.Perm second)
    (hdistinct : RoutesDistinct first) {failure : GroupError}
    (hvalid : validateGroup (routesOf failure.fqdn first) = .ok ()) :
    failure ∈ (s.synthesize first).errors ↔ failure ∈ (s.synthesize second).errors := by
  rw [mem_errors, mem_errors, hostnames_eq_of_perm h, s.verdict_eq_of_perm h hdistinct hvalid]

/-- A listing in another order comes to the same services, up to their order. -/
theorem services_perm (s : Synthesizer K) (h : first.Perm second) :
    (s.services first).Perm (s.services second) :=
  h.flatMap_right _

end Synthesizer

namespace Config

variable {first second : List Route}

/-- Whatever the provider and its settings, distinct routes come to the same objects in the same
order, and to the same failed hostnames in the same order, however they are listed; and a hostname
whose routes agree with each other fails for the same reason. -/
theorem synthesize_eq_of_perm (config : Config) (hperm : first.Perm second)
    (hdistinct : RoutesDistinct first) :
    (config.synthesizer.synthesize first).objects =
        (config.synthesizer.synthesize second).objects ∧
      (config.synthesizer.synthesize first).failedFqdns =
        (config.synthesizer.synthesize second).failedFqdns ∧
      ∀ failure : GroupError, validateGroup (routesOf failure.fqdn first) = .ok () →
        (failure ∈ (config.synthesizer.synthesize first).errors ↔
          failure ∈ (config.synthesizer.synthesize second).errors) := by
  refine ⟨?_, ?_, ?_⟩
  · exact config.synthesizer.objects_eq_of_perm hperm hdistinct
  · exact config.synthesizer.failedFqdns_eq_of_perm hperm hdistinct
  · intro failure hvalid
    exact config.synthesizer.mem_errors_iff_of_perm hperm hdistinct hvalid

/-- Three routes of one hostname and one URL, told apart by their names, of which two have weights
that do not sum to a hundred, and a route of another hostname. -/
def tiedRoutes : List Route :=
  let route (name host : String) (weight : Option Int32) : Route := {
    metadata := { name := some name, ns := some "apps" }
    host
    domain := { name := "example.com" }
    destinations := [
      { guid := name, weight, port := some 8080, appGuid := "app", processType := "web" }] }
  [route "a" "web" none, route "b" "web" (some 60), route "c" "web" (some 70),
    route "d" "shop" none]

/-- A mesh controller without settings. -/
def meshConfig : Config where
  provider := .istio

/-- Of the tied routes the first by name with faulty weights fails the hostname. -/
theorem mem_errors_tiedRoutes :
    ⟨"web.example.com", .weightSum "b"⟩ ∈ (meshConfig.synthesizer.synthesize tiedRoutes).errors := by
  have hserved : ∃ route ∈ tiedRoutes, route.fqdn = "web.example.com" := by decide
  have hordered : inMatchOrder (routesOf "web.example.com" tiedRoutes) =
      routesOf "web.example.com" tiedRoutes :=
    List.mergeSort_of_pairwise (by decide)
  refine Synthesizer.mem_errors.mpr ⟨mem_hostnames.mpr hserved, ?_⟩
  rw [Synthesizer.verdict_eq_error_iff]
  unfold HostGroup.ofRoutes?
  rw [hordered]
  decide

/-- The tied routes, listed the other way round, come to the same objects and the same fault. -/
theorem synthesize_tiedRoutes_reversed :
    (meshConfig.synthesizer.synthesize tiedRoutes).objects =
        (meshConfig.synthesizer.synthesize tiedRoutes.reverse).objects ∧
      (meshConfig.synthesizer.synthesize tiedRoutes).failedFqdns =
        (meshConfig.synthesizer.synthesize tiedRoutes.reverse).failedFqdns ∧
      ⟨"web.example.com", .weightSum "b"⟩ ∈
        (meshConfig.synthesizer.synthesize tiedRoutes.reverse).errors := by
  obtain ⟨hobjects, hfailed, herrors⟩ := synthesize_eq_of_perm meshConfig
    (List.reverse_perm tiedRoutes).symm (by decide)
  exact ⟨hobjects, hfailed, (herrors _ (by decide)).mp mem_errors_tiedRoutes⟩

end Config

end Ingress
