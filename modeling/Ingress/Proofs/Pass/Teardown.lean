import Ingress.Proofs.Pass.Convergence
import Ingress.Proofs.Synthesis.Backend

/-!
# Services that go while an ingress object still names them

Ingress objects of hostnames that failed are retained, but services are pruned for every
hostname alike. `backend_missing_iff` says when a pass that started with every backend in place
leaves a live object whose backend is gone: exactly when the object was retained and its service
was a managed one that no listed route asks for any more. Objects that were brought about by the
pass itself never miss a backend.
-/

namespace Ingress.Cluster

variable {config : Config} {scope : Option String} {c : Cluster config.provider.Object}

/-- Every managed ingress object names only services that are there, or the placeholder. -/
def BackendsInPlace (c : Cluster config.provider.Object) : Prop :=
  ∀ key object, c.ingresses.memory.get? key = some object → Resource.IsManaged object →
    ∀ name ∈ Routed.backendNames object, name ≠ placeholderName →
      ∃ service, c.services.memory.get? ⟨key.ns, name⟩ = some service

/-- What lies under a desired key after a pass sends traffic to desired services, or to the
placeholder. -/
theorem desired_of_mem_backendNames (hingresses : c.ingresses.memory.Keyed)
    (hroutes : ∀ route ∈ c.routes, NsInScope scope route.ns) {key : ObjectKey}
    (hkey : key ∈ (config.synthesizer.synthesize c.routes).objects.map Resource.key)
    {object : config.provider.Object}
    (hlive : (c.passed config.synthesizer scope).ingresses.memory.get? key = some object)
    {name : String} (hname : name ∈ Routed.backendNames object) (hreal : name ≠ placeholderName) :
    ⟨key.ns, name⟩ ∈ (config.synthesizer.services c.routes).map Resource.key := by
  have hlawful := config.lawful_synthesizer
  obtain ⟨desired, hdesired, rfl, live, hlive', hagrees⟩ :=
    hingresses.exists_agrees_converged scope
      (servesFailed (config.synthesizer.synthesize c.routes).failedFqdns)
      (fun object => Synthesizer.agrees_of_mem_objects hlawful)
      (fun object => Synthesizer.ns_of_mem_objects hlawful hroutes) hkey
  have hsame : live = object := Option.some.inj (hlive'.symm.trans hlive)
  rw [← hsame, hagrees.backendNames_eq] at hname
  exact (config.exists_service_of_mem_backendNames hdesired hname).resolve_left hreal

/-- A desired service is there after a pass. -/
theorem exists_service_of_desired (hservices : c.services.memory.Keyed)
    (hroutes : ∀ route ∈ c.routes, NsInScope scope route.ns) {key : ObjectKey}
    (hkey : key ∈ (config.synthesizer.services c.routes).map Resource.key) :
    (c.passed config.synthesizer scope).services.memory.get? key ≠ none := by
  obtain ⟨_, _, _, live, hlive, _⟩ := hservices.exists_agrees_converged scope (fun _ => false)
    (fun service => Synthesizer.agrees_of_mem_services)
    (fun service => Synthesizer.ns_of_mem_services hroutes) hkey
  exact Option.ne_none_iff_exists'.mpr ⟨live, hlive⟩

/-- After a pass in which nothing fails, over routes that lie in scope, a backend of a live
managed object is missing exactly if the object was retained for a hostname that failed and the
backend was a managed service that is no longer desired. -/
theorem backend_missing_iff (hcalm : c.Calm) (hingresses : c.ingresses.memory.Keyed)
    (hservices : c.services.memory.Keyed) (hbackends : c.BackendsInPlace)
    (hroutes : ∀ route ∈ c.routes, NsInScope scope route.ns) :
    ∃ summary log after,
      c.reconcile config.synthesizer scope = ((.ok summary, log), after) ∧
      ∀ key object, after.ingresses.memory.get? key = some object →
        Resource.IsManaged object → ∀ name ∈ Routed.backendNames object,
        name ≠ placeholderName →
        (after.services.memory.get? ⟨key.ns, name⟩ = none ↔
          (key ∉ (config.synthesizer.synthesize c.routes).objects.map Resource.key ∧
            c.ingresses.memory.Manages scope key object ∧
            ∃ failure ∈ summary.groupErrors,
              Resource.annotation? object fqdnKey = some failure.fqdn) ∧
          ⟨key.ns, name⟩ ∉ (config.synthesizer.services c.routes).map Resource.key ∧
            ∃ service, c.services.memory.Manages scope ⟨key.ns, name⟩ service) := by
  obtain ⟨summary, log, hpass, herrors, _⟩ := reconcile_of_calm config.synthesizer scope hcalm
    hingresses hservices
  refine ⟨summary, log, _, hpass, ?_⟩
  intro key object hlive hmanaged name hname hreal
  by_cases hdesired : key ∈ (config.synthesizer.synthesize c.routes).objects.map Resource.key
  · have hservice := desired_of_mem_backendNames hingresses hroutes hdesired hlive hname hreal
    constructor
    · intro hnone
      exact absurd hnone (exists_service_of_desired hservices hroutes hservice)
    · rintro ⟨⟨hcon, _⟩, _⟩
      exact absurd hdesired hcon
  · obtain ⟨hbefore, hkept⟩ := (hingresses.get?_converged_eq_some_iff hdesired).mp hlive
    obtain ⟨service, hservice⟩ := hbackends key object hbefore hmanaged name hname hreal
    by_cases hasked :
        ⟨key.ns, name⟩ ∈ (config.synthesizer.services c.routes).map Resource.key
    · constructor
      · intro hnone
        exact absurd hnone (exists_service_of_desired hservices hroutes hasked)
      · rintro ⟨_, hcon, _⟩
        exact absurd hasked hcon
    -- Nobody asks for the service any more, so only pruning decides what becomes of it.
    · refine (hservices.get?_converged_eq_none_iff hasked hservice).trans ?_
      constructor
      · rintro ⟨hin, hown, _⟩
        have hfailed := servesFailed_failedFqdns_iff.mp (hkept hin hmanaged)
        rw [← herrors] at hfailed
        exact ⟨⟨hdesired, ⟨hbefore, hin, hmanaged⟩, hfailed⟩, hasked, service, hservice, hin,
          hown⟩
      · rintro ⟨_, _, other, hother, hin, hown⟩
        rw [hservice] at hother
        cases hother
        exact ⟨hin, hown, rfl⟩

/-- A mesh controller for all namespaces. -/
def teardownConfig : Config where
  provider := .istio
  gateways := ["ingress"]

/-- A route whose destination has been replaced by two, of which only one has a weight. -/
def teardownRoute : Route where
  metadata := { name := some "r", ns := some "apps" }
  host := "web"
  domain := { name := "example.com" }
  destinations := [
    { guid := "y", weight := some 50, port := some 8080, appGuid := "app", processType := "web" },
    { guid := "z", port := some 8080, appGuid := "app", processType := "web" }]

/-- The virtual service of the route as it was, with a destination `x`. -/
def teardownObject : VirtualService where
  metadata := {
    name := some "vs-web"
    ns := some "apps"
    labels := some (managedLabels ∅)
    annotations := some (Std.ExtTreeMap.ofList [(fqdnKey, "web.example.com")]) }
  spec := {
    hosts := ["web.example.com"]
    rules := [{ destinations := [{ host := "s-x" }] }] }

/-- The service of the destination `x`. -/
def teardownService : Service where
  metadata := { name := some "s-x", ns := some "apps", labels := some (managedLabels ∅) }

/-- The virtual service and the service of the route as it was, and the route as it is. -/
def teardownCluster : Cluster teardownConfig.provider.Object where
  listing := { routes := [teardownRoute] }
  ingresses := { memory := MemoryStore.insert {} teardownObject }
  services := { memory := MemoryStore.insert {} teardownService }

/-- The hostname of the sample fails. -/
theorem mem_failedFqdns_teardownCluster :
    "web.example.com" ∈
      (teardownConfig.synthesizer.synthesize teardownCluster.routes).failedFqdns := by
  have hserved : ∃ route ∈ teardownCluster.routes, route.fqdn = "web.example.com" := by decide
  refine Synthesizer.mem_failedFqdns.mpr ⟨mem_hostnames.mpr hserved, .partialWeights "r", ?_⟩
  have hroutes : routesOf "web.example.com" teardownCluster.routes = [teardownRoute] := by decide
  have hordered : inMatchOrder [teardownRoute] = [teardownRoute] := List.mergeSort_singleton _
  rw [hroutes]
  unfold HostGroup.ofRoutes?
  rw [hordered]
  rfl

/-- No virtual service is desired for the sample. -/
theorem notMem_objects_teardownCluster {key : ObjectKey} :
    key ∉ (teardownConfig.synthesizer.synthesize teardownCluster.routes).objects.map
      Resource.key := by
  intro hkey
  obtain ⟨object, hobject, _⟩ := List.mem_map.mp hkey
  obtain ⟨route, hroute, hfine, _⟩ :=
    Synthesizer.exists_route_of_mem_objects teardownConfig.lawful_synthesizer hobject
  cases List.mem_singleton.mp hroute
  exact hfine mem_failedFqdns_teardownCluster

/-- The service of the sample is there before the pass. -/
theorem get?_teardownService :
    teardownCluster.services.memory.get? ⟨"apps", "s-x"⟩ = some teardownService :=
  (MemoryStore.get?_insert ..).trans (if_pos rfl)

/-- Before the pass the virtual service of the sample has its service. -/
theorem backendsInPlace_teardownCluster : teardownCluster.BackendsInPlace := by
  intro key object hlive _ name hname _
  rw [show teardownCluster.ingresses.memory.get? key = _ from MemoryStore.get?_insert ..] at hlive
  split at hlive
  · next hkey =>
    cases hlive
    cases List.mem_singleton.mp hname
    rw [hkey]
    exact ⟨teardownService, get?_teardownService⟩
  · rw [MemoryStore.get?_empty] at hlive
    cases hlive

/-- A pass retains the virtual service of the sample as it was. -/
theorem get?_passed_teardownCluster :
    teardownCluster.ingresses.memory.get? ⟨"apps", "vs-web"⟩ = some teardownObject ∧
      (teardownCluster.passed teardownConfig.synthesizer none).ingresses.memory.get?
        ⟨"apps", "vs-web"⟩ = some teardownObject := by
  have hkeyed : teardownCluster.ingresses.memory.Keyed := MemoryStore.keyed_empty.insert _
  have hlive : teardownCluster.ingresses.memory.get? ⟨"apps", "vs-web"⟩ = some teardownObject :=
    (MemoryStore.get?_insert ..).trans (if_pos rfl)
  have hannotation : Resource.annotation? teardownObject fqdnKey = some "web.example.com" := by
    decide
  have hkept : servesFailed
      (teardownConfig.synthesizer.synthesize teardownCluster.routes).failedFqdns
      teardownObject = true :=
    servesFailed_iff.mpr ⟨_, mem_failedFqdns_teardownCluster, hannotation⟩
  exact ⟨hlive, (hkeyed.get?_converged_eq_some_iff notMem_objects_teardownCluster).mpr
    ⟨hlive, fun _ _ => hkept⟩⟩

/-- The virtual service of the sample is retained without its service. -/
theorem teardownObject_misses_its_service :
    ∃ summary log after,
      teardownCluster.reconcile teardownConfig.synthesizer none = ((.ok summary, log), after) ∧
      after.ingresses.memory.get? ⟨"apps", "vs-web"⟩ = some teardownObject ∧
      after.services.memory.get? ⟨"apps", "s-x"⟩ = none := by
  have hcalm : teardownCluster.Calm := ⟨rfl, rfl, rfl⟩
  have hingresses : teardownCluster.ingresses.memory.Keyed := MemoryStore.keyed_empty.insert _
  have hservices : teardownCluster.services.memory.Keyed := MemoryStore.keyed_empty.insert _
  have hroutes : ∀ route ∈ teardownCluster.routes, NsInScope none route.ns := by
    intro route hroute
    cases List.mem_singleton.mp hroute
    exact ⟨"apps", rfl, nofun⟩
  obtain ⟨summary, log, after, hpass, hmissing⟩ := backend_missing_iff hcalm hingresses hservices
    backendsInPlace_teardownCluster hroutes
  obtain ⟨_, _, hpassed, herrors, _⟩ := reconcile_of_calm teardownConfig.synthesizer none hcalm
    hingresses hservices
  rw [hpassed] at hpass
  cases hpass
  obtain ⟨hbefore, hlive⟩ := get?_passed_teardownCluster
  have hmanaged : Resource.IsManaged teardownObject := Std.ExtTreeMap.getElem?_insert_self
  have hmanaged' : Resource.IsManaged teardownService := Std.ExtTreeMap.getElem?_insert_self
  obtain ⟨failure, hfailure, hfqdn⟩ := List.mem_map.mp mem_failedFqdns_teardownCluster
  have hannotation : Resource.annotation? teardownObject fqdnKey = some failure.fqdn := by
    rw [hfqdn]
    decide
  refine ⟨_, _, _, hpassed, hlive, ?_⟩
  rw [hmissing _ _ hlive hmanaged "s-x" (by decide) (by decide)]
  refine ⟨⟨notMem_objects_teardownCluster, ⟨hbefore, nofun, hmanaged⟩, failure, ?_, hannotation⟩,
    by decide, teardownService, get?_teardownService, nofun, hmanaged'⟩
  exact herrors ▸ hfailure

end Ingress.Cluster
