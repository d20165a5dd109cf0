import Ingress.Proofs.Pass.Calm
import Ingress.Proofs.Synthesis.Order
import Ingress.Proofs.Synthesis.Provider

/-!
# Passes converge

One pass on a calm cluster settles every managed object in scope: what is desired is there and
agrees, what a failed hostname had is kept, and the rest is gone
(`reconcile_leaves_desired_and_retained`). A second pass over the same routes, listed in any
order, has nothing left to do (`reconcile_of_perm_writes_nothing`).
-/

namespace Ingress

namespace MemoryStore

variable {K : Type} [Managed K]

/-- A live object of this program, in the namespace that pruning is confined to. -/
def Manages (s : MemoryStore K) (scope : Option String) (key : ObjectKey) (object : K) : Prop :=
  s.get? key = some object ∧ key.InScope scope ∧ Resource.IsManaged object

variable [ManagedView K]

/-- A store has come to hold exactly what is desired of it and what is to be retained. -/
structure Convergence (before after : MemoryStore K) (scope : Option String) (desired : List K)
    (retained : K → Prop) : Prop where
  /-- Managed are the objects under desired keys, and of those that were managed before the ones
  that are to be retained. -/
  manages_iff (key : ObjectKey) (object : K) : after.Manages scope key object ↔
    key ∈ desired.map Resource.key ∧ after.get? key = some object ∨
    key ∉ desired.map Resource.key ∧ before.Manages scope key object ∧ retained object
  /-- Under every desired key lies an object that agrees with the desired one. -/
  agrees : ∀ object ∈ desired, ∃ live,
    after.get? (Resource.key object) = some live ∧ Managed.Agrees live object
  /-- Where nothing was managed and nothing is desired, nothing changes. -/
  untouched (key : ObjectKey) : key ∉ desired.map Resource.key →
    (∀ object, ¬ before.Manages scope key object) → after.get? key = before.get? key

variable [LawfulManaged K] [DecidableEq K]

/-- A phase converges where desired objects are managed, in scope and have distinct keys. -/
theorem Keyed.convergence {s : MemoryStore K} (h : s.Keyed) {scope : Option String}
    {desired : List K} {keep : K → Bool} {retained : K → Prop}
    (hself : ∀ object ∈ desired, Managed.Agrees object object)
    (hmanaged : ∀ object ∈ desired, Resource.IsManaged object)
    (hscope : ∀ object ∈ desired, NsInScope scope (Resource.ns object))
    (hnodup : (desired.map Resource.key).Nodup)
    (hkeep : ∀ object, keep object = true ↔ retained object) :
    s.Convergence (s.converged scope desired keep) scope desired retained := by
  have hagrees : ∀ object ∈ desired, ∃ live,
      (s.converged scope desired keep).get? (Resource.key object) = some live ∧
        Managed.Agrees live object := by
    intro object hobject
    exact (h.settled_converged scope keep hself hnodup object hobject).resolve_left
      (hscope object hobject).ne_none
  refine ⟨?_, hagrees, ?_⟩
  · intro key object
    by_cases hkey : key ∈ desired.map Resource.key
    · simp only [hkey, true_and, not_true_eq_false, false_and, or_false]
      constructor
      · exact And.left
      · intro hlive
        obtain ⟨wanted, hwanted, rfl⟩ := List.mem_map.mp hkey
        obtain ⟨live, hlive', hlike⟩ := hagrees wanted hwanted
        rw [hlive] at hlive'
        cases hlive'
        exact ⟨hlive, (hscope wanted hwanted).key, hlike.isManaged (hmanaged wanted hwanted)⟩
    · simp only [hkey, false_and, not_false_eq_true, true_and, false_or]
      unfold Manages
      rw [h.get?_converged_eq_some_iff hkey, ← hkeep object]
      constructor
      · rintro ⟨⟨hlive, hkept⟩, hin, hown⟩
        exact ⟨⟨hlive, hin, hown⟩, hkept hin hown⟩
      · rintro ⟨⟨hlive, hin, hown⟩, hkept⟩
        exact ⟨⟨hlive, fun _ _ => hkept⟩, hin, hown⟩
  · intro key hkey hnone
    apply Option.ext
    intro object
    rw [h.get?_converged_eq_some_iff hkey]
    refine and_iff_left_of_imp fun hlive hin hown => ?_
    exact absurd ⟨hlive, hin, hown⟩ (hnone object)

end MemoryStore

namespace Cluster

variable {config : Config} {scope : Option String} {c : Cluster config.provider.Object}

/-- A pass in which nothing fails, over routes that all lie in scope, leaves in scope exactly
the managed objects that are desired and, of ingress objects, those that were there for a
hostname that failed. Services are desired for every route, whether its hostname failed or
not. -/
theorem reconcile_leaves_desired_and_retained (hcalm : c.Calm)
    (hingresses : c.ingresses.memory.Keyed) (hservices : c.services.memory.Keyed)
    (hroutes : ∀ route ∈ c.routes, NsInScope scope route.ns)
    (hdigests : DigestsDistinct c.routes)
    (hkeys : ((config.synthesizer.services c.routes).map Resource.key).Nodup) :
    ∃ summary log after,
      c.reconcile config.synthesizer scope = ((.ok summary, log), after) ∧
      c.ingresses.memory.Convergence after.ingresses.memory scope
        (config.synthesizer.synthesize c.routes).objects
        (fun object => ∃ failure ∈ summary.groupErrors,
          Resource.annotation? object fqdnKey = some failure.fqdn) ∧
      c.services.memory.Convergence after.services.memory scope
        (config.synthesizer.services c.routes) fun _ => False := by
  have hlawful := config.lawful_synthesizer
  obtain ⟨summary, log, hpass, herrors, _⟩ := reconcile_of_calm config.synthesizer scope hcalm
    hingresses hservices
  refine ⟨summary, log, _, hpass, ?_, ?_⟩
  · refine hingresses.convergence (fun object => Synthesizer.agrees_of_mem_objects hlawful) ?_
      (fun object => Synthesizer.ns_of_mem_objects hlawful hroutes)
      (Synthesizer.nodup_keys_objects hlawful hdigests) ?_
    · intro object hobject
      obtain ⟨_, _, group, _, rfl⟩ := Synthesizer.mem_objects.mp hobject
      exact Synthesizer.isManaged_objectOf hlawful group
    · intro object
      rw [servesFailed_failedFqdns_iff, herrors]
  · refine hservices.convergence (fun service => Synthesizer.agrees_of_mem_services)
      (fun service => Synthesizer.isManaged_of_mem_services)
      (fun service => Synthesizer.ns_of_mem_services hroutes) hkeys ?_
    simp

/-- A proxy controller with a namespace of its own. -/
def sampleConfig : Config where
  provider := .contour
  ns := some "apps"
  labels := Std.ExtTreeMap.ofList [("team", "edge")]

/-- Three routes: a good one, one whose weights are incomplete, and one that is being deleted. -/
def sampleRoutes : List Route := [
  { metadata := { name := some "good", ns := some "apps" }
    host := "good"
    domain := { name := "example.com" }
    destinations := [{ guid := "a", port := some 8080, appGuid := "app", processType := "web" }] },
  { metadata := { name := some "bad", ns := some "apps" }
    host := "bad"
    domain := { name := "example.com" }
    destinations := [
      { guid := "b", weight := some 50, port := some 80, appGuid := "app", processType := "web" },
      { guid := "c", port := some 80, appGuid := "app", processType := "web" }] },
  { metadata := {
      name := some "leaving", ns := some "apps", deletionTimestamp := some ⟨2024, 1, 1, 0, 0, 0⟩ }
    host := "leaving"
    domain := { name := "example.com" } }]

/-- A proxy of the hostname whose route is bad, and a service that no route asks for. -/
def sampleCluster : Cluster sampleConfig.provider.Object where
  listing := { routes := sampleRoutes }
  ingresses := {
    memory := MemoryStore.insert {} (HttpProxy.mk {
      name := some "hp-bad"
      ns := some "apps"
      labels := some (managedLabels ∅)
      annotations := some (Std.ExtTreeMap.ofList [(fqdnKey, "bad.example.com")]) } {}) }
  services := {
    memory := MemoryStore.insert {} (Service.mk {
      name := some "s-gone"
      ns := some "apps"
      labels := some (managedLabels ∅) } none none) }

/-- The proxy of the bad hostname is retained, and the service that nobody asks for is not. -/
theorem reconcile_sampleCluster_leaves_desired_and_retained :
    ∃ summary log after,
      sampleCluster.reconcile sampleConfig.synthesizer (some "apps") =
        ((.ok summary, log), after) ∧
      sampleCluster.ingresses.memory.Convergence after.ingresses.memory (some "apps")
        (sampleConfig.synthesizer.synthesize sampleCluster.routes).objects
        (fun object => ∃ failure ∈ summary.groupErrors,
          Resource.annotation? object fqdnKey = some failure.fqdn) ∧
      sampleCluster.services.memory.Convergence after.services.memory (some "apps")
        (sampleConfig.synthesizer.services sampleCluster.routes) fun _ => False := by
  have hroutes : ∀ route ∈ sampleCluster.routes, route.ns = some "apps" := by decide
  refine reconcile_leaves_desired_and_retained ⟨rfl, rfl, rfl⟩
    (MemoryStore.keyed_empty.insert _) (MemoryStore.keyed_empty.insert _) ?_
    (by decide +kernel) (by decide)
  intro route hroute
  refine ⟨"apps", hroutes route hroute, fun only honly => ?_⟩
  exact Option.some.inj honly

/-- After a pass in which nothing fails, a second one over the same routes, listed in any order,
writes nothing and fails the same hostnames. -/
theorem reconcile_of_perm_writes_nothing (hcalm : c.Calm)
    (hingresses : c.ingresses.memory.Keyed) (hservices : c.services.memory.Keyed)
    (hroutes : RoutesDistinct c.listing.routes) (hdigests : DigestsDistinct c.routes)
    (hkeys : ((config.synthesizer.services c.routes).map Resource.key).Nodup)
    {relisted : List Route} (hperm : c.listing.routes.Perm relisted) :
    ∃ summary log after again log' final,
      c.reconcile config.synthesizer scope = ((.ok summary, log), after) ∧
      ({ after with listing := { routes := relisted } } : Cluster _).reconcile
        config.synthesizer scope = ((.ok again, log'), final) ∧
      again.created = 0 ∧ again.updated = 0 ∧ again.deleted = 0 ∧
      final.ingresses = after.ingresses ∧ final.services = after.services ∧
      again.groupErrors.map GroupError.fqdn = summary.groupErrors.map GroupError.fqdn := by
  have hlawful := config.lawful_synthesizer
  let after := c.passed config.synthesizer scope
  let next : Cluster config.provider.Object := { after with listing := { routes := relisted } }
  have hnext : next.Calm := ⟨rfl, rfl, rfl⟩
  have hkept : c.routes.Perm next.routes := Reconciler.kept_perm hperm
  have hobjects := config.synthesizer.objects_eq_of_perm hkept hroutes.kept
  have hfailed := config.synthesizer.failedFqdns_eq_of_perm hkept hroutes.kept
  -- The order of the listing reaches the objects and failures of no hostname, and services only
  -- up to order, so what the first pass left is stable for the second one's desired objects.
  have hstable : next.ingresses.memory.Stable scope
      (config.synthesizer.synthesize next.routes).objects
      (servesFailed (config.synthesizer.synthesize next.routes).failedFqdns) := by
    rw [← hobjects, ← hfailed]
    exact hingresses.stable_converged scope _
      (fun object => Synthesizer.agrees_of_mem_objects hlawful)
      (Synthesizer.nodup_keys_objects hlawful hdigests)
  have hstable' : next.services.memory.Stable scope
      (config.synthesizer.services next.routes) (fun _ => false) :=
    (hservices.stable_converged scope _
      (fun service => Synthesizer.agrees_of_mem_services) hkeys).of_perm
      (config.synthesizer.services_perm hkept)
  obtain ⟨summary, log, hpass, herrors, _⟩ := reconcile_of_calm config.synthesizer scope hcalm
    hingresses hservices
  obtain ⟨again, log', hpass', herrors', hchanges⟩ := reconcile_of_calm config.synthesizer scope
    hnext hstable.keyed hstable'.keyed
  have hnone := hchanges hstable hstable'
  simp only [Summary.changes, Prod.mk.injEq] at hnone
  refine ⟨summary, log, after, again, log', _, hpass, hpass', hnone.1, hnone.2.1, hnone.2.2,
    ?_, ?_, ?_⟩
  · exact congrArg (FaultyStore.mk · []) hstable.converged_eq_self
  · exact congrArg (FaultyStore.mk · []) hstable'.converged_eq_self
  · rw [herrors, herrors']
    exact hfailed.symm

/-- Listing the sample routes the other way round gives a second pass nothing to write. -/
theorem reconcile_sampleCluster_reversed_writes_nothing :
    ∃ summary log after again log' final,
      sampleCluster.reconcile sampleConfig.synthesizer none = ((.ok summary, log), after) ∧
      ({ after with listing := { routes := sampleRoutes.reverse } } : Cluster _).reconcile
        sampleConfig.synthesizer none = ((.ok again, log'), final) ∧
      again.created = 0 ∧ again.updated = 0 ∧ again.deleted = 0 ∧
      final.ingresses = after.ingresses ∧ final.services = after.services ∧
      again.groupErrors.map GroupError.fqdn = summary.groupErrors.map GroupError.fqdn :=
  reconcile_of_perm_writes_nothing ⟨rfl, rfl, rfl⟩ (MemoryStore.keyed_empty.insert _)
    (MemoryStore.keyed_empty.insert _) (by decide) (by decide +kernel) (by decide)
    (List.reverse_perm sampleRoutes).symm

end Cluster

end Ingress
