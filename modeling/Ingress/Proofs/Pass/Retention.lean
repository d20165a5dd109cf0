import Ingress.Proofs.Pass.Site
import Ingress.Proofs.Synthesis.Provider
import Mathlib.Data.List.Induction

/-!
# Hostnames that fail keep their objects

Pruning spares an object for the hostname that its annotation names, while the object of a
hostname is found by its name. Over every run of passes from empty stores the two agree
(`NamedFor`): every ingress object is named for the hostname it carries. Hence a pass in which a
hostname fails leaves the object of that hostname as it was, whatever else the pass does and
whichever operations fail.
-/

namespace Ingress

namespace Site

variable {K : Type} [Managed K]

/-- Every object is named for the hostname that it carries, and some route served it. -/
def NamedFor (synthesizer : Synthesizer K) (seen : List Route) (s : MemoryStore K) : Prop :=
  ∀ key object, s.get? key = some object → ∃ route ∈ seen,
    key.name = synthesizer.objectName route.fqdn ∧
      Resource.annotation? object fqdnKey = some route.fqdn

variable {synthesizer : Synthesizer K} {seen : List Route} {s : MemoryStore K}

/-- Objects stay named for a hostname when more routes have been seen. -/
theorem NamedFor.mono (h : NamedFor synthesizer seen s) {more : List Route} (hsub : seen ⊆ more) :
    NamedFor synthesizer more s := by
  intro key object hlive
  obtain ⟨route, hroute, hnamed⟩ := h key object hlive
  exact ⟨route, hsub hroute, hnamed⟩

/-- A deletion leaves objects that are named for their hostnames. -/
theorem NamedFor.delete (h : NamedFor synthesizer seen s) (key : ObjectKey) :
    NamedFor synthesizer seen (s.delete key) := by
  intro other object hlive
  rw [MemoryStore.get?_delete] at hlive
  split at hlive
  · cases hlive
  · exact h other object hlive

variable [DecidableEq K] [ManagedView K] [LawfulManaged K]

/-- Bringing a synthesized object about leaves objects that are named for their hostnames. -/
theorem NamedFor.settle (hlawful : synthesizer.renderer.Lawful)
    (h : NamedFor synthesizer seen s) {routes : List Route} (hsub : routes ⊆ seen) {object : K}
    (hobject : object ∈ (synthesizer.synthesize routes).objects) :
    NamedFor synthesizer seen (s.settle object).2 := by
  intro key live hlive
  obtain ⟨route, hroute, _, hannotation, hkey, _⟩ :=
    Synthesizer.exists_route_of_mem_objects hlawful hobject
  rcases MemoryStore.get?_settle_cases (Synthesizer.agrees_of_mem_objects hlawful hobject) hlive
    with hbefore | ⟨rfl, hagrees⟩
  · exact h key live hbefore
  · refine ⟨route, hsub hroute, ?_, ?_⟩
    · rw [hkey]
    · rw [hagrees.annotation?_eq, hannotation]

/-- Objects are named for their hostnames throughout a phase over routes that count as seen. -/
theorem phaseInvariant_namedFor (hlawful : synthesizer.renderer.Lawful) (scope : Option String)
    {routes : List Route} (hsub : routes ⊆ seen) (keep : K → Bool) :
    PhaseInvariant (fun s => s.Keyed ∧ NamedFor synthesizer seen s) scope
      (synthesizer.synthesize routes).objects keep where
  keyed _ h := h.1
  settle object hobject _ h := ⟨h.1.settle object, h.2.settle hlawful hsub hobject⟩
  delete _ _ _ _ _ h := ⟨h.1.delete _, h.2.delete _⟩

/-- What lies under the name of a hostname that fails stays as it was throughout a phase. -/
theorem phaseInvariant_retained (hlawful : synthesizer.renderer.Lawful) (scope : Option String)
    {routes : List Route} (hsub : routes ⊆ seen) (hdigests : DigestsDistinct seen) {fqdn : String}
    (hfailed : fqdn ∈ (synthesizer.synthesize routes).failedFqdns) (before : MemoryStore K) :
    PhaseInvariant
      (fun s => (s.Keyed ∧ NamedFor synthesizer seen s) ∧
        ∀ key : ObjectKey, key.name = synthesizer.objectName fqdn →
          s.get? key = before.get? key)
      scope (synthesizer.synthesize routes).objects
      (servesFailed (synthesizer.synthesize routes).failedFqdns) := by
  have hnamed := phaseInvariant_namedFor hlawful scope hsub
    (servesFailed (synthesizer.synthesize routes).failedFqdns)
  have hfqdn : fqdn ∈ hostnames seen :=
    hostnames_subset hsub (Synthesizer.mem_failedFqdns.mp hfailed).1
  refine ⟨fun s h => h.1.1, ?_, ?_⟩
  -- A synthesized object is of a hostname that did not fail, so it has another name.
  · intro object hobject s h
    refine ⟨hnamed.settle object hobject s h.1, fun key hkey => ?_⟩
    obtain ⟨route, hroute, hfine, _, hobjectKey, _⟩ :=
      Synthesizer.exists_route_of_mem_objects hlawful hobject
    rw [MemoryStore.get?_settle_of_ne, h.2 key hkey]
    intro heq
    rw [heq, hobjectKey] at hkey
    have hsame := Synthesizer.eq_of_objectName_eq hdigests
      (mem_hostnames.mpr ⟨route, hsub hroute, rfl⟩) hfqdn hkey
    exact hfine (hsame ▸ hfailed)
  -- A stale object of that name would carry the hostname that failed, and be kept.
  · intro listed hlisted object hobject s h
    refine ⟨hnamed.delete listed hlisted.1 object hobject s h.1, fun key hkey => ?_⟩
    obtain ⟨hlive, _, _, _, hkeep⟩ := hlisted.1.1.mem_stale.mp hobject
    obtain ⟨route, hroute, hname, hannotation⟩ := hlisted.1.2 _ _ hlive
    rw [MemoryStore.get?_delete, if_neg, h.2 key hkey]
    intro heq
    rw [heq, hname] at hkey
    have hsame := Synthesizer.eq_of_objectName_eq hdigests
      (mem_hostnames.mpr ⟨route, hroute, rfl⟩) hfqdn hkey
    have hkept := servesFailed_iff.mpr ⟨fqdn, hfailed, hsame ▸ hannotation⟩
    rw [hkeep] at hkept
    cases hkept

/-- After every run of passes from empty stores, whichever operations failed, objects lie under
their own keys, and ingress objects are named for the hostnames they carry. -/
theorem run_namedFor (hlawful : synthesizer.renderer.Lawful) (scope : Option String)
    (passes : List SitePass) :
    ((run synthesizer scope passes).ingresses.Keyed ∧
        NamedFor synthesizer (passes.flatMap SitePass.routes)
          (run synthesizer scope passes).ingresses) ∧
      (run synthesizer scope passes).services.Keyed := by
  induction passes using List.reverseRecOn with
  | nil =>
    refine ⟨⟨MemoryStore.keyed_empty, ?_⟩, MemoryStore.keyed_empty⟩
    intro key object hlive
    rw [show (run synthesizer scope []).ingresses.get? key = none from
      MemoryStore.get?_empty key] at hlive
    cases hlive
  | append_singleton earlier pass ih =>
    rw [run_snoc, List.flatMap_append]
    obtain ⟨⟨hkeyed, hnamed⟩, hservices⟩ := ih
    have hsub : pass.routes ⊆
        earlier.flatMap SitePass.routes ++ [pass].flatMap SitePass.routes := by
      rw [List.flatMap_singleton]
      exact List.subset_append_right _ _
    exact reconcile_preserves synthesizer scope _
      (phaseInvariant_namedFor hlawful scope hsub _) (phaseInvariant_keyed scope _ _)
      ⟨hkeyed, hnamed.mono (List.subset_append_left _ _)⟩ hservices

section Statement

variable {config : Config} {scope : Option String}

/-- In every pass of every run from empty stores, whichever operations fail, what lies under the
name of a hostname that failed is after the pass what it was before, in every namespace. -/
theorem failed_hostname_keeps_objects {earlier : List SitePass} {pass : SitePass}
    (hdigests : DigestsDistinct ((earlier ++ [pass]).flatMap SitePass.routes))
    {summary : Summary}
    (hsummary : ((run config.synthesizer scope earlier).reconcile config.synthesizer scope
      pass).1.1 = .ok summary)
    {failure : GroupError} (hfailure : failure ∈ summary.groupErrors) {key : ObjectKey}
    (hkey : key.name = config.synthesizer.objectName failure.fqdn) :
    ((run config.synthesizer scope earlier).reconcile config.synthesizer scope
        pass).2.ingresses.get? key =
      (run config.synthesizer scope earlier).ingresses.get? key := by
  have hlawful := config.lawful_synthesizer
  rw [groupErrors_of_reconcile config.synthesizer scope _ hsummary] at hfailure
  have hfailed : failure.fqdn ∈ (config.synthesizer.synthesize pass.routes).failedFqdns :=
    List.mem_map_of_mem hfailure
  rw [List.flatMap_append, List.flatMap_singleton] at hdigests
  obtain ⟨⟨hkeyed, hnamed⟩, hservices⟩ := run_namedFor hlawful scope earlier
  have hretained := reconcile_preserves config.synthesizer scope
    (run config.synthesizer scope earlier)
    (phaseInvariant_retained hlawful scope (List.subset_append_right _ _) hdigests hfailed
      (run config.synthesizer scope earlier).ingresses)
    (phaseInvariant_keyed scope _ _)
    ⟨⟨hkeyed, hnamed.mono (List.subset_append_left _ _)⟩, fun _ _ => rfl⟩ hservices
  exact hretained.1.2 key hkey

/-- A mesh controller for all namespaces. -/
def sampleConfig : Config where
  provider := .istio
  gateways := ["ingress"]

/-- A route without destinations. -/
def sampleRoute (name host : String) (internal : Bool) : Route where
  metadata := { name := some name, ns := some "apps" }
  host
  domain := { name := "example.com", internal }

/-- A pass in which the second call to a store fails. -/
def sampleEarlier : SitePass where
  listing := .ok [sampleRoute "web" "web" false, sampleRoute "shop" "shop" false]
  outages number _ := if number = 1 then some (.request .undecodable) else none

/-- A pass over two routes of one hostname that disagree, in which nothing can be deleted. -/
def samplePass : SitePass where
  listing := .ok [sampleRoute "shop" "shop" false, sampleRoute "web" "web" false,
    sampleRoute "web-mesh" "web" true]
  outages _ call := if call.verb = .delete then some (.request .undecodable) else none

/-- In the sample the hostname that fails keeps its object while nothing can be deleted. -/
theorem failed_sample_hostname_keeps_object :
    ((run sampleConfig.synthesizer none [sampleEarlier]).reconcile sampleConfig.synthesizer none
        samplePass).2.ingresses.get?
          ⟨"apps", sampleConfig.synthesizer.objectName "web.example.com"⟩ =
      (run sampleConfig.synthesizer none [sampleEarlier]).ingresses.get?
        ⟨"apps", sampleConfig.synthesizer.objectName "web.example.com"⟩ := by
  obtain ⟨p, q, _, _, _, _, hpass⟩ := reconcile_of_ok sampleConfig.synthesizer none
    (run sampleConfig.synthesizer none [sampleEarlier]) (show samplePass.listing = .ok _ from rfl)
  have hinvalid : validateGroup (routesOf "web.example.com" samplePass.routes) ≠ .ok () := by
    decide
  have hserved : ∃ route ∈ samplePass.routes, route.fqdn = "web.example.com" := by decide
  have hfailed : "web.example.com" ∈
      (sampleConfig.synthesizer.synthesize samplePass.routes).failedFqdns :=
    Synthesizer.mem_failedFqdns.mpr
      ⟨mem_hostnames.mpr hserved, HostGroup.ofRoutes?_eq_error hinvalid⟩
  obtain ⟨failure, hfailure, hfqdn⟩ := List.mem_map.mp hfailed
  refine failed_hostname_keeps_objects (by decide +kernel) (congrArg (·.1.1) hpass) hfailure ?_
  rw [hfqdn]

end Statement

end Site

end Ingress
