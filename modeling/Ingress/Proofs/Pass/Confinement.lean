import Ingress.Proofs.Pass.Refusal
import Ingress.Proofs.Pass.Site
import Ingress.Proofs.Store.Content
import Ingress.Proofs.Synthesis.Provider

/-!
# Objects that fail affect only themselves

Some objects may be down: whatever is asked about them fails and changes nothing, while listings
and all other objects work. A pass then does what it would do if nothing were down, except to
those objects, which stay as they were. That holds although versions are counted for all objects
of a kind together, although pruning spares what is desired, applied or not, and although a pass
carries on with one summary (`failing_objects_affect_only_themselves`).
-/

namespace Ingress

namespace MemoryStore

variable {K : Type} [Managed K]

/-- What becomes of a store where some keys are refused: these hold what they held, and all others
what they would hold otherwise, versions apart. -/
structure Confined (refused : ObjectKey → Bool) (before after calm : MemoryStore K) : Prop where
  /-- A refused key holds what it held. -/
  of_refused (key : ObjectKey) : refused key = true → after.get? key = before.get? key
  /-- Any other key holds what it would hold otherwise. -/
  of_granted (key : ObjectKey) : refused key = false → after.content key = calm.content key

/-- What is refused in a phase: desired objects and stale ones. -/
def refusedIn (s : MemoryStore K) (refused : ObjectKey → Bool) (scope : Option String)
    (desired : List K) (keep : K → Bool) : List (String × ObjectKey) :=
  ((desired ++ s.stale scope (desired.map Resource.key) keep).filter fun object =>
    refused (Resource.key object)).map Resource.subject

/-- A key is among those of the objects that are not refused if it is among all and not refused. -/
theorem mem_map_key_filter {refused : ObjectKey → Bool} {objects : List K} {key : ObjectKey} :
    key ∈ (objects.filter fun object => !refused (Resource.key object)).map Resource.key ↔
      key ∈ objects.map Resource.key ∧ refused key = false := by
  simp only [List.mem_map, List.mem_filter, Bool.not_eq_true']
  constructor
  · rintro ⟨object, ⟨hobject, hgranted⟩, rfl⟩
    exact ⟨⟨object, hobject, rfl⟩, hgranted⟩
  · rintro ⟨⟨object, hobject, rfl⟩, hgranted⟩
    exact ⟨object, ⟨hobject, hgranted⟩, rfl⟩

/-- In a keyed store no object is stale twice. -/
theorem Keyed.nodup_stale {s : MemoryStore K} (h : s.Keyed) (scope : Option String)
    (desired : List ObjectKey) (keep : K → Bool) : (s.stale scope desired keep).Nodup := by
  refine (List.Nodup.of_map Resource.key ?_).filter _
  have hkeys : (s.objects.toList.map Prod.fst).Nodup := by
    rw [Std.ExtTreeMap.map_fst_toList_eq_keys]
    exact Std.ExtTreeMap.nodup_keys
  unfold list
  rw [List.map_map, List.map_congr_left (g := Prod.fst)]
  · exact hkeys.sublist (List.filter_sublist.map _)
  · rintro ⟨key, object⟩ hentry
    exact h key object (Std.ExtTreeMap.mem_toList_iff_getElem?_eq_some.mp
      (List.mem_of_mem_filter hentry))

section Phase

variable [DecidableEq K] {s : MemoryStore K} {refused : ObjectKey → Bool}
  {scope : Option String} {desired : List K} {keep : K → Bool}

/-- Where nothing is refused, a phase leaves the store converged. -/
theorem convergedBut_none (s : MemoryStore K) :
    s.convergedBut (fun _ => false) scope desired keep = s.converged scope desired keep := by
  unfold convergedBut converged pruned
  simp only [Bool.not_false, List.filter_true]

/-- A phase does not touch refused keys before it prunes. -/
theorem get?_settleAll_of_refused {key : ObjectKey} (hrefused : refused key = true) :
    (s.settleAll (desired.filter fun object => !refused (Resource.key object))).get? key =
      s.get? key := by
  refine get?_settleAll_of_notMem fun hkey => ?_
  rw [mem_map_key_filter, hrefused] at hkey
  cases hkey.2

variable [ManagedView K] [LawfulManaged K]

/-- A phase that refuses some keys is confined to the others, where it does all that it would. -/
theorem Keyed.confined_convergedBut (h : s.Keyed)
    (hkeep : ∀ object, keep (unversioned object) = keep object) :
    Confined refused s (s.convergedBut refused scope desired keep)
      (s.converged scope desired keep) where
  of_refused key hrefused := by
    unfold convergedBut
    rw [get?_deleteAll, if_neg, get?_settleAll_of_refused hrefused]
    intro hkey
    rw [mem_map_key_filter, hrefused] at hkey
    cases hkey.2
  of_granted key hgranted := by
    have happlied := content_settleAll_filter (s := s) (t := s) rfl (fun key => !refused key)
      (by rw [hgranted]; rfl) desired
    unfold convergedBut MemoryStore.converged MemoryStore.pruned
    rw [content_deleteAll, content_deleteAll, happlied]
    refine if_congr ?_ rfl rfl
    rw [mem_map_key_filter, and_iff_left hgranted]
    exact (h.settleAll _).mem_key_stale_congr (h.settleAll _) hkeep happlied

/-- The failures of a phase are about the desired objects with refused keys and those with such
keys that were stale from the outset. -/
theorem Keyed.failedIn_perm (h : s.Keyed) :
    (s.failedIn refused scope desired keep).Perm (s.refusedIn refused scope desired keep) := by
  unfold failedIn refusedIn
  rw [List.filter_append, List.map_append]
  refine (List.Perm.map _ ?_).append_left _
  have hkeyed := h.settleAll (desired.filter fun object => !refused (Resource.key object))
  rw [List.perm_ext_iff_of_nodup ((hkeyed.nodup_stale _ _ _).filter _)
    ((h.nodup_stale _ _ _).filter _)]
  intro object
  rw [List.mem_filter, List.mem_filter]
  refine and_congr_left fun hrefused => ?_
  rw [hkeyed.mem_stale, h.mem_stale, get?_settleAll_of_refused hrefused]

end Phase

end MemoryStore

/-- A plan in which a call fails exactly where it is about an object that is down. -/
def OutagePlan.FailsAt (plan : OutagePlan) (down : String → ObjectKey → Bool) : Prop :=
  ∀ number call, (plan number call).isSome = call.key.any (down call.kind)

/-- The same pass where no call fails. -/
def SitePass.calm (pass : SitePass) : SitePass :=
  { pass with outages := fun _ _ => none }

/-- Where no call fails, nothing is down. -/
theorem SitePass.failsAt_calm (pass : SitePass) :
    pass.calm.outages.FailsAt fun _ _ => false := by
  intro number call
  cases call.key <;> rfl

namespace Site

section Outages

variable {K J τ : Type} {part : Site K → MemoryStore J} {rest : Site K → τ}

/-- A call is refused where the plan says so; the count of calls is nobody's concern. -/
theorem attempt_refuses {α : Type} {plan : OutagePlan} {call : StoreCall} {refused : Bool}
    {operation : StateM (Site K) (Except StoreError α)}
    {model : StateM (MemoryStore J) (Except StoreError α)}
    (hplan : ∀ number, (plan number call).isSome = refused)
    (hpart : ∀ site calls, part { site with calls } = part site)
    (hrest : ∀ site calls, rest { site with calls } = rest site)
    (h : Refuses part rest false operation model) :
    Refuses part rest refused (attempt plan call operation) model := by
  intro site
  have hfails := hplan site.calls
  unfold attempt
  cases hcall : plan site.calls call with
  | some error =>
    rw [hcall] at hfails
    exact ⟨fun _ => ⟨⟨error, rfl⟩, hpart site _⟩, fun hgranted => (nomatch hfails.trans hgranted),
      hrest site _⟩
  | none =>
    rw [hcall] at hfails
    obtain rfl : refused = false := hfails.symm
    have hrun := h { site with calls := site.calls + 1 }
    rw [hpart] at hrun
    exact hrun.of_unchanged (hpart site _) (hrest site _)

/-- A store with outages refuses the keys that are down, where the store without them is a store
in memory. -/
theorem interrupted_refuses [Managed J] {plan : OutagePlan} {down : String → ObjectKey → Bool}
    (hplan : plan.FailsAt down) {store : Store (StateM (Site K)) J}
    (hpart : ∀ site calls, part { site with calls } = part site)
    (hrest : ∀ site calls, rest { site with calls } = rest site)
    (h : store.Refuses part rest fun _ => false) :
    (interrupted plan store).Refuses part rest (down (Resource.kind J)) where
  get ns name := attempt_refuses (fun number => hplan number _) hpart hrest (h.get ns name)
  create object := attempt_refuses (fun number => hplan number _) hpart hrest (h.create object)
  replace object := attempt_refuses (fun number => hplan number _) hpart hrest (h.replace object)
  delete ns name := attempt_refuses (fun number => hplan number _) hpart hrest (h.delete ns name)
  list ns selector :=
    attempt_refuses (fun number => hplan number _) hpart hrest (h.list ns selector)

/-- A store in memory that is a part of a larger state refuses nothing. -/
theorem focus_refuses {σ : Type} [Managed J] {part : σ → MemoryStore J}
    {withPart : σ → MemoryStore J → σ} {rest : σ → τ} (hpart : ∀ s p, part (withPart s p) = p)
    (hrest : ∀ s p, rest (withPart s p) = rest s) :
    (MemoryStore.store.focus part withPart).Refuses part rest fun _ => false where
  get _ _ _ := .granted rfl (hpart _ _) (hrest _ _)
  create _ _ := .granted rfl (hpart _ _) (hrest _ _)
  replace _ _ := .granted rfl (hpart _ _) (hrest _ _)
  delete _ _ _ := .granted rfl (hpart _ _) (hrest _ _)
  list _ _ _ := .granted rfl (hpart _ _) (hrest _ _)

end Outages

section Passes

variable {K : Type} [Managed K] (synthesizer : Synthesizer K) (scope : Option String)
  {pass : SitePass} {down : String → ObjectKey → Bool}

/-- The ingress objects of a pass refuse the keys that are down. -/
theorem refuses_ingresses (hplan : pass.outages.FailsAt down) :
    (reconciler synthesizer scope pass).ingresses.Refuses ingresses
      (fun site => (site.services, site.snapshots)) (down (Resource.kind K)) :=
  interrupted_refuses hplan (fun _ _ => rfl) (fun _ _ => rfl)
    (focus_refuses (fun _ _ => rfl) fun _ _ => rfl)

/-- The services of a pass refuse the keys that are down. -/
theorem refuses_services (hplan : pass.outages.FailsAt down) :
    (reconciler synthesizer scope pass).services.Refuses services
      (fun site => (site.ingresses, site.snapshots)) (down (Resource.kind Service)) :=
  interrupted_refuses hplan (fun _ _ => rfl) (fun _ _ => rfl)
    (focus_refuses (fun _ _ => rfl) fun _ _ => rfl)

/-- Bringing services in line while some objects are down. -/
theorem reconcileServices_ends (hplan : pass.outages.FailsAt down)
    (hns : ∀ service ∈ synthesizer.services pass.routes, Resource.ns service ≠ none)
    (p : Progress) {site : Site K} (hkeyed : site.services.Keyed) :
    EndsIn services (fun site => (site.ingresses, site.snapshots)) site p
      ((reconciler synthesizer scope pass).reconcileServices pass.routes p site)
      (site.services.convergedBut (down (Resource.kind Service)) scope
        (synthesizer.services pass.routes) fun _ => false)
      (site.services.failedIn (down (Resource.kind Service)) scope
        (synthesizer.services pass.routes) fun _ => false) :=
  servicePhase_ends (refuses_services synthesizer scope hplan) scope hns p hkeyed

variable [DecidableEq K] [ManagedView K] [LawfulManaged K]

/-- Bringing ingress objects in line while some objects are down. -/
theorem reconcileIngresses_ends (hplan : pass.outages.FailsAt down)
    (hns : ∀ object ∈ (synthesizer.synthesize pass.routes).objects, Resource.ns object ≠ none)
    (p : Progress) {site : Site K} (hkeyed : site.ingresses.Keyed) :
    EndsIn ingresses (fun site => (site.services, site.snapshots)) site p
      ((reconciler synthesizer scope pass).reconcileIngresses
        (synthesizer.synthesize pass.routes) p site)
      (site.ingresses.convergedBut (down (Resource.kind K)) scope
        (synthesizer.synthesize pass.routes).objects
        (servesFailed (synthesizer.synthesize pass.routes).failedFqdns))
      (site.ingresses.failedIn (down (Resource.kind K)) scope
        (synthesizer.synthesize pass.routes).objects
        (servesFailed (synthesizer.synthesize pass.routes).failedFqdns)) :=
  phase_ends (refuses_ingresses synthesizer scope hplan) scope hns _ p hkeyed

/-- A pass during which some objects are down publishes, leaves out these objects in both of its
phases, and notes a failure for each of them. -/
theorem reconcile_of_failsAt (hplan : pass.outages.FailsAt down) {listed : List Route}
    (hlisting : pass.listing = .ok listed) {site : Site K} (hingresses : site.ingresses.Keyed)
    (hservices : site.services.Keyed)
    (hobjectNs : ∀ object ∈ (synthesizer.synthesize pass.routes).objects,
      Resource.ns object ≠ none)
    (hserviceNs : ∀ service ∈ synthesizer.services pass.routes, Resource.ns service ≠ none) :
    ∃ summary log after, site.reconcile synthesizer scope pass = ((.ok summary, log), after) ∧
      after.snapshots = site.snapshots.put { routes := pass.routes } ∧
      summary.groupErrors = (synthesizer.synthesize pass.routes).errors ∧
      after.ingresses = site.ingresses.convergedBut (down (Resource.kind K)) scope
        (synthesizer.synthesize pass.routes).objects
        (servesFailed (synthesizer.synthesize pass.routes).failedFqdns) ∧
      after.services = site.services.convergedBut (down (Resource.kind Service)) scope
        (synthesizer.services pass.routes) (fun _ => false) ∧
      summary.failures.map ApplyFailure.subject =
        site.ingresses.failedIn (down (Resource.kind K)) scope
          (synthesizer.synthesize pass.routes).objects
          (servesFailed (synthesizer.synthesize pass.routes).failedFqdns) ++
        site.services.failedIn (down (Resource.kind Service)) scope
          (synthesizer.services pass.routes) fun _ => false := by
  obtain ⟨p, q, applied, finished, hfirst, hsecond, hpass⟩ :=
    reconcile_of_ok synthesizer scope site hlisting
  have hstart : ({ site with calls := 0 } : Site K).ingresses.Keyed := hingresses
  have happlied := reconcileIngresses_ends synthesizer scope hplan hobjectNs
    (Reconciler.start synthesizer pass.routes) hstart
  rw [hfirst] at happlied
  have huntouched : applied.services = site.services ∧ applied.snapshots = site.snapshots :=
    Prod.mk.inj happlied.rest_eq
  have hkeyed : applied.services.Keyed := huntouched.1 ▸ hservices
  have hfinished := reconcileServices_ends synthesizer scope hplan hserviceNs p hkeyed
  rw [hsecond, huntouched.1] at hfinished
  have huntouched' : finished.ingresses = applied.ingresses ∧
      finished.snapshots = applied.snapshots := Prod.mk.inj hfinished.rest_eq
  refine ⟨_, _, _, hpass, ?_, rfl, ?_, hfinished.part_eq, ?_⟩
  · exact congrArg (SnapshotRepo.put · _) (huntouched'.2.trans huntouched.2)
  · exact huntouched'.1.trans happlied.part_eq
  · have hfailed := hfinished.failed_eq
    rw [happlied.failed_eq] at hfailed
    exact hfailed

end Passes

section Statement

variable (config : Config) (scope : Option String) {pass : SitePass}
  {site : Site config.provider.Object} {down : String → ObjectKey → Bool}

/-- While some objects are down, a pass over routes with namespaces still answers a summary and
publishes the same snapshot as if nothing were down. Objects that are down stay as they were, and
under all other keys the pass leaves the same, versions apart. The same hostnames fail, and the
failures are one for each desired and each stale object that is down. -/
theorem failing_objects_affect_only_themselves {listed : List Route}
    (hlisting : pass.listing = .ok listed) (hroutes : ∀ route ∈ listed, route.ns ≠ none)
    (hingresses : site.ingresses.Keyed) (hservices : site.services.Keyed)
    (hdown : pass.outages.FailsAt down) :
    ∃ summary log after calmSummary calmLog calm,
      site.reconcile config.synthesizer scope pass = ((.ok summary, log), after) ∧
      site.reconcile config.synthesizer scope pass.calm =
        ((.ok calmSummary, calmLog), calm) ∧
      after.snapshots = site.snapshots.put { routes := pass.routes } ∧
      calm.snapshots = after.snapshots ∧
      summary.groupErrors = calmSummary.groupErrors ∧
      site.ingresses.Confined (down (Resource.kind config.provider.Object))
        after.ingresses calm.ingresses ∧
      site.services.Confined (down (Resource.kind Service)) after.services calm.services ∧
      (summary.failures.map ApplyFailure.subject).Perm
        (site.ingresses.refusedIn (down (Resource.kind config.provider.Object)) scope
            (config.synthesizer.synthesize pass.routes).objects
            (servesFailed (config.synthesizer.synthesize pass.routes).failedFqdns) ++
          site.services.refusedIn (down (Resource.kind Service)) scope
            (config.synthesizer.services pass.routes) fun _ => false) := by
  have hlawful := config.lawful_synthesizer
  have hkept : ∀ route ∈ pass.routes, route.ns ≠ none := by
    intro route hroute
    rw [SitePass.routes_of_ok hlisting] at hroute
    exact hroutes route (List.mem_of_mem_filter hroute)
  have hobjectNs : ∀ object ∈ (config.synthesizer.synthesize pass.routes).objects,
      Resource.ns object ≠ none := by
    intro object hobject
    obtain ⟨route, hroute, _, _, _, hns⟩ :=
      Synthesizer.exists_route_of_mem_objects hlawful hobject
    rw [hns]
    exact hkept route hroute
  have hserviceNs : ∀ service ∈ config.synthesizer.services pass.routes,
      Resource.ns service ≠ none := by
    intro service hservice
    obtain ⟨route, hroute, _, _, _, _, rfl⟩ := Synthesizer.mem_services.mp hservice
    exact hkept route hroute
  obtain ⟨summary, log, after, hpass, hsnapshots, herrors, hafter, hafter', hfailures⟩ :=
    reconcile_of_failsAt config.synthesizer scope hdown hlisting hingresses hservices
      hobjectNs hserviceNs
  obtain ⟨calmSummary, calmLog, calm, hcalmPass, hcalmSnapshots, hcalmErrors, hend, hend', -⟩ :=
    reconcile_of_failsAt config.synthesizer scope pass.failsAt_calm hlisting hingresses hservices
      hobjectNs hserviceNs
  refine ⟨summary, log, after, calmSummary, calmLog, calm, hpass, hcalmPass, hsnapshots,
    hcalmSnapshots.trans hsnapshots.symm, herrors.trans hcalmErrors.symm, ?_, ?_, ?_⟩
  · rw [hafter, hend, MemoryStore.convergedBut_none]
    exact hingresses.confined_convergedBut (MemoryStore.servesFailed_unversioned _)
  · rw [hafter', hend', MemoryStore.convergedBut_none]
    exact hservices.confined_convergedBut fun _ => rfl
  · rw [hfailures]
    exact hingresses.failedIn_perm.append hservices.failedIn_perm

/-- A proxy controller without settings. -/
def downConfig : Config where
  provider := .contour

/-- A service that no route asks for. -/
def goneService : Service where
  metadata := { name := some "s-gone", ns := some "apps", labels := some (managedLabels ∅) }

/-- Two stores of which one holds that service. -/
def downSite : Site downConfig.provider.Object where
  services := MemoryStore.insert {} goneService

/-- That service is down. -/
def downKeys (kind : String) (key : ObjectKey) : Bool :=
  kind = Resource.kind Service && key = ⟨"apps", "s-gone"⟩

/-- A pass over one route while the service is down. -/
def downPass : SitePass where
  listing := .ok [{
    metadata := { name := some "web", ns := some "apps" }
    host := "web"
    domain := { name := "example.com" } }]
  outages _ call := if call.key.any (downKeys call.kind) then some (.request .undecodable) else none

/-- In the sample pass the service is to go and cannot, so it stays and is noted as a failure. -/
theorem downPass_affects_only_goneService :
    ∃ summary log after,
      downSite.reconcile downConfig.synthesizer none downPass = ((.ok summary, log), after) ∧
      after.services.get? ⟨"apps", "s-gone"⟩ = some goneService ∧
      ("Service", ⟨"apps", "s-gone"⟩) ∈ summary.failures.map ApplyFailure.subject := by
  have hdown : downPass.outages.FailsAt downKeys := by
    intro number call
    change (if call.key.any (downKeys call.kind) then some _ else none).isSome = _
    cases call.key.any (downKeys call.kind) <;> rfl
  have hkeyed : downSite.services.Keyed := MemoryStore.keyed_empty.insert goneService
  have hlive : downSite.services.get? ⟨"apps", "s-gone"⟩ = some goneService :=
    (MemoryStore.get?_insert _ _ _).trans (if_pos rfl)
  obtain ⟨summary, log, after, _, _, _, hpass, _, _, _, _, _, hservices, hfailures⟩ :=
    failing_objects_affect_only_themselves downConfig none
      (show downPass.listing = .ok _ from rfl) (by decide)
      (MemoryStore.keyed_empty : downSite.ingresses.Keyed) hkeyed hdown
  refine ⟨summary, log, after, hpass, ?_, ?_⟩
  · rw [hservices.of_refused _ (by decide), hlive]
  · have hstale : goneService ∈ downSite.services.stale none
        ((downConfig.synthesizer.services downPass.routes).map Resource.key) fun _ => false :=
      hkeyed.mem_stale.mpr ⟨hlive, nofun, rfl, nofun, rfl⟩
    rw [hfailures.mem_iff]
    exact List.mem_append_right _ (List.mem_map_of_mem
      (List.mem_filter.mpr ⟨List.mem_append_right _ hstale, by decide⟩))

end Statement

end Site

end Ingress
