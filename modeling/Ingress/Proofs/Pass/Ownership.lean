import Ingress.Proofs.Pass.Site
import Ingress.Proofs.Synthesis.Provider

/-!
# A pass keeps to its own objects

Other programs keep objects in the same stores. Whatever fails during a pass, an object that is
neither desired nor marked as this program's stays exactly as it was, and of an object under a
desired key a pass takes nothing away but what it writes itself: the `foreign` part of it stays.
`MemoryStore.Frame` says so of two stores, `foreign_settle` and `phaseInvariant_frame` carry it
through a phase, and `Site.reconcile_keeps_to_its_own` states it of a whole pass.
-/

namespace Ingress

/-- The metadata without what a pass may write. -/
def Metadata.foreign (metadata : Metadata) : Metadata :=
  { metadata with
    labels := none
    annotations := none
    ownerReferences := none
    resourceVersion := none }

/-- A kind of objects of which others than this program write a part. -/
class ForeignPart (K : Type) [Managed K] where
  /-- The object without what a pass may write. -/
  foreign : K → K
  /-- Bringing an object in line writes nothing else. -/
  foreign_conform (live desired : K) : foreign (Managed.conform live desired) = foreign live
  /-- Of metadata, labels, annotations, owners and the version do not belong to the part. -/
  foreign_withMetadata (object : K) (metadata : Metadata) :
    metadata.foreign = (Resource.metadata object).foreign →
      foreign (Resource.withMetadata object metadata) = foreign object

/-- What a virtual service asks for is written as a whole. -/
instance : ForeignPart VirtualService where
  foreign object := { metadata := object.metadata.foreign, spec := { hosts := [] } }
  foreign_conform _ _ := rfl
  foreign_withMetadata _ _ h := congrArg (VirtualService.mk · _) h

/-- What a proxy asks for is written as a whole. -/
instance : ForeignPart HttpProxy where
  foreign object := { metadata := object.metadata.foreign, spec := {} }
  foreign_conform _ _ := rfl
  foreign_withMetadata _ _ h := congrArg (HttpProxy.mk · _) h

/-- Of what a service asks for, the selector and the ports are written; its status is not. -/
instance : ForeignPart Service where
  foreign service := { service with
    metadata := service.metadata.foreign
    spec := some { service.spec.getD {} with selector := none, ports := none } }
  foreign_conform _ _ := rfl
  foreign_withMetadata _ _ h := congrArg (Service.mk · _ _) h

instance : (provider : Provider) → ForeignPart provider.Object
  | .istio => inferInstanceAs (ForeignPart VirtualService)
  | .contour => inferInstanceAs (ForeignPart HttpProxy)

namespace MemoryStore

variable {K : Type} [Managed K] [ForeignPart K]

/-- What a store that a pass has worked on keeps of what it held before. -/
structure Frame (before after : MemoryStore K) (scope : Option String)
    (desired : List ObjectKey) (spared : K → Prop) : Prop where
  /-- An object that is not desired is as it was, unless it is managed, in scope and not spared. -/
  untouched (key : ObjectKey) (object : K) : before.get? key = some object → key ∉ desired →
    (key.InScope scope → Resource.IsManaged object → spared object) →
    after.get? key = some object
  /-- Nothing is written where nothing is desired. -/
  unwritten (key : ObjectKey) : key ∉ desired →
    after.get? key = before.get? key ∨ after.get? key = none
  /-- An object under a desired key is still there, with its foreign part as it was. -/
  kept (key : ObjectKey) (object : K) : before.get? key = some object → key ∈ desired →
    ∃ live, after.get? key = some live ∧ ForeignPart.foreign live = ForeignPart.foreign object

/-- A store keeps all of itself. -/
theorem Frame.refl (s : MemoryStore K) (scope : Option String) (desired : List ObjectKey)
    (spared : K → Prop) : s.Frame s scope desired spared where
  untouched _ _ hlive _ _ := hlive
  unwritten _ _ := .inl rfl
  kept _ object hlive _ := ⟨object, hlive, rfl⟩

/-- The version that a write stamps does not belong to the foreign part. -/
@[simp] theorem foreign_stamped (s : MemoryStore K) (object : K) :
    ForeignPart.foreign (s.stamped object) = ForeignPart.foreign object :=
  ForeignPart.foreign_withMetadata _ _ rfl

variable [DecidableEq K] {s : MemoryStore K}

/-- Bringing an object about takes no object away, and leaves the foreign part of each. -/
theorem foreign_settle (desired : K) {key : ObjectKey} {object : K}
    (hlive : s.get? key = some object) :
    ∃ live, (s.settle desired).2.get? key = some live ∧
      ForeignPart.foreign live = ForeignPart.foreign object := by
  by_cases hkey : key = Resource.key desired
  · subst hkey
    cases hns : Resource.ns desired with
    | none =>
      rw [settle_of_ns_eq_none hns]
      exact ⟨object, hlive, rfl⟩
    | some ns =>
      rw [settle_of_get?_eq_some hns hlive]
      split
      · exact ⟨object, hlive, rfl⟩
      · refine ⟨s.stamped (Managed.conform object desired), ?_, ?_⟩
        · rw [get?_write, if_pos rfl]
        · rw [foreign_stamped, ForeignPart.foreign_conform]
  · rw [get?_settle_of_ne hkey]
    exact ⟨object, hlive, rfl⟩

variable [ManagedView K] [LawfulManaged K]

/-- Throughout a phase a store keeps what is not this program's. -/
theorem phaseInvariant_frame (before : MemoryStore K) (scope : Option String) (desired : List K)
    {keep : K → Bool} {spared : K → Prop} (hkeep : ∀ object, keep object = true ↔ spared object) :
    PhaseInvariant
      (fun s => s.Keyed ∧ before.Frame s scope (desired.map Resource.key) spared)
      scope desired keep := by
  refine ⟨fun _ h => h.1, ?_, ?_⟩
  · rintro object hobject s ⟨hkeyed, hframe⟩
    have hother : ∀ key ∉ desired.map Resource.key,
        (s.settle object).2.get? key = s.get? key := by
      intro key hkey
      refine get?_settle_of_ne ?_
      rintro rfl
      exact hkey (List.mem_map_of_mem hobject)
    refine ⟨hkeyed.settle object, ?_, ?_, ?_⟩
    · intro key live hlive hkey hspared
      rw [hother key hkey]
      exact hframe.untouched key live hlive hkey hspared
    · intro key hkey
      rw [hother key hkey]
      exact hframe.unwritten key hkey
    · intro key live hlive hkey
      obtain ⟨middle, hmiddle, hforeign⟩ := hframe.kept key live hlive hkey
      obtain ⟨last, hlast, hforeign'⟩ := foreign_settle object hmiddle
      exact ⟨last, hlast, hforeign'.trans hforeign⟩
  · rintro listed ⟨hlistedKeyed, hlisted⟩ object hobject s ⟨hkeyed, hframe⟩
    obtain ⟨hlive, hscope, hmanaged, hdesired, hstale⟩ := hlistedKeyed.mem_stale.mp hobject
    -- Nothing is written under its key, so the stale object was there from the beginning.
    have hbefore : before.get? (Resource.key object) = some object := by
      rcases hlisted.unwritten _ hdesired with hsame | hgone
      · rw [← hsame, hlive]
      · rw [hlive] at hgone
        cases hgone
    refine ⟨hkeyed.delete _, ?_, ?_, ?_⟩
    · intro key live hlive' hkey hspared
      rw [get?_delete, if_neg]
      · exact hframe.untouched key live hlive' hkey hspared
      · rintro rfl
        rw [hbefore] at hlive'
        cases hlive'
        rw [(hkeep object).mpr (hspared hscope hmanaged)] at hstale
        cases hstale
    · intro key hkey
      rw [get?_delete]
      split
      · exact .inr rfl
      · exact hframe.unwritten key hkey
    · intro key live hlive' hkey
      rw [get?_delete, if_neg]
      · exact hframe.kept key live hlive' hkey
      · rintro rfl
        exact hdesired hkey

end MemoryStore

namespace Site

/-- Whatever the routes, the stores, the namespace that pruning is confined to and the operations
that fail: a pass leaves every object as it was whose key is not that of a desired object, unless
the object is managed, in scope and, if it is an ingress object, not of a hostname that failed; and
an object under a desired key it does not delete, and changes in nothing but what it writes. -/
theorem reconcile_keeps_to_its_own (config : Config) (scope : Option String)
    {site : Site config.provider.Object} (hingresses : site.ingresses.Keyed)
    (hservices : site.services.Keyed) (pass : SitePass) :
    let after := (site.reconcile config.synthesizer scope pass).2
    let synthesis := config.synthesizer.synthesize pass.routes
    site.ingresses.Frame after.ingresses scope (synthesis.objects.map Resource.key)
      (fun object => ∃ failure ∈ synthesis.errors,
        Resource.annotation? object fqdnKey = some failure.fqdn) ∧
    site.services.Frame after.services scope
      ((config.synthesizer.services pass.routes).map Resource.key) fun _ => False := by
  have hspared (object : config.provider.Object) :
      servesFailed (config.synthesizer.synthesize pass.routes).failedFqdns object = true ↔
        ∃ failure ∈ (config.synthesizer.synthesize pass.routes).errors,
          Resource.annotation? object fqdnKey = some failure.fqdn :=
    servesFailed_failedFqdns_iff
  have hnone (_ : Service) : false = true ↔ False := iff_of_false nofun id
  have hobjects := MemoryStore.phaseInvariant_frame site.ingresses scope
    (config.synthesizer.synthesize pass.routes).objects hspared
  have hbackends := MemoryStore.phaseInvariant_frame site.services scope
    (config.synthesizer.services pass.routes) hnone
  have hframes := reconcile_preserves config.synthesizer scope site hobjects hbackends
    ⟨hingresses, .refl ..⟩ ⟨hservices, .refl ..⟩
  exact ⟨hframes.1.2, hframes.2.2⟩

/-- A proxy controller that is confined to a namespace. -/
def sharedConfig : Config where
  provider := .contour
  ns := some "apps"

/-- A service of somebody else's, under the name of the service of a destination. -/
def adoptedService : Service where
  metadata := { name := some "s-a", ns := some "apps", uid := some "7f", generation := some 3 }
  spec := some { clusterIP := some "10.0.0.7", type := some "ClusterIP" }
  status := some { loadBalancer := some {} }

/-- A service of this program's in a namespace that it is not confined to. -/
def remoteService : Service where
  metadata := { name := some "s-b", ns := some "other", labels := some (managedLabels ∅) }

/-- Two stores of which one holds these services. -/
def sharedSite : Site sharedConfig.provider.Object where
  services := (MemoryStore.insert {} adoptedService).insert remoteService

/-- A pass over a route with a destination, in which the first call to a store fails. -/
def sharedPass : SitePass where
  listing := .ok [{
    metadata := { name := some "web", ns := some "apps" }
    host := "web"
    domain := { name := "example.com" }
    destinations := [{ guid := "a", port := some 80, appGuid := "app", processType := "web" }] }]
  outages number _ := if number = 0 then some (.request .undecodable) else none

/-- In the sample pass the service that is desired keeps what the cluster has given it, and the one
in the other namespace is not touched. -/
theorem sharedPass_keeps_to_its_own :
    let after := (sharedSite.reconcile sharedConfig.synthesizer (some "apps") sharedPass).2
    (∃ live, after.services.get? ⟨"apps", "s-a"⟩ = some live ∧
      live.status = some { loadBalancer := some {} } ∧
      live.metadata.uid = some "7f" ∧ (live.spec.getD {}).clusterIP = some "10.0.0.7") ∧
    after.services.get? ⟨"other", "s-b"⟩ = some remoteService := by
  intro after
  have hkeyed : sharedSite.services.Keyed :=
    (MemoryStore.keyed_empty.insert adoptedService).insert remoteService
  have hframe := (reconcile_keeps_to_its_own sharedConfig (some "apps")
    (MemoryStore.keyed_empty : sharedSite.ingresses.Keyed) hkeyed sharedPass).2
  have hadopted : sharedSite.services.get? ⟨"apps", "s-a"⟩ = some adoptedService := by
    change ((MemoryStore.insert {} adoptedService).insert remoteService).get? _ = _
    rw [MemoryStore.get?_insert, if_neg (by decide), MemoryStore.get?_insert, if_pos (by decide)]
  have hremote : sharedSite.services.get? ⟨"other", "s-b"⟩ = some remoteService :=
    (MemoryStore.get?_insert _ _ _).trans (if_pos rfl)
  constructor
  · obtain ⟨live, hlive, hforeign⟩ := hframe.kept _ _ hadopted (by decide)
    refine ⟨live, hlive, congrArg Service.status hforeign, ?_, ?_⟩
    · exact congrArg (fun service => service.metadata.uid) hforeign
    · exact congrArg (fun service => service.spec.bind ServiceSpec.clusterIP) hforeign
  · refine hframe.untouched _ _ hremote (by decide) fun hscope _ => ?_
    exact absurd (hscope "apps" rfl) (by decide)

end Site

end Ingress
