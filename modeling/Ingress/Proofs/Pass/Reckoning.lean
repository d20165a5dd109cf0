import Ingress.Proofs.Pass.World
import Ingress.Proofs.Pass.WriteCount

/-!
# A pass accounts for every object

However the stores behave, a pass answers an error only where the routes cannot be listed, and then
it has asked nothing of the stores. Otherwise its summary balances: every desired object is created,
updated, left or has a failure, every object that is to go is deleted or has a failure, and a
listing that fails has one failure and lets nothing go (`World.Accounted`). On stores in memory that
nobody else writes to, what is counted as created, updated and deleted are the writes
(`reconcile_accounts_for_every_object`).
-/

namespace Ingress

/-- A pass over listed routes whose summary accounts for every object. -/
structure World.Accounted {σ K : Type} [Managed K] [DecidableEq K] (synthesizer : Synthesizer K)
    (scope : Option String) (world : World σ) (pass : WorldPass σ K) (routes : List Route)
    (summary : Summary) (account : PassAccount K) : Prop where
  /-- The pass answers the summary. -/
  answer : (world.reconcile synthesizer scope pass).1.1 = .ok summary
  /-- What the pass asks of the stores is what is in the account. -/
  asked : World.account synthesizer scope pass routes world.stores =
    (account, (world.reconcile synthesizer scope pass).2.stores)
  /-- The routes are published. -/
  published : (world.reconcile synthesizer scope pass).2.snapshots =
    world.snapshots.put { routes }
  /-- Every synthesized ingress object is applied once, in order. -/
  ingresses_applied : account.ingresses.applied.map Prod.fst =
    (synthesizer.synthesize routes).objects
  /-- Every synthesized service is applied once, in order. -/
  services_applied : account.services.applied.map Prod.fst = synthesizer.services routes
  /-- Every desired object is counted as created, updated or unchanged, or failed. -/
  applied_eq : summary.created + summary.updated + summary.unchanged +
      ((failuresOf account.ingresses.applied).length +
        (failuresOf account.services.applied).length) =
    (synthesizer.synthesize routes).objects.length + (synthesizer.services routes).length
  /-- Every listed object that is neither desired nor kept is counted as deleted, or failed. -/
  pruned_eq : summary.deleted + ((failuresOf account.ingresses.pruned).length +
      (failuresOf account.services.pruned).length) =
    (account.ingresses.undesired (synthesizer.synthesize routes).objects
      (servesFailed (synthesizer.synthesize routes).failedFqdns)).length +
    (account.services.undesired (synthesizer.services routes) fun _ => false).length
  /-- There are no other failures, but for one of each listing that failed. -/
  failures_eq : summary.failures =
    (failuresOf account.ingresses.applied ++
      listingFailures K scope account.ingresses.listing ++
        failuresOf account.ingresses.pruned) ++
    (failuresOf account.services.applied ++
      listingFailures Service scope account.services.listing ++
        failuresOf account.services.pruned)
  /-- Where ingress objects cannot be listed, none is deleted. -/
  ingresses_unlisted : ∀ error, account.ingresses.listing = .error error →
    account.ingresses.pruned = []
  /-- Where services cannot be listed, none is deleted. -/
  services_unlisted : ∀ error, account.services.listing = .error error →
    account.services.pruned = []

namespace World

variable {σ K : Type} [Managed K] [DecidableEq K] (synthesizer : Synthesizer K)
  (scope : Option String) (world : World σ) {pass : WorldPass σ K}

/-- Where routes can be listed, a pass accounts for every object. -/
theorem accounted_of_ok {listed : List Route} (h : pass.listing = .ok listed) :
    ∃ summary account, Accounted synthesizer scope world pass (Reconciler.kept listed) summary
      account := by
  obtain ⟨log, hpass⟩ := reconcile_of_ok synthesizer scope world h
  let routes := Reconciler.kept listed
  let synthesis := synthesizer.synthesize routes
  let first := accountedPhase pass.ingresses scope synthesis.objects
    (servesFailed synthesis.failedFqdns) world.stores
  let second := accountedPhase pass.services scope (synthesizer.services routes) (fun _ => false)
    first.2
  have haccount : account synthesizer scope pass routes world.stores =
      ({ ingresses := first.1, services := second.1 }, second.2) := rfl
  change reconcile synthesizer scope world pass =
    ((.ok (PassAccount.summary (account synthesizer scope pass routes world.stores).1 scope
      synthesis.errors), log), _) at hpass
  rw [haccount] at hpass
  have happlied : first.1.applied.map Prod.fst = synthesis.objects := map_fst_applied ..
  have happlied' : second.1.applied.map Prod.fst = synthesizer.services routes :=
    map_fst_applied ..
  have hpruned : first.1.pruned.map Prod.fst = first.1.undesired synthesis.objects
    (servesFailed synthesis.failedFqdns) := map_fst_pruned ..
  have hpruned' : second.1.pruned.map Prod.fst =
    second.1.undesired (synthesizer.services routes) fun _ => false := map_fst_pruned ..
  refine ⟨PassAccount.summary { ingresses := first.1, services := second.1 } scope synthesis.errors,
    { ingresses := first.1, services := second.1 }, ?_⟩
  exact {
    answer := by rw [hpass]
    asked := by rw [hpass]; exact haccount
    published := by rw [hpass]
    ingresses_applied := happlied
    services_applied := happlied'
    applied_eq := by
      rw [PassAccount.count_applied, ← happlied, ← happlied', List.length_map, List.length_map]
    pruned_eq := by
      rw [PassAccount.count_pruned, ← hpruned, ← hpruned', List.length_map, List.length_map]
    failures_eq := PassAccount.failures_summary ..
    ingresses_unlisted := fun _ => pruned_eq_nil_of_unlisted
    services_unlisted := fun _ => pruned_eq_nil_of_unlisted }

end World

/-- However the stores behave, a pass answers an error exactly where routes cannot be listed, and
then it has touched neither the stores nor the snapshots; otherwise its summary accounts for every
object. In memory, whatever fails, as many objects are counted as created, updated and deleted as
writes are made, if nobody else writes; the stores count them in words of 64 bits. -/
theorem reconcile_accounts_for_every_object {K : Type} [Managed K] [DecidableEq K] [ManagedView K]
    [LawfulManaged K] (synthesizer : Synthesizer K) (scope : Option String) :
    (∀ (σ : Type) (world : World σ) (pass : WorldPass σ K),
      (∀ error, (world.reconcile synthesizer scope pass).1.1 = .error error ↔
        pass.listing = .error error) ∧
      (∀ error, pass.listing = .error error →
        (world.reconcile synthesizer scope pass).2 = world) ∧
      ∀ listed, pass.listing = .ok listed → ∃ summary account,
        World.Accounted synthesizer scope world pass (Reconciler.kept listed) summary account) ∧
    ∀ (site : Site K) (pass : SitePass) (summary : Summary), site.ingresses.Keyed →
      site.services.Keyed → (site.reconcile synthesizer scope pass).1.1 = .ok summary →
      UInt64.ofNat (summary.created + summary.updated + summary.deleted) +
          (site.ingresses.writeCount + site.services.writeCount) =
        (site.reconcile synthesizer scope pass).2.ingresses.writeCount +
          (site.reconcile synthesizer scope pass).2.services.writeCount := by
  refine ⟨fun σ world pass => ⟨fun error => ?_, fun error herror => ?_, fun listed hlisted => ?_⟩,
    fun site pass summary hingresses hservices h => ?_⟩
  · cases hlisting : pass.listing with
    | error other =>
      rw [World.reconcile_of_error synthesizer scope world hlisting, Except.error.injEq,
        Except.error.injEq]
    | ok listed =>
      obtain ⟨log, hpass⟩ := World.reconcile_of_ok synthesizer scope world hlisting
      rw [hpass]
      exact iff_of_false nofun nofun
  · rw [World.reconcile_of_error synthesizer scope world herror]
  · exact World.accounted_of_ok synthesizer scope world hlisted
  · exact Site.writeCount_reconcile synthesizer scope pass site hingresses hservices h

/-- A pass over one route on stores that refuse every call. -/
def refusedPass : WorldPass Nat Site.downConfig.provider.Object where
  listing := Site.downPass.listing
  ingresses := refusingStore _
  services := refusingStore _

/-- A pass on stores that refuse every call still answers a summary that accounts for everything,
and a pass on two stores in memory, of which one has an object that is down, counts its writes. -/
theorem refusedPass_accounted :
    (∃ summary account, World.Accounted Site.downConfig.synthesizer none { stores := 0 } refusedPass
      Site.downPass.routes summary account) ∧
    ∃ summary,
      (Site.downSite.reconcile Site.downConfig.synthesizer none Site.downPass).1.1 = .ok summary ∧
      UInt64.ofNat (summary.created + summary.updated + summary.deleted) + 0 =
        (Site.downSite.reconcile Site.downConfig.synthesizer none
            Site.downPass).2.ingresses.writeCount +
          (Site.downSite.reconcile Site.downConfig.synthesizer none
            Site.downPass).2.services.writeCount := by
  obtain ⟨hworlds, hsites⟩ :=
    reconcile_accounts_for_every_object Site.downConfig.synthesizer none
  refine ⟨(hworlds Nat { stores := 0 } refusedPass).2.2 _ rfl, ?_⟩
  obtain ⟨p, q, _, _, _, _, hpass⟩ := Site.reconcile_of_ok Site.downConfig.synthesizer none
    Site.downSite (show Site.downPass.listing = .ok _ from rfl)
  exact ⟨_, congrArg (·.1.1) hpass, hsites Site.downSite Site.downPass _ MemoryStore.keyed_empty
    (MemoryStore.keyed_empty.insert Site.goneService) (congrArg (·.1.1) hpass)⟩

end Ingress
