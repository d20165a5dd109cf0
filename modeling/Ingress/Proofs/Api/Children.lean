import Ingress.Proofs.Api.Answer
import Ingress.Proofs.Pass.Reckoning
import Ingress.Proofs.Synthesis.Template
import Ingress.Proofs.Synthesis.Verdict

/-!
# What is shown is what is applied

The endpoint that shows objects makes them anew, from the latest snapshot and the labels that are
posted. After a pass the snapshot holds the routes that the pass worked on, so with the controller's
own template labels it shows just what the pass has tried to bring about, failures or not. With
other labels it shows the same objects but for the labels, and the controller's own labels stay
(`posted_labels_show_desired_objects`).
-/

namespace Ingress.Api

/-- The answer that shows children. -/
def childrenResponse (children : List Json) : Response :=
  .ok (.json (.object [("children", .array children)]))

/-- A post of labels shows the children of the latest snapshot with these labels. -/
theorem answer_posted {K : Type} [Resource K] {s : State K} {r : Request} {labels : Labels}
    {snapshot : Snapshot} (h : r.Posts labels) (hsnapshot : s.snapshots.get = some snapshot) :
    (answer s r).1 =
      childrenResponse ((s.synthesizer.withLabels labels).children snapshot.routes) := by
  rw [answer_of_posts h]
  unfold answerSync fromSnapshot
  rw [hsnapshot]
  rfl

end Ingress.Api

namespace Ingress

/-- The objects that a pass has tried to apply as documents: the ingress objects, then the services,
each in the order in which they were applied. -/
def PassAccount.documents {K : Type} [Resource K] (account : PassAccount K) : List Json :=
  account.ingresses.applied.map (fun entry => Resource.toJson entry.1) ++
    account.services.applied.map fun entry => Resource.toJson entry.1

/-- After a pass over listed routes, a post of the controller's own template labels shows what the
pass has tried to apply. -/
theorem World.Accounted.answer_posted {σ K : Type} [Managed K] [DecidableEq K]
    {synthesizer : Synthesizer K} {scope : Option String} {world : World σ} {pass : WorldPass σ K}
    {routes : List Route} {summary : Summary} {account : PassAccount K}
    (h : Accounted synthesizer scope world pass routes summary account) {request : Api.Request}
    (hposts : request.Posts synthesizer.labels) :
    (Api.answer ⟨(world.reconcile synthesizer scope pass).2.snapshots, synthesizer⟩ request).1 =
      Api.childrenResponse account.documents := by
  have hsnapshot : (world.reconcile synthesizer scope pass).2.snapshots.get =
      some { routes, generation := (world.snapshots.count + 1).toNat } := by
    rw [h.published]
    rfl
  rw [Api.answer_posted hposts hsnapshot]
  change Api.childrenResponse (synthesizer.children routes) = _
  unfold Synthesizer.children PassAccount.documents
  rw [← h.ingresses_applied, ← h.services_applied, List.map_map, List.map_map]
  rfl

/-- After a pass that has listed the routes, whatever else failed in it, a post of the controller's
own template labels shows what the pass tried to apply: the ingress objects in ascending order of
hostnames, then the services in the order of the listing. Two posts of any labels show as many
children for a snapshot, which differ at most in their labels and have the controller's own. -/
theorem posted_labels_show_desired_objects (config : Config) :
    (∀ {σ : Type} (scope : Option String) (world : World σ)
      (pass : WorldPass σ config.provider.Object) (summary : Summary) (request : Api.Request),
      (world.reconcile config.synthesizer scope pass).1.1 = .ok summary →
      request.Posts config.labels →
      ∃ listed account,
        pass.listing = .ok listed ∧
        World.account config.synthesizer scope pass (Reconciler.kept listed) world.stores =
          (account, (world.reconcile config.synthesizer scope pass).2.stores) ∧
        (Api.answer ⟨(world.reconcile config.synthesizer scope pass).2.snapshots,
            config.synthesizer⟩ request).1 =
          Api.childrenResponse account.documents ∧
        (∃ fqdns : List String, fqdns.Pairwise (fun a b => compare a b = .lt) ∧
          account.ingresses.applied.map (fun entry => Resource.annotation? entry.1 fqdnKey) =
            fqdns.map some) ∧
        account.services.applied.map Prod.fst =
          (Reconciler.kept listed).flatMap (Route.services config.labels)) ∧
    ∀ (snapshots : SnapshotRepo) (snapshot : Snapshot) (request request' : Api.Request)
      (labels labels' : Labels), snapshots.get = some snapshot → request.Posts labels →
      request'.Posts labels' →
      ∃ children children',
        (Api.answer ⟨snapshots, config.synthesizer⟩ request).1 = Api.childrenResponse children ∧
        (Api.answer ⟨snapshots, config.synthesizer⟩ request').1 = Api.childrenResponse children' ∧
        children.length = children'.length ∧
        List.Forall₂ (fun a b => a.blank labelsAt = b.blank labelsAt) children children' ∧
        OwnLabels snapshot.routes children ∧ OwnLabels snapshot.routes children' := by
  constructor
  · intro σ scope world pass summary request hok hposts
    cases hlisting : pass.listing with
    | error error =>
      rw [World.reconcile_of_error config.synthesizer scope world hlisting] at hok
      cases hok
    | ok listed =>
      obtain ⟨_, account, haccounted⟩ :=
        World.accounted_of_ok config.synthesizer scope world hlisting
      obtain ⟨fqdns, hascending, hfqdns⟩ := config.synthesizer.exists_ascending_objects
        (Reconciler.kept listed) config.lawful_synthesizer
      rw [← haccounted.ingresses_applied, List.map_map] at hfqdns
      exact ⟨listed, account, rfl, haccounted.asked, haccounted.answer_posted hposts,
        ⟨fqdns, hascending, hfqdns⟩, haccounted.services_applied⟩
  · intro snapshots snapshot request request' labels labels' hsnapshot hposts hposts'
    obtain ⟨spec, hspec⟩ := config.exists_encloses config.provider
    have hkind := Provider.kind_object_ne config.provider
    have hsame := config.synthesizer.forall₂_children hspec labels labels' snapshot.routes
    exact ⟨_, _, Api.answer_posted hposts hsnapshot, Api.answer_posted hposts' hsnapshot,
      hsame.length_eq, hsame, Synthesizer.ownLabels_children hspec hkind labels snapshot.routes,
      Synthesizer.ownLabels_children hspec hkind labels' snapshot.routes⟩

/-- Template labels that claim the objects for somebody else. -/
def foreignLabels : Labels := Std.ExtTreeMap.ofList [(managedByLabel, "somebody")]

/-- These labels can be posted. -/
theorem posts_posting_foreignLabels : (Api.Request.posting foreignLabels).Posts foreignLabels := by
  have hlabels : foreignLabels.toList = [(managedByLabel, "somebody")] := by decide +kernel
  refine Api.posts_posting ?_
  simp only [Api.Request.posting, Api.syncBody, Api.labelPath, List.foldr, Labels.toJson, hlabels,
    List.map, Json.compact, Json.tokens, Json.fieldTokens, Json.quoted_eq]
  decide +kernel

/-- A snapshot of one route. -/
def sampleSnapshots : SnapshotRepo := ({} : SnapshotRepo).put { routes := Site.downPass.routes }

/-- After a pass in which every call was refused the objects that it tried to apply are shown, and
labels that claim them for somebody else are not heeded. -/
theorem refusedPass_shown :
    (∃ (listed : List Route) (account : PassAccount Site.downConfig.provider.Object),
      refusedPass.listing = .ok listed ∧
      (Api.answer ⟨(World.reconcile Site.downConfig.synthesizer none { stores := 0 }
          refusedPass).2.snapshots, Site.downConfig.synthesizer⟩ (Api.Request.posting ∅)).1 =
        Api.childrenResponse account.documents) ∧
    ∃ children,
      (Api.answer ⟨sampleSnapshots, Site.downConfig.synthesizer⟩
        (Api.Request.posting foreignLabels)).1 = Api.childrenResponse children ∧
      OwnLabels Site.downPass.routes children := by
  obtain ⟨hshown, hlabels⟩ := posted_labels_show_desired_objects Site.downConfig
  constructor
  · obtain ⟨summary, _, haccounted⟩ := World.accounted_of_ok Site.downConfig.synthesizer none
      { stores := 0 } (show refusedPass.listing = .ok _ from rfl)
    obtain ⟨listed, account, hlisted, _, hanswer, _⟩ := hshown none { stores := 0 } refusedPass
      summary _ haccounted.answer Api.posts_posting_empty
    exact ⟨listed, account, hlisted, hanswer⟩
  · obtain ⟨_, children, _, hanswer, _, _, _, hown⟩ := hlabels sampleSnapshots _ _ _ _ _ rfl
      Api.posts_posting_empty posts_posting_foreignLabels
    exact ⟨children, hanswer, hown⟩

end Ingress
