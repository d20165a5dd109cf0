import Ingress.Proofs.Api.Answer
import Ingress.Proofs.Pass.World
import Mathlib.Data.List.Induction

/-!
# The snapshots of a run of passes

A pass publishes if it has listed the routes, whatever else fails. So after a run that began without
a snapshot the latest one holds what the most recent successful listing has left after the routes
that are being deleted have been taken out, its generation is the number of successful listings, and
the endpoints that answer from it meet an error exactly as long as there has been none. Routes that
are being deleted have no influence at all (`snapshots_follow_passes`).
-/

namespace Ingress

namespace World

variable {σ K : Type}

/-- The listings of a run of passes that succeeded, in order. -/
def listings (passes : List (WorldPass σ K)) : List (List Route) :=
  passes.filterMap fun pass => pass.listing.toOption

/-- A listing that succeeds comes last. -/
theorem listings_snoc_of_ok {earlier : List (WorldPass σ K)} {pass : WorldPass σ K}
    {listed : List Route} (h : pass.listing = .ok listed) :
    listings (earlier ++ [pass]) = listings earlier ++ [listed] := by
  unfold listings
  rw [List.filterMap_append, List.filterMap_cons_some (b := listed) (by rw [h]; rfl)]
  rfl

/-- A listing that fails is left out. -/
theorem listings_snoc_of_error {earlier : List (WorldPass σ K)} {pass : WorldPass σ K}
    {error : StoreError} (h : pass.listing = .error error) :
    listings (earlier ++ [pass]) = listings earlier := by
  unfold listings
  rw [List.filterMap_append, List.filterMap_cons_none (by rw [h]; rfl), List.filterMap_nil,
    List.append_nil]

/-- There is no listing exactly if all have failed. -/
theorem listings_eq_nil_iff {passes : List (WorldPass σ K)} :
    listings passes = [] ↔ ∀ pass ∈ passes, ∃ error, pass.listing = .error error := by
  unfold listings
  rw [List.filterMap_eq_nil_iff]
  refine forall₂_congr fun pass _ => ?_
  cases pass.listing with
  | ok listed => exact iff_of_false nofun nofun
  | error error => exact iff_of_true rfl ⟨error, rfl⟩

/-- The snapshots after some listings have been published. -/
def published (listings : List (List Route)) : SnapshotRepo where
  current := listings.getLast?.map fun listed =>
    { routes := Reconciler.kept listed, generation := (UInt64.ofNat listings.length).toNat }
  count := UInt64.ofNat listings.length

/-- One more listing is published as the next snapshot. -/
theorem put_published (listings : List (List Route)) (listed : List Route) :
    (published listings).put { routes := Reconciler.kept listed } =
      published (listings ++ [listed]) := by
  unfold published SnapshotRepo.put
  rw [List.getLast?_concat, List.length_append, List.length_singleton, UInt64.ofNat_add]
  rfl

/-- No snapshot has been published where there was no listing. -/
theorem current_published_eq_none_iff {listings : List (List Route)} :
    (published listings).current = none ↔ listings = [] := by
  unfold published
  rw [Option.map_eq_none_iff, List.getLast?_eq_none_iff]

variable [Managed K] [DecidableEq K] (synthesizer : Synthesizer K) (scope : Option String)

/-- A run publishes the listings that succeed. -/
theorem snapshots_run (stores : σ) (passes : List (WorldPass σ K)) :
    (run synthesizer scope { stores } passes).snapshots = published (listings passes) := by
  induction passes using List.reverseRecOn with
  | nil => rfl
  | append_singleton earlier pass ih =>
    rw [run_snoc]
    cases hlisting : pass.listing with
    | error error =>
      rw [reconcile_of_error synthesizer scope _ hlisting, listings_snoc_of_error hlisting, ih]
    | ok listed =>
      obtain ⟨log, hpass⟩ := reconcile_of_ok synthesizer scope
        (run synthesizer scope { stores } earlier) hlisting
      rw [hpass, listings_snoc_of_ok hlisting, ← put_published, ← ih]

/-- Of a listing only the routes that are not being deleted have an influence. -/
theorem reconcile_congr (world : World σ) (pass : WorldPass σ K) {first second : List Route}
    (h : Reconciler.kept first = Reconciler.kept second) :
    world.reconcile synthesizer scope { pass with listing := .ok first } =
      world.reconcile synthesizer scope { pass with listing := .ok second } := by
  have hroutes (listed : List Route) : (reconciler synthesizer scope
      { pass with listing := .ok listed }).routes world = (.ok listed, world) := rfl
  unfold reconcile
  rw [Reconciler.reconcile_eq_reconcileListed (hroutes first),
    Reconciler.reconcile_eq_reconcileListed (hroutes second), Reconciler.reconcileListed_congr h]
  rfl

end World

/-- After a run of passes without a snapshot before it, whatever the listings of routes answer and
however the stores behave, the latest snapshot holds the routes of the most recent successful
listing that are not being deleted, and is numbered by how many listings have succeeded, counted in
words of 64 bits; while none has, the endpoints that answer from it answer the error of a controller
without routes, and only then. The routes of a listing that are being deleted influence nothing. -/
theorem snapshots_follow_passes {σ K : Type} [Managed K] [DecidableEq K]
    (synthesizer : Synthesizer K) (scope : Option String) (stores : σ)
    (passes : List (WorldPass σ K)) :
    ((World.run synthesizer scope { stores } passes).snapshots.get =
      (World.listings passes).getLast?.map fun listed =>
        { routes := listed.filter fun route => !route.terminating
          generation := (World.listings passes).length % UInt64.size }) ∧
    (World.run synthesizer scope { stores } passes).snapshots.generation =
      (World.listings passes).length % UInt64.size ∧
    (∀ request : Api.Request, request.ReadsRoutes →
      ((Api.answer ⟨(World.run synthesizer scope { stores } passes).snapshots, synthesizer⟩
          request).1 = Api.ApiError.uninitialized.response ↔
        ∀ pass ∈ passes, ∃ error, pass.listing = .error error)) ∧
    (∀ (request : Api.Request) (labels : Labels), request.Posts labels →
      ((Api.answer ⟨(World.run synthesizer scope { stores } passes).snapshots, synthesizer⟩
          request).1 = Api.ApiError.uninitialized.response ↔
        ∀ pass ∈ passes, ∃ error, pass.listing = .error error)) ∧
    ∀ (world : World σ) (pass : WorldPass σ K) (listed : List Route),
      world.reconcile synthesizer scope { pass with listing := .ok listed } =
        world.reconcile synthesizer scope
          { pass with listing := .ok (listed.filter fun route => !route.terminating) } := by
  have hsnapshots := World.snapshots_run synthesizer scope stores passes
  have hnone : (World.published (World.listings passes)).current = none ↔
      ∀ pass ∈ passes, ∃ error, pass.listing = .error error := by
    rw [World.current_published_eq_none_iff, World.listings_eq_nil_iff]
  refine ⟨?_, ?_, fun request hreads => ?_, fun request labels hposts => ?_,
    fun world pass listed => ?_⟩
  · rw [hsnapshots]
    rfl
  · rw [hsnapshots]
    rfl
  · rw [Api.readsRoutes_uninitialized_iff hreads, hsnapshots, hnone]
  · rw [Api.posts_uninitialized_iff hposts, hsnapshots, hnone]
  · exact World.reconcile_congr synthesizer scope world pass
      (List.filter_filter.trans (List.filter_congr fun _ _ => Bool.and_self _)).symm

/-- A route that stays. -/
def stayingRoute : Route where
  metadata := { name := some "web", ns := some "apps" }
  host := "web"
  domain := { name := "example.com" }

/-- A route that is being deleted. -/
def leavingRoute : Route where
  metadata :=
    { name := some "old", ns := some "apps", deletionTimestamp := some ⟨2024, 1, 1, 0, 0, 0⟩ }
  host := "old"
  domain := { name := "example.com" }

/-- A pass on stores that refuse every call. -/
def passOver (listing : Except StoreError (List Route)) : WorldPass Nat HttpProxy where
  listing
  ingresses := refusingStore _
  services := refusingStore _

/-- Proxies without settings. -/
def plainProxies : Synthesizer HttpProxy where
  renderer := HttpProxy.renderer none false
  labels := ∅

/-- Routes cannot be listed first, which both endpoints answer; then both routes are listed, then
they cannot be listed again. -/
theorem snapshot_of_stayingRoute :
    (World.run plainProxies none { stores := 0 } [passOver (.error (.request .undecodable)),
        passOver (.ok [leavingRoute, stayingRoute]),
        passOver (.error (.request .undecodable))]).snapshots.get =
      some { routes := [stayingRoute], generation := 1 } ∧
    (Api.answer ⟨(World.run plainProxies none { stores := 0 }
          [passOver (.error (.request .undecodable))]).snapshots, plainProxies⟩
        Api.Request.reading).1 = Api.ApiError.uninitialized.response ∧
    (Api.answer ⟨(World.run plainProxies none { stores := 0 }
          [passOver (.error (.request .undecodable))]).snapshots, plainProxies⟩
        (Api.Request.posting ∅)).1 = Api.ApiError.uninitialized.response := by
  obtain ⟨hlatest, _, _, _, _⟩ := snapshots_follow_passes plainProxies none 0
    [passOver (.error (.request .undecodable)), passOver (.ok [leavingRoute, stayingRoute]),
      passOver (.error (.request .undecodable))]
  obtain ⟨_, _, hreads, hposts, _⟩ := snapshots_follow_passes plainProxies none 0
    [passOver (.error (.request .undecodable))]
  have hfailed : ∀ pass ∈ [passOver (.error (.request .undecodable))],
      ∃ error, pass.listing = .error error := List.forall_mem_singleton.mpr ⟨_, rfl⟩
  exact ⟨hlatest, (hreads _ Api.readsRoutes_reading).mpr hfailed,
    (hposts _ ∅ Api.posts_posting_empty).mpr hfailed⟩

end Ingress
