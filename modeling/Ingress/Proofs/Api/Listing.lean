import Ingress.Proofs.Api.Answer
import Ingress.Proofs.Synthesis.Isolation

/-!
# The listing of routes by hostname

Routes are grouped by hostname twice: synthesis picks the routes of every hostname out of the whole
list, and the listing is built up route by route. Both come to the same groups
(`Listing.toList_ofRoutes` and `Synthesizer.verdicts_eq_map_groups`), which hold every route once
(`groupedByHostname_groups`). So the hostnames that a reader sees are those that synthesis has looked
at, each with the routes that its object or its error was made from
(`Config.routes_answered_by_hostname`).
-/

namespace Ingress

/-- Groups that routes fall into by the hostname that they serve. -/
structure GroupedByHostname (routes : List Route) (groups : List (String × List Route)) :
    Prop where
  /-- The hostnames of the groups ascend, so that no two groups have the same. -/
  ascending : (groups.map Prod.fst).Pairwise fun a b => compare a b = .lt
  /-- They are the hostnames that the routes serve. -/
  mem_fqdns (fqdn : String) : fqdn ∈ groups.map Prod.fst ↔ ∃ route ∈ routes, route.fqdn = fqdn
  /-- The group of a hostname has the routes that serve it, in their order. -/
  members_eq : ∀ group ∈ groups, group.2 = routes.filter fun route => route.fqdn = group.1
  /-- All groups together have every route once. -/
  perm : (groups.flatMap Prod.snd).Perm routes

/-- The hostnames of routes, each with the routes that serve it. -/
def hostnameGroups (routes : List Route) : List (String × List Route) :=
  (hostnames routes).map fun fqdn => (fqdn, routesOf fqdn routes)

/-- The groups are called after the hostnames. -/
theorem map_fst_hostnameGroups (routes : List Route) :
    (hostnameGroups routes).map Prod.fst = hostnames routes := by
  unfold hostnameGroups
  rw [List.map_map]
  exact List.map_id _

/-- The routes of all hostnames are all routes. -/
theorem flatMap_routesOf_perm (routes : List Route) :
    ((hostnames routes).flatMap fun fqdn => routesOf fqdn routes).Perm routes := by
  rw [List.perm_iff_count]
  intro route
  by_cases hroute : route ∈ routes
  · -- Only the group of its own hostname has the route, and has it as often as the list.
    have hfqdn : route.fqdn ∈ hostnames routes := mem_hostnames.mpr ⟨route, hroute, rfl⟩
    have hothers : ∀ other ∈ hostnames routes, other ≠ route.fqdn →
        (routesOf other routes).filter (· == route) = [] := by
      intro other _ hne
      refine List.filter_eq_nil_iff.mpr fun member hmember hsame => hne ?_
      rw [← (mem_routesOf.mp hmember).2, beq_iff_eq.mp hsame]
    have hown : (routesOf route.fqdn routes).filter (· == route) = routes.filter (· == route) := by
      unfold routesOf
      rw [List.filter_filter]
      refine List.filter_congr fun member _ => ?_
      by_cases hsame : member = route
      · simp [hsame]
      · simp [hsame]
    rw [List.count_eq_length_filter, List.count_eq_length_filter, List.filter_flatMap,
      flatMap_eq_of_forall_ne (nodup_hostnames routes) hfqdn hothers, hown]
  · have hnone : route ∉ (hostnames routes).flatMap fun fqdn => routesOf fqdn routes := by
      intro hmem
      obtain ⟨_, _, hmember⟩ := List.mem_flatMap.mp hmem
      exact hroute (mem_routesOf.mp hmember).1
    rw [List.count_eq_zero_of_not_mem hroute, List.count_eq_zero_of_not_mem hnone]

/-- Routes fall into the groups of their hostnames. -/
theorem groupedByHostname_groups (routes : List Route) :
    GroupedByHostname routes (hostnameGroups routes) where
  ascending := by
    rw [map_fst_hostnameGroups]
    exact pairwise_hostnames routes
  mem_fqdns fqdn := by
    rw [map_fst_hostnameGroups]
    exact mem_hostnames
  members_eq group hgroup := by
    obtain ⟨fqdn, _, rfl⟩ := List.mem_map.mp hgroup
    rfl
  perm := by
    unfold hostnameGroups
    rw [List.flatMap_map]
    exact flatMap_routesOf_perm routes

namespace Api.Listing

/-- More routes come after those that a hostname has in the listing. -/
theorem getD_foldl_add (routes : List Route) (listing : Listing) (fqdn : String) :
    (routes.foldl add listing).getD fqdn [] =
      listing.getD fqdn [] ++ (routesOf fqdn routes).map RouteEntry.ofRoute := by
  induction routes generalizing listing with
  | nil => exact (List.append_nil _).symm
  | cons route rest ih =>
    have hstep : (listing.add route).getD fqdn [] =
        listing.getD fqdn [] ++ (routesOf fqdn [route]).map RouteEntry.ofRoute := by
      unfold add routesOf
      rw [Std.ExtTreeMap.getD_insert]
      by_cases hfqdn : route.fqdn = fqdn
      · simp [hfqdn]
      · simp [hfqdn]
    have hroutes : routesOf fqdn (route :: rest) = routesOf fqdn [route] ++ routesOf fqdn rest :=
      List.filter_append [route] rest
    rw [List.foldl_cons, ih, hstep, hroutes, List.map_append, List.append_assoc]

/-- More routes put their hostnames into the listing and take none out. -/
theorem mem_foldl_add (routes : List Route) (listing : Listing) (fqdn : String) :
    fqdn ∈ routes.foldl add listing ↔ fqdn ∈ listing ∨ ∃ route ∈ routes, route.fqdn = fqdn := by
  induction routes generalizing listing with
  | nil => simp
  | cons route rest ih =>
    rw [List.foldl_cons, ih, add, Std.ExtTreeMap.mem_insert, Std.LawfulEqCmp.compare_eq_iff_eq]
    simp only [List.mem_cons, exists_eq_or_imp]
    tauto

/-- The listing of routes has their hostnames. -/
theorem keys_ofRoutes (routes : List Route) : (ofRoutes routes).keys = hostnames routes := by
  have hsame : ∀ fqdn, fqdn ∈ (ofRoutes routes).keys ↔ fqdn ∈ hostnames routes := by
    intro fqdn
    unfold ofRoutes
    rw [Std.ExtTreeMap.mem_keys, mem_foldl_add, mem_hostnames]
    simp
  have hperm := (List.perm_ext_iff_of_nodup Std.ExtTreeMap.nodup_keys
    (nodup_hostnames routes)).mpr hsame
  refine hperm.eq_of_pairwise ?_ Std.ExtTreeMap.ordered_keys (pairwise_hostnames routes)
  intro a b _ _ hab hba
  exact absurd hba (Std.OrientedCmp.not_lt_of_lt hab)

/-- The listing of routes has their groups, each route as its entry. -/
theorem toList_ofRoutes (routes : List Route) :
    (ofRoutes routes).toList = (hostnameGroups routes).map fun group =>
      (group.1, group.2.map RouteEntry.ofRoute) := by
  have hentries : ∀ entry ∈ (ofRoutes routes).toList,
      entry = (entry.1, (routesOf entry.1 routes).map RouteEntry.ofRoute) := by
    intro entry hentry
    have hvalue := Std.ExtTreeMap.mem_toList_iff_getElem?_eq_some.mp hentry
    have hlisted := getD_foldl_add routes ∅ entry.1
    rw [Std.ExtTreeMap.getD_empty, List.nil_append] at hlisted
    rw [← hlisted]
    change entry = (entry.1, (ofRoutes routes).getD entry.1 [])
    rw [Std.ExtTreeMap.getD_eq_getD_getElem?, hvalue]
    rfl
  calc (ofRoutes routes).toList
      = (ofRoutes routes).toList.map id := (List.map_id _).symm
    _ = (ofRoutes routes).toList.map
          fun entry => (entry.1, (routesOf entry.1 routes).map RouteEntry.ofRoute) :=
        List.map_congr_left hentries
    _ = (ofRoutes routes).keys.map
          fun fqdn => (fqdn, (routesOf fqdn routes).map RouteEntry.ofRoute) := by
        rw [← Std.ExtTreeMap.map_fst_toList_eq_keys, List.map_map]
        rfl
    _ = _ := by
        rw [keys_ofRoutes, hostnameGroups, List.map_map]
        rfl

/-- The document that lists groups of routes: under every hostname its routes in order, each with
its name, its namespace, its URL and the names of the services of all its destinations, in order. -/
def document (groups : List (String × List Route)) : Json :=
  .object (groups.map fun (fqdn, members) => (fqdn, .array (members.map fun route => .object [
    ("name", .string route.name),
    ("namespace", .string (route.ns.getD "")),
    ("url", .string route.fullUrl),
    ("destinations", .array (route.destinations.map fun d => .string d.serviceName))])))

/-- The written form of the listing is the document that lists the groups. -/
theorem toJson_ofRoutes (routes : List Route) :
    (ofRoutes routes).toJson = document (hostnameGroups routes) := by
  unfold toJson document
  rw [toList_ofRoutes, List.map_map]
  refine congrArg Json.object (List.map_congr_left fun group _ => ?_)
  refine congrArg (Prod.mk group.1 ∘ Json.array) ?_
  rw [List.map_map]
  refine List.map_congr_left fun route _ => ?_
  unfold Function.comp RouteEntry.toJson RouteEntry.ofRoute Json.ofList
  rw [List.map_map]
  rfl

end Api.Listing

namespace Synthesizer

variable {K : Type} (s : Synthesizer K)

/-- Synthesis comes to a verdict on every group. -/
theorem verdicts_eq_map_groups (routes : List Route) :
    s.verdicts routes = (hostnameGroups routes).map fun (fqdn, members) =>
      (fqdn, s.verdict fqdn members) := by
  unfold verdicts hostnameGroups
  rw [List.map_map]
  rfl

variable {s} {routes : List Route}

/-- A hostname has the group among its own routes that it has among all. -/
theorem hasGroup_routesOf_iff {fqdn : String} {group : HostGroup} :
    s.HasGroup (routesOf fqdn routes) fqdn group ↔ s.HasGroup routes fqdn group := by
  unfold HasGroup
  rw [routesOf_routesOf]

end Synthesizer

namespace Config

/-- Whatever the provider, its settings and the labels, and whatever snapshot there is: a request for
the routes is answered with the groups that they fall into by hostname, and these are the groups
that synthesis comes to a verdict on; every object and every error of a synthesis of the same routes
bears the hostname of a group and is that of the routes in the group. -/
theorem routes_answered_by_hostname (config : Config) {s : Api.State config.provider.Object}
    {r : Api.Request} {snapshot : Snapshot} (hreads : r.ReadsRoutes)
    (hsnapshot : s.snapshots.get = some snapshot) :
    ∃ groups : List (String × List Route), GroupedByHostname snapshot.routes groups ∧
      Api.answer s r = (.ok (.json (Api.Listing.document groups)), []) ∧
      config.synthesizer.verdicts snapshot.routes =
        groups.map (fun (fqdn, members) => (fqdn, config.synthesizer.verdict fqdn members)) ∧
      (∀ object ∈ (config.synthesizer.synthesize snapshot.routes).objects, ∃ group ∈ groups,
        Resource.annotation? object fqdnKey = some group.1 ∧
          object ∈ (config.synthesizer.synthesize group.2).objects) ∧
      ∀ failure ∈ (config.synthesizer.synthesize snapshot.routes).errors, ∃ group ∈ groups,
        failure.fqdn = group.1 ∧ failure ∈ (config.synthesizer.synthesize group.2).errors := by
  refine ⟨hostnameGroups snapshot.routes, groupedByHostname_groups snapshot.routes, ?_,
    config.synthesizer.verdicts_eq_map_groups snapshot.routes, fun object hobject => ?_,
    fun failure hfailure => ?_⟩
  · rw [Api.answer_of_readsRoutes hreads, Api.answerRoutes, Api.fromSnapshot, hsnapshot,
      ← Api.Listing.toJson_ofRoutes]
  · obtain ⟨fqdn, hfqdn, group, hgroup, rfl⟩ := Synthesizer.mem_objects.mp hobject
    refine ⟨_, List.mem_map_of_mem hfqdn, ?_, Synthesizer.mem_objects.mpr ⟨fqdn, ?_, group, ?_, rfl⟩⟩
    · rw [Synthesizer.annotation?_objectOf config.lawful_synthesizer, hgroup.of.fqdn_eq]
    · rw [hostnames_routesOf hfqdn]
      exact List.mem_singleton_self fqdn
    · exact Synthesizer.hasGroup_routesOf_iff.mpr hgroup
  · obtain ⟨hfqdn, hverdict⟩ := Synthesizer.mem_errors.mp hfailure
    refine ⟨_, List.mem_map_of_mem hfqdn, rfl, Synthesizer.mem_errors.mpr ⟨?_, ?_⟩⟩
    · rw [hostnames_routesOf hfqdn]
      exact List.mem_singleton_self _
    · rwa [routesOf_routesOf]

/-- Four routes, of which the first and the third serve one hostname though their hosts and domains
differ, and the third is listed twice. -/
def crossingRoutes : List Route :=
  let route (name host domain : String) : Route := {
    metadata := { name := some name, ns := some "apps" }
    host
    domain := { name := domain } }
  [route "a" "web" "apps.example.com", route "b" "shop" "example.com",
    route "c" "web.apps" "example.com", route "c" "web.apps" "example.com"]

/-- The routes that serve one hostname are answered together, in their order. -/
theorem routes_answered_crossingRoutes :
    let s : Api.State proxyConfig.provider.Object :=
      { snapshots := SnapshotRepo.put {} { routes := crossingRoutes }
        synthesizer := proxyConfig.synthesizer }
    ∃ groups, Api.answer s Api.Request.reading =
        (.ok (.json (Api.Listing.document groups)), []) ∧
      (∃ group ∈ groups, group.1 = "web.apps.example.com" ∧
        group.2.map Route.name = ["a", "c", "c"]) ∧
      (groups.flatMap Prod.snd).Perm crossingRoutes := by
  intro s
  obtain ⟨groups, hgrouped, hanswer, _⟩ :=
    routes_answered_by_hostname proxyConfig (s := s) Api.readsRoutes_reading rfl
  have hserved : "web.apps.example.com" ∈ groups.map Prod.fst :=
    (hgrouped.mem_fqdns _).mpr (by decide)
  obtain ⟨group, hgroup, hfqdn⟩ := List.mem_map.mp hserved
  refine ⟨groups, hanswer, ⟨group, hgroup, hfqdn, ?_⟩, hgrouped.perm⟩
  rw [hgrouped.members_eq group hgroup, hfqdn]
  decide

end Config

end Ingress
