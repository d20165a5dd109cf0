import Ingress.Proofs.Synthesis.Mirror
import Ingress.Proofs.Synthesis.TrafficSplit

/-!
# What the rules of an ingress object do with traffic

A virtual service and a proxy say rule by rule which requests are meant and who gets them, with what
share and with which headers. `TrafficRule` is all of that, whichever kind of object says it. The
rules and the owners of a synthesized object are the routes of its hostname that have a rule, in
match order, and the shares of a rule are those of the materialized destinations of its route, one
by one (`Config.rules_serve_routes`).
-/

namespace Ingress

/-- A service that requests are sent to. -/
structure Share where
  /-- The name of the service. -/
  service : String
  /-- The share of the traffic, where one is said. -/
  weight : Option Int := none
  /-- The request headers that are set. -/
  headers : List Header := []
  deriving DecidableEq

/-- A rule of an ingress object. -/
structure TrafficRule where
  /-- The path beginnings that it asks for. -/
  pathPrefixes : List String
  /-- The services that its requests are sent to, in order. -/
  shares : List Share
  deriving DecidableEq

/-- A destination of a virtual service with its share. -/
def MeshDestination.share (d : MeshDestination) : Share where
  service := d.host
  weight := d.weight.map Int32.toInt
  headers := ((d.headers.bind Headers.request).map fun operations =>
    operations.set.toList.map fun (name, value) => ⟨name, value⟩).getD []

/-- A service of a proxy with its share. -/
def ProxyService.share (s : ProxyService) : Share where
  service := s.name
  weight := s.weight.map Int64.toInt
  headers := s.requestHeaders.getD []

/-- A rule of a virtual service. -/
def MeshRule.traffic (rule : MeshRule) : TrafficRule where
  pathPrefixes := rule.pathPrefixes
  shares := rule.destinations.map MeshDestination.share

/-- A route of a proxy. -/
def ProxyRoute.traffic (route : ProxyRoute) : TrafficRule where
  pathPrefixes := route.pathPrefixes
  shares := route.services.map ProxyService.share

/-- A kind of ingress objects, whose rules say what becomes of traffic. -/
class Traffic (K : Type) where
  /-- The rules of an object, in order. -/
  rules : K → List TrafficRule

instance : Traffic VirtualService where
  rules object := object.spec.rules.map MeshRule.traffic

instance : Traffic HttpProxy where
  rules object := object.spec.routes.map ProxyRoute.traffic

instance : (provider : Provider) → Traffic provider.Object
  | .istio => inferInstanceAs (Traffic VirtualService)
  | .contour => inferInstanceAs (Traffic HttpProxy)

/-- The share of a destination of a route. -/
structure Share.Of (route : Route) (portion : Destination × Int) (share : Share) : Prop where
  /-- It goes to the service of the destination. -/
  service_eq : share.service = portion.1.serviceName
  /-- It is the share of the destination. -/
  weight_eq : share.weight = some portion.2
  /-- Its requests carry the application and the process type of the destination, and the space and
  the organization of the route, each once and nothing else. -/
  headers_perm : share.headers.Perm [
    ⟨"CF-App-Id", portion.1.appGuid⟩,
    ⟨"CF-App-Process-Type", portion.1.processType⟩,
    ⟨"CF-Space-Id", route.label spaceGuidLabel⟩,
    ⟨"CF-Organization-Id", route.label orgGuidLabel⟩]

/-- A rule that serves a route. -/
structure TrafficRule.Serves (rule : TrafficRule) (route : Route) : Prop where
  /-- It asks for the path of the route exactly if that is not empty. -/
  pathPrefixes_eq : rule.pathPrefixes = if route.path = "" then [] else [route.path]
  /-- Every materialized destination has its share, in order. -/
  shares : route.materialized ≠ [] → List.Forall₂ (Share.Of route) route.split rule.shares
  /-- Where there is none, the placeholder stands alone, without a weight. -/
  placeholder : route.materialized = [] → rule.shares = [{ service := placeholderName }]

/-- A route whose URL is greater than that of another, or the same while its name is not greater. -/
def Route.Precedes (a b : Route) : Prop :=
  b.fullUrl < a.fullUrl ∨ b.fullUrl = a.fullUrl ∧ a.name ≤ b.name

/-- Texts compare as they are ordered. -/
theorem compare_eq_lt_iff {a b : String} : compare a b = .lt ↔ a < b :=
  compareOfLessAndEq_eq_lt

/-- Texts compare as less or equal as they are ordered. -/
theorem isLE_compare_iff {a b : String} : (compare a b).isLE ↔ a ≤ b := by
  have hswap : compare a b = (compare b a).swap := Std.OrientedCmp.eq_swap
  rw [hswap, ← String.not_lt, ← compare_eq_lt_iff]
  cases compare b a <;> decide

/-- Match order goes down by URLs and, where these are equal, up by names. -/
theorem Route.matchesBefore_iff (a b : Route) : a.matchesBefore b ↔ a.Precedes b := by
  rw [matchesBefore_eq_isLE, Ordering.isLE_then_iff_or, compare_eq_lt_iff,
    Std.LawfulEqCmp.compare_eq_iff_eq, isLE_compare_iff]
  rfl

/-- A map made from a list of headers with different names holds these headers. -/
theorem toList_ofList_perm {headers : List Header} (hnames : (headers.map Header.name).Nodup) :
    ((Std.ExtTreeMap.ofList (headers.map fun h => (h.name, h.value)) : Labels).toList.map
      fun (name, value) => Header.mk name value).Perm headers := by
  have hnodup : ((Std.ExtTreeMap.ofList
      (headers.map fun h => (h.name, h.value)) : Labels).toList.map Prod.fst).Nodup := by
    rw [Std.ExtTreeMap.map_fst_toList_eq_keys]
    exact Std.ExtTreeMap.nodup_keys
  -- Neither list repeats a header, so having the same headers is enough.
  refine (List.perm_ext_iff_of_nodup ?_ (List.Nodup.of_map _ hnames)).mpr fun header => ?_
  · refine List.Nodup.of_map Header.name ?_
    rwa [List.map_map]
  · rw [← getElem?_ofList_headers hnames, List.mem_map]
    constructor
    · rintro ⟨⟨name, value⟩, hentry, rfl⟩
      exact Std.ExtTreeMap.mem_toList_iff_getElem?_eq_some.mp hentry
    · intro hvalue
      exact ⟨(header.name, header.value),
        Std.ExtTreeMap.mem_toList_iff_getElem?_eq_some.mpr hvalue, rfl⟩

/-- The headers of a backend name whom its requests are for, each header once. -/
theorem backendHeaders_perm (route : Route) (destination : Destination) :
    (backendHeaders route destination).Perm [
      ⟨"CF-App-Id", destination.appGuid⟩,
      ⟨"CF-App-Process-Type", destination.processType⟩,
      ⟨"CF-Space-Id", route.label spaceGuidLabel⟩,
      ⟨"CF-Organization-Id", route.label orgGuidLabel⟩] :=
  .cons _ (List.perm_append_singleton _ [_, _])

namespace Backend

variable (route : Route) (destination : Destination) (weight : Int32)

/-- A virtual service gives a backend its share. -/
theorem share_destinationOf :
    Share.Of route (destination, weight.toInt)
      (VirtualService.destinationOf (ofDestination route destination weight)).share where
  service_eq := rfl
  weight_eq := rfl
  headers_perm := by
    have hnames : ((backendHeaders route destination).map Header.name).Nodup := by
      change requestHeaderNames.Nodup
      decide
    exact (toList_ofList_perm hnames).trans (backendHeaders_perm route destination)

/-- A proxy gives a backend its share. -/
theorem share_serviceOf :
    Share.Of route (destination, weight.toInt)
      (HttpProxy.serviceOf (ofDestination route destination weight)).share where
  service_eq := rfl
  weight_eq := congrArg some (Int32.toInt_toInt64 weight)
  headers_perm := backendHeaders_perm route destination

end Backend

namespace Provider

/-- The shares of backends, as the objects of a provider say them. -/
def sharesOf : Provider → Backends → List Share
  | .istio, backends => (VirtualService.destinationsOf backends).map MeshDestination.share
  | .contour, backends => (HttpProxy.servicesOf backends).map ProxyService.share

/-- A rule of a group, as the objects of a provider say it. -/
def trafficOf (provider : Provider) (rule : Rule) : TrafficRule where
  pathPrefixes := rule.path.toList
  shares := provider.sharesOf rule.backends

/-- The shares of the backends of a route are those of its materialized destinations. -/
theorem forall₂_sharesOf (provider : Provider) {route : Route} {requireSum : Bool}
    {weights : List Int32} (h : resolveWeights route requireSum = .ok weights) :
    List.Forall₂ (Share.Of route) route.split (provider.sharesOf (.weighted
      (List.zipWith (Backend.ofDestination route) route.materialized weights))) := by
  have hbackends : List.zipWith (Backend.ofDestination route) route.materialized weights =
      (route.materialized.zip weights).map fun pair =>
        Backend.ofDestination route pair.1 pair.2 := by
    rw [List.map_zip_eq_zipWith]
    rfl
  rw [Route.split_eq_map h, hbackends]
  cases provider with
  | istio =>
    unfold sharesOf VirtualService.destinationsOf
    dsimp only
    rw [List.map_map, List.map_map, List.forall₂_map_left_iff, List.forall₂_map_right_iff,
      List.forall₂_same]
    exact fun pair _ => Backend.share_destinationOf route pair.1 pair.2
  | contour =>
    unfold sharesOf HttpProxy.servicesOf
    dsimp only
    rw [List.map_map, List.map_map, List.forall₂_map_left_iff, List.forall₂_map_right_iff,
      List.forall₂_same]
    exact fun pair _ => Backend.share_serviceOf route pair.1 pair.2

end Provider

/-- What an object says of the rule of a route serves the route. -/
theorem Rule.Of.trafficOf_serves (provider : Provider) {requireSum sole : Bool} {route : Route}
    {rule : Rule} (h : Of requireSum sole route rule) : (provider.trafficOf rule).Serves route where
  pathPrefixes_eq := by
    change rule.path.toList = _
    rw [h.path_eq]
    unfold pathOf
    split <;> rfl
  shares hsome := by
    rcases h.backends_eq with ⟨_, weights, hweights, hbackends⟩ | ⟨hnone, _⟩
    · unfold Provider.trafficOf
      rw [hbackends]
      exact provider.forall₂_sharesOf hweights
    · exact absurd hnone hsome
  placeholder hnone := by
    rcases h.backends_eq with ⟨hsome, _⟩ | ⟨_, _, hbackends⟩
    · exact absurd hnone hsome
    · unfold Provider.trafficOf
      rw [hbackends]
      cases provider <;> rfl

/-- The weights of a route that has a rule can be resolved. -/
theorem Rule.Of.exists_weights {requireSum sole : Bool} {route : Route} {rule : Rule}
    (h : Of requireSum sole route rule) (hsome : route.materialized ≠ []) :
    ∃ weights, resolveWeights route requireSum = .ok weights := by
  rcases h.backends_eq with ⟨_, weights, hweights, _⟩ | ⟨hnone, _⟩
  · exact ⟨weights, hweights⟩
  · exact absurd hnone hsome

/-- The weights of a rule that serves a route are the shares of the materialized destinations. -/
theorem TrafficRule.Serves.map_weight {rule : TrafficRule} {route : Route} (h : rule.Serves route)
    (hsome : route.materialized ≠ []) :
    rule.shares.map Share.weight = route.split.map fun portion => some portion.2 := by
  have hweights : List.Forall₂ (fun portion share => some portion.2 = Share.weight share)
      route.split rule.shares :=
    (h.shares hsome).imp fun _ _ hshare => hshare.weight_eq.symm
  exact (map_eq_map_of_forall₂ hweights).symm

namespace Config

/-- Both renderers write the traffic of the rules of the group, in their order. -/
theorem traffic_objectOf (config : Config) (provider : Provider) (group : HostGroup) :
    Traffic.rules ((config.synthesizerFor provider).objectOf group) =
      group.rules.map provider.trafficOf := by
  cases provider with
  | istio =>
    change (group.rules.map VirtualService.ruleOf).map MeshRule.traffic = _
    rw [List.map_map]
    rfl
  | contour =>
    change (group.rules.map (HttpProxy.routeOf _)).map ProxyRoute.traffic = _
    rw [List.map_map]
    rfl

/-- The rules of the object of a hostname serve the routes of the hostname that have one, in match
order, and the weights of these routes can be resolved. -/
theorem forall₂_traffic (config : Config) (provider : Provider) {routes : List Route}
    {fqdn : String} {group : HostGroup}
    (hgroup : (config.synthesizerFor provider).HasGroup routes fqdn group) :
    List.Forall₂ (fun rule route => rule.Serves route ∧ (route.materialized ≠ [] →
        ∃ weights, resolveWeights route (config.rendererFor provider).requireWeightSum =
          .ok weights))
      (Traffic.rules ((config.synthesizerFor provider).objectOf group))
      (ruledRoutes (routesOf fqdn routes)) := by
  rw [config.traffic_objectOf, ← HostGroup.map_route_rules hgroup, List.forall₂_map_left_iff,
    List.forall₂_map_right_iff, List.forall₂_same]
  intro rule hrule
  have hof := (hgroup.of.rule_mem hrule).2
  exact ⟨hof.trafficOf_serves provider, hof.exists_weights⟩

/-- Whatever the provider, its settings and the labels: the rules of the object of a hostname are,
one by one, those of the routes of the hostname that have a materialized destination, or of the only
route there is, in descending order of URLs and, where these are equal, in ascending order of names;
and these routes, in this order, are the owners of the object. Each rule asks for the path of its
route and gives every materialized destination of the route its service, its share and the headers
that say whom a request is for. -/
theorem rules_serve_routes (config : Config) {routes : List Route} {fqdn : String}
    {object : config.provider.Object}
    (hobject : object ∈ (config.synthesizer.synthesize routes).objectsFor fqdn) :
    ∃ members : List Route,
      members.Perm ((routesOf fqdn routes).filter fun route =>
        route.materialized ≠ [] ∨ (routesOf fqdn routes).length = 1) ∧
      members.Pairwise Route.Precedes ∧
      (Resource.metadata object).ownerReferences = some (members.map Route.ownerReference) ∧
      List.Forall₂ TrafficRule.Serves (Traffic.rules object) members := by
  obtain ⟨group, hgroup, rfl⟩ :=
    (Synthesizer.mem_objectsFor _ _ config.lawful_synthesizer).mp hobject
  refine ⟨ruledRoutes (routesOf fqdn routes), ?_, ?_, ?_, ?_⟩
  · exact (inMatchOrder_perm _).filter _
  · refine ((pairwise_inMatchOrder _).filter _).imp fun {a b} hbefore => ?_
    exact (Route.matchesBefore_iff a b).mp hbefore
  · rw [Synthesizer.metadata_objectOf config.lawful_synthesizer,
      ← HostGroup.map_route_rules hgroup, List.map_map]
    rfl
  · exact (config.forall₂_traffic config.provider hgroup).imp fun _ _ hserved => hserved.1

/-- Four routes of one hostname: two with one URL that say no weights, one whose weighted
destinations stand around one that is not materialized, and one that has no destinations yet. -/
def splitRoutes : List Route :=
  let destination (guid : String) (weight port : Option Int32) : Destination :=
    { guid, weight, port, appGuid := "app-" ++ guid, processType := "web" }
  let route (name path : String) (destinations : List Destination) : Route := {
    metadata := { name := some name, ns := some "apps" }
    host := "web"
    path
    domain := { name := "example.com" }
    destinations }
  [route "c" "" [destination "w" none (some 8080)],
    route "b" "" [
      destination "t" none (some 8080), destination "u" none (some 8080),
      destination "v" none (some 8080)],
    route "a" "/cart" [
      destination "x" (some 70) (some 8080), destination "y" none none,
      destination "z" (some 30) (some 8080)],
    route "d" "/new" []]

/-- The hostname of the sample routes has an object, whose rules say these shares. -/
theorem exists_object_splitRoutes :
    ∃ object ∈ (meshConfig.synthesizer.synthesize splitRoutes).objectsFor "web.example.com",
      (Traffic.rules object).map (fun rule => rule.shares.map Share.weight) =
        [[some 70, some 30], [some 34, some 33, some 33], [some 100]] := by
  have hroutes : routesOf "web.example.com" splitRoutes = splitRoutes := by decide
  have hordered : inMatchOrder splitRoutes = splitRoutes.reverse :=
    (inMatchOrder_eq_of_perm (List.reverse_perm splitRoutes).symm (by decide)).trans
      (List.mergeSort_of_pairwise (by decide))
  have hgroup : ∃ group, meshConfig.synthesizer.HasGroup splitRoutes "web.example.com" group ∧
      (Traffic.rules (meshConfig.synthesizer.objectOf group)).map
        (fun rule => rule.shares.map Share.weight) =
          [[some 70, some 30], [some 34, some 33, some 33], [some 100]] := by
    unfold Synthesizer.HasGroup HostGroup.ofRoutes?
    rw [hroutes, hordered]
    exact ⟨_, rfl, rfl⟩
  obtain ⟨group, hgroup, hshares⟩ := hgroup
  exact ⟨_, (Synthesizer.mem_objectsFor _ _ meshConfig.lawful_synthesizer).mpr
    ⟨group, hgroup, rfl⟩, hshares⟩

/-- The rules of the sample routes are those of the three that have a materialized destination. -/
theorem rules_serve_splitRoutes :
    ∃ object ∈ (meshConfig.synthesizer.synthesize splitRoutes).objectsFor "web.example.com",
      (Traffic.rules object).map (fun rule => rule.shares.map Share.weight) =
        [[some 70, some 30], [some 34, some 33, some 33], [some 100]] ∧
      ∃ members : List Route,
        members.Perm (splitRoutes.take 3) ∧
        members.Pairwise Route.Precedes ∧
        (Resource.metadata object).ownerReferences = some (members.map Route.ownerReference) ∧
        List.Forall₂ TrafficRule.Serves (Traffic.rules object) members := by
  obtain ⟨object, hobject, hweights⟩ := exists_object_splitRoutes
  have hfilter : ((routesOf "web.example.com" splitRoutes).filter fun route =>
      route.materialized ≠ [] ∨ (routesOf "web.example.com" splitRoutes).length = 1) =
        splitRoutes.take 3 := by decide
  obtain ⟨members, hmembers, hserved⟩ := rules_serve_routes meshConfig hobject
  exact ⟨object, hobject, hweights, members, hfilter ▸ hmembers, hserved⟩

end Config

end Ingress
