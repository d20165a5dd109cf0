import Ingress.Proofs.Synthesis.Isolation
import Ingress.Proofs.Synthesis.RuleView

/-!
# The first match is the longest

A router tries the rules of an object in their order and takes the first that accepts a request.
Rules stand in descending order of URLs, and where the URL of every route is its hostname followed
by its path this makes the first match the longest one (`Config.first_match_longest`): two path
beginnings of one request are comparable, and the longer one is the greater.
-/

namespace Ingress

namespace Route

/-- Where URLs are hostname and path, and the paths of two routes both begin one path, the path of
the route that is matched first begins with the path of the other. -/
theorem path_prefix_of_matchesBefore {first second : Route} {fqdn path : String}
    (hfirst : first.fullUrl = fqdn ++ first.path) (hsecond : second.fullUrl = fqdn ++ second.path)
    (hbefore : first.matchesBefore second) (hmatch : first.path.toList <+: path.toList)
    (hmatch' : second.path.toList <+: path.toList) :
    second.path.toList <+: first.path.toList := by
  rcases List.prefix_or_prefix_of_prefix hmatch hmatch' with hshorter | hlonger
  · rcases List.le_iff_lt_or_eq.mp hshorter.le with hlt | heq
    -- A proper extension is greater, so its route would be matched first.
    · have hurls : first.fullUrl < second.fullUrl := by
        rw [hfirst, hsecond, String.lt_iff, String.toList_append, String.toList_append]
        exact List.append_left_lt hlt
      have hcompare : compare second.fullUrl first.fullUrl = .gt :=
        Std.OrientedCmp.gt_of_lt (compareOfLessAndEq_eq_lt.mpr hurls)
      rw [matchesBefore_eq_isLE, hcompare] at hbefore
      cases hbefore
    · exact heq ▸ List.prefix_rfl
  · exact hlonger

/-- The URL of a route is its hostname and path where none was given or just these. -/
theorem fullUrl_eq_of_url {route : Route} {fqdn : String} (hfqdn : route.fqdn = fqdn)
    (hurl : route.url = "" ∨ route.url = fqdn ++ route.path) :
    route.fullUrl = fqdn ++ route.path := by
  unfold fullUrl
  split
  · rw [hfqdn]
  · next hgiven => exact hurl.resolve_left hgiven

end Route

namespace Rule

/-- The path beginning that the rule of a route asks for is the path of the route. -/
theorem pathPrefix_viewOf (provider : Provider) {rule : Rule} (h : rule.path = pathOf rule.route) :
    (provider.viewOf rule).pathPrefix = rule.route.path := by
  unfold RuleView.pathPrefix Provider.viewOf
  rw [h]
  unfold pathOf
  split
  · next hempty => rw [hempty]; rfl
  · rfl

/-- The rule of a route asks for not more than one path beginning. -/
theorem length_pathPrefixes_viewOf (provider : Provider) (rule : Rule) :
    (provider.viewOf rule).pathPrefixes.length ≤ 1 := by
  unfold Provider.viewOf
  cases rule.path <;> simp

/-- The rule of a route accepts what begins with the path of the route. -/
theorem accepts_viewOf (provider : Provider) {rule : Rule} (h : rule.path = pathOf rule.route)
    (path : String) :
    (provider.viewOf rule).accepts path ↔ rule.route.path.toList <+: path.toList := by
  unfold RuleView.accepts Provider.viewOf
  rw [h]
  unfold pathOf
  split
  · next hempty => simp [hempty]
  · simp [String.startsWith_string_iff]

end Rule

namespace HostGroup

/-- Of the rules of a group that accept a path, the first one belongs to the longest path. -/
theorem path_prefix_of_accepts (provider : Provider) {requireSum : Bool} {fqdn : String}
    {routes : List Route} {group : HostGroup}
    (hgroup : ofRoutes? requireSum fqdn routes = .ok (some group))
    (hurls : ∀ route ∈ routes, route.fullUrl = fqdn ++ route.path) {path : String}
    {first other : Rule} {before after : List Rule}
    (hrules : group.rules = before ++ first :: after)
    (hbefore : ∀ rule ∈ before, (provider.viewOf rule).accepts path = false)
    (hfirst : (provider.viewOf first).accepts path) (hother : other ∈ group.rules)
    (haccepts : (provider.viewOf other).accepts path) :
    other.route.path.toList <+: first.route.path.toList := by
  have hordered := pairwise_rules hgroup
  have hmade : ∀ rule ∈ group.rules, rule.route ∈ routes ∧ rule.path = Rule.pathOf rule.route := by
    intro rule hrule
    obtain ⟨hroute, hof⟩ := (of_ofRoutes? hgroup).rule_mem hrule
    exact ⟨hroute, hof.path_eq⟩
  have hfirstMem : first ∈ group.rules := by simp [hrules]
  obtain ⟨hroute, hpath⟩ := hmade first hfirstMem
  obtain ⟨hroute', hpath'⟩ := hmade other hother
  rw [hrules, List.mem_append, List.mem_cons] at hother
  rw [hrules, List.pairwise_append, List.pairwise_cons] at hordered
  rcases hother with hother | rfl | hother
  · rw [hbefore other hother] at haccepts
    cases haccepts
  · exact List.prefix_rfl
  · exact Route.path_prefix_of_matchesBefore (hurls _ hroute) (hurls _ hroute')
      (hordered.2.1.1 other hother) ((Rule.accepts_viewOf provider hpath path).mp hfirst)
      ((Rule.accepts_viewOf provider hpath' path).mp haccepts)

end HostGroup

namespace Config

/-- Whatever the provider and its settings: where the URL of every route of a hostname is not given
or is the hostname and the path of the route, every rule of the object of that hostname asks for
not more than one path beginning, and of the rules that accept a path the first one asks for the
longest beginning, which all the others are beginnings of. -/
theorem first_match_longest (config : Config) {routes : List Route} {fqdn : String}
    (hurls : ∀ route ∈ routesOf fqdn routes,
      route.url = "" ∨ route.url = fqdn ++ route.path)
    {object : config.provider.Object}
    (hobject : object ∈ (config.synthesizer.synthesize routes).objectsFor fqdn) :
    (∀ rule ∈ Ruled.rules object, rule.pathPrefixes.length ≤ 1) ∧
    ∀ (path : String) (first : RuleView),
      (Ruled.rules object).find? (fun rule => rule.accepts path) = some first →
      ∀ rule ∈ Ruled.rules object, rule.accepts path →
        rule.pathPrefix.length ≤ first.pathPrefix.length ∧
          first.pathPrefix.startsWith rule.pathPrefix := by
  obtain ⟨group, hgroup, rfl⟩ :=
    (Synthesizer.mem_objectsFor _ _ config.lawful_synthesizer).mp hobject
  have hfullUrls : ∀ route ∈ routesOf fqdn routes, route.fullUrl = fqdn ++ route.path :=
    fun route hroute =>
      Route.fullUrl_eq_of_url (mem_routesOf.mp hroute).2 (hurls route hroute)
  rw [config.rules_objectOf]
  constructor
  · intro view hview
    obtain ⟨rule, _, rfl⟩ := List.mem_map.mp hview
    exact Rule.length_pathPrefixes_viewOf config.provider rule
  · intro path firstView hfind view hview haccepts
    rw [List.find?_map, Option.map_eq_some_iff] at hfind
    obtain ⟨first, hfind, rfl⟩ := hfind
    obtain ⟨hfirst, before, after, hrules, hbefore⟩ := List.find?_eq_some_iff_append.mp hfind
    obtain ⟨rule, hrule, rfl⟩ := List.mem_map.mp hview
    have hlonger := HostGroup.path_prefix_of_accepts config.provider hgroup hfullUrls hrules
      (fun other hother => by simpa using hbefore other hother) hfirst hrule haccepts
    have hfirstMem : first ∈ group.rules := by simp [hrules]
    rw [Rule.pathPrefix_viewOf _ (hgroup.of.rule_mem hrule).2.path_eq,
      Rule.pathPrefix_viewOf _ (hgroup.of.rule_mem hfirstMem).2.path_eq,
      String.startsWith_string_iff, ← String.length_toList, ← String.length_toList]
    exact ⟨hlonger.length_le, hlonger⟩

/-- Four routes of one hostname, listed from the shortest path to the longest: one for every path,
one whose URL is given, one without it, and one that has no destinations yet. -/
def shopRoutes : List Route :=
  let route (name path url : String) (port : Option Int32) : Route := {
    metadata := { name := some name, ns := some "apps" }
    host := "web"
    path
    url
    domain := { name := "example.com" }
    destinations := [{ guid := name, port, appGuid := "app", processType := "web" }] }
  [route "a" "" "" (some 8080), route "b" "/größe" "web.example.com/größe" (some 8080),
    route "c" "/größe/xl" "" (some 8080), route "d" "/größe/xl/neu" "" none]

/-- The rules of the sample routes, the longest path first. -/
def shopRules : List RuleView :=
  [{ pathPrefixes := ["/größe/xl"], endpoints := [{ service := "s-c", port := some 8080 }] },
    { pathPrefixes := ["/größe"], endpoints := [{ service := "s-b", port := some 8080 }] },
    { pathPrefixes := [], endpoints := [{ service := "s-a", port := some 8080 }] }]

/-- The hostname of the sample routes has an object with these rules. -/
theorem exists_object_shopRoutes :
    ∃ object ∈ (proxyConfig.synthesizer.synthesize shopRoutes).objectsFor "web.example.com",
      Ruled.rules object = shopRules := by
  have hroutes : routesOf "web.example.com" shopRoutes = shopRoutes := by decide
  have hordered : inMatchOrder shopRoutes = shopRoutes.reverse :=
    (inMatchOrder_eq_of_perm (List.reverse_perm shopRoutes).symm (by decide)).trans
      (List.mergeSort_of_pairwise (by decide))
  have hgroup : ∃ group, proxyConfig.synthesizer.HasGroup shopRoutes "web.example.com" group ∧
      group.rules.map proxyConfig.provider.viewOf = shopRules := by
    unfold Synthesizer.HasGroup HostGroup.ofRoutes?
    rw [hroutes, hordered]
    exact ⟨_, rfl, rfl⟩
  obtain ⟨group, hgroup, hrules⟩ := hgroup
  exact ⟨_, (Synthesizer.mem_objectsFor _ _ proxyConfig.lawful_synthesizer).mpr
    ⟨group, hgroup, rfl⟩, (proxyConfig.rules_objectOf group).trans hrules⟩

/-- A request for a path below two of the sample routes is taken by the rule of the longer one. -/
theorem first_match_longest_shopRoutes :
    ∃ object ∈ (proxyConfig.synthesizer.synthesize shopRoutes).objectsFor "web.example.com",
      ∃ first, (Ruled.rules object).find? (fun rule => rule.accepts "/größe/xl/7") = some first ∧
        first.pathPrefix = "/größe/xl" ∧
        ∀ rule ∈ Ruled.rules object, rule.accepts "/größe/xl/7" →
          rule.pathPrefix.length ≤ 9 := by
  obtain ⟨object, hobject, hrules⟩ := exists_object_shopRoutes
  have hfind : (Ruled.rules object).find? (fun rule => rule.accepts "/größe/xl/7") = some {
      pathPrefixes := ["/größe/xl"]
      endpoints := [{ service := "s-c", port := some 8080 }] } := by
    rw [hrules]
    simp [shopRules, RuleView.accepts, String.startsWith_string_iff]
  refine ⟨object, hobject, _, hfind, rfl, fun rule hrule haccepts => ?_⟩
  have hlongest := (first_match_longest proxyConfig (by decide) hobject).2 _ _ hfind rule hrule
    haccepts
  exact hlongest.1

end Config

end Ingress
