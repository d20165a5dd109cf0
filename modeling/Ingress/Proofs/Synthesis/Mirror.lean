import Ingress.Proofs.Synthesis.Isolation
import Ingress.Proofs.Synthesis.Order
import Ingress.Proofs.Synthesis.Relaxation

/-!
# The two renderers agree

A virtual service and a proxy that were written for the same hostname say the same: they carry the
same metadata but for their names, and rule by rule and backend by backend they ask for the same
paths, services, shares and headers (`VirtualService.Mirrors`). What one renderer writes an object
for, so does the other, and they fail for the same reasons, except that only virtual services need
weights that sum to a hundred (`Config.renderers_agree`).
-/

namespace Ingress

/-- The request headers that every backend sets. -/
def requestHeaderNames : List String :=
  ["CF-App-Id", "CF-Space-Id", "CF-Organization-Id", "CF-App-Process-Type"]

/-- A map and a list that set the same request headers, each of them once. -/
structure SetsSameHeaders (set : Labels) (headers : List Header) : Prop where
  /-- The list sets the request headers of a backend. -/
  names : headers.map Header.name = requestHeaderNames
  /-- What one of them sets the other does. -/
  mem_iff : ∀ header : Header, set[header.name]? = some header.value ↔ header ∈ headers

/-- A destination of a virtual service and a service of a proxy that say the same. -/
inductive MeshDestination.Mirrors : MeshDestination → ProxyService → Prop where
  /-- Both are the placeholder, which has no share of the traffic and sets no headers. -/
  | placeholder : Mirrors { host := placeholderName }
      { name := placeholderName, port := HttpProxy.placeholderPort }
  /-- Both name the same service, give it the same share of the traffic and set the same request
  headers. -/
  | backend {name : String} {port weight : Int32} {share : Int64} {set : Labels}
      {headers : List Header} (hshare : weight.toInt = share.toInt)
      (hheaders : SetsSameHeaders set headers) :
    Mirrors { host := name, weight := some weight, headers := some { request := some { set } } }
      { name, port, weight := some share, requestHeaders := some headers }

/-- A rule of a virtual service and a route of a proxy that say the same. -/
structure MeshRule.Mirrors (rule : MeshRule) (route : ProxyRoute) : Prop where
  /-- They ask for the same path beginnings. -/
  pathPrefixes_eq : rule.pathPrefixes = route.pathPrefixes
  /-- They have the same backends, in the same order. -/
  backends : List.Forall₂ MeshDestination.Mirrors rule.destinations route.services
  /-- If one sends requests to the placeholder, so does the other. -/
  placeholder : rule.destinations = [{ host := placeholderName }] ↔
    route.services = [{ name := placeholderName, port := HttpProxy.placeholderPort }]

/-- A virtual service and a proxy that say the same. -/
structure VirtualService.Mirrors (v : VirtualService) (p : HttpProxy) : Prop where
  /-- They lie in the same namespace. -/
  ns_eq : v.metadata.ns = p.metadata.ns
  /-- They carry the same labels. -/
  labels_eq : v.metadata.labels = p.metadata.labels
  /-- They carry the same annotations. -/
  annotations_eq : v.metadata.annotations = p.metadata.annotations
  /-- They have the same owners. -/
  owners_eq : v.metadata.ownerReferences = p.metadata.ownerReferences
  /-- They serve the same hostname. -/
  hosts_eq : v.spec.hosts = (p.spec.virtualHost.map VirtualHost.fqdn).toList
  /-- They have the same rules, in the same order. -/
  rules : List.Forall₂ MeshRule.Mirrors v.spec.rules p.spec.routes

/-- What becomes of a hostname as a virtual service and as a proxy. -/
structure Synthesis.Agree (mesh : Synthesis VirtualService) (proxy : Synthesis HttpProxy)
    (fqdn : String) : Prop where
  /-- Where there is a virtual service there is a proxy that says the same. -/
  object : ∀ v ∈ mesh.objectsFor fqdn, ∃ p, proxy.objectsFor fqdn = [p] ∧ v.Mirrors p
  /-- Where there is neither a virtual service nor a fault, there is nothing for proxies. -/
  nothing : mesh.objectsFor fqdn = [] → mesh.errorsFor fqdn = [] →
    proxy.objectsFor fqdn = [] ∧ proxy.errorsFor fqdn = []
  /-- A fault other than of a sum is a fault of both. -/
  fault : ∀ failure ∈ mesh.errorsFor fqdn, (∀ route, failure.cause ≠ .weightSum route) →
    proxy.errorsFor fqdn = [failure]
  /-- Where a sum is at fault there is a proxy, or proxies fail for incomplete weights. -/
  sum : ∀ failure ∈ mesh.errorsFor fqdn, ∀ route, failure.cause = .weightSum route →
    (∃ p, proxy.objectsFor fqdn = [p]) ∨
      ∃ other, proxy.errorsFor fqdn = [⟨fqdn, .partialWeights other⟩]

namespace Synthesis.Agree

variable {mesh : Synthesis VirtualService} {proxy : Synthesis HttpProxy} {fqdn : String}

/-- They agree where both have an object and the objects say the same. -/
theorem of_object {v : VirtualService} {p : HttpProxy} (hmesh : mesh.objectsFor fqdn = [v])
    (hfine : mesh.errorsFor fqdn = []) (hproxy : proxy.objectsFor fqdn = [p])
    (hmirrors : v.Mirrors p) : Agree mesh proxy fqdn where
  object w hw := by
    rw [hmesh] at hw
    cases List.mem_singleton.mp hw
    exact ⟨p, hproxy, hmirrors⟩
  nothing hnone := by
    rw [hmesh] at hnone
    cases hnone
  fault := by simp [hfine]
  sum := by simp [hfine]

/-- They agree where neither has anything. -/
theorem of_nothing (hmesh : mesh.objectsFor fqdn = []) (hfine : mesh.errorsFor fqdn = [])
    (hproxy : proxy.objectsFor fqdn = []) (hfine' : proxy.errorsFor fqdn = []) :
    Agree mesh proxy fqdn where
  object := by simp [hmesh]
  nothing _ _ := ⟨hproxy, hfine'⟩
  fault := by simp [hfine]
  sum := by simp [hfine]

/-- They agree where both fail for the same reason, which is not a sum. -/
theorem of_fault {failure : GroupError} (hmesh : mesh.objectsFor fqdn = [])
    (herrors : mesh.errorsFor fqdn = [failure])
    (hcause : ∀ route, failure.cause ≠ .weightSum route)
    (herrors' : proxy.errorsFor fqdn = [failure]) : Agree mesh proxy fqdn where
  object := by simp [hmesh]
  nothing := by simp [herrors]
  fault other hother _ := by
    rw [herrors] at hother
    cases List.mem_singleton.mp hother
    exact herrors'
  sum other hother route hsum := by
    rw [herrors] at hother
    cases List.mem_singleton.mp hother
    exact absurd hsum (hcause route)

/-- They agree where a sum fails the virtual service, if there is a proxy or it fails for incomplete
weights. -/
theorem of_sum {failure : GroupError} {route : String} (hmesh : mesh.objectsFor fqdn = [])
    (herrors : mesh.errorsFor fqdn = [failure]) (hcause : failure.cause = .weightSum route)
    (hproxy : (∃ p, proxy.objectsFor fqdn = [p]) ∨
      ∃ other, proxy.errorsFor fqdn = [⟨fqdn, .partialWeights other⟩]) :
    Agree mesh proxy fqdn where
  object := by simp [hmesh]
  nothing := by simp [herrors]
  fault other hother hne := by
    rw [herrors] at hother
    cases List.mem_singleton.mp hother
    exact absurd hcause (hne route)
  sum _ _ _ _ := hproxy

end Synthesis.Agree

/-- A map made from a list of headers with different names sets what the list sets. -/
theorem getElem?_ofList_headers {headers : List Header}
    (hnames : (headers.map Header.name).Nodup) (header : Header) :
    (Std.ExtTreeMap.ofList (headers.map fun h => (h.name, h.value)) : Labels)[header.name]? =
      some header.value ↔ header ∈ headers := by
  have hdistinct : (headers.map fun h => (h.name, h.value)).Pairwise
      fun a b => ¬ compare a.1 b.1 = .eq := by
    rw [List.pairwise_map]
    exact (List.pairwise_map.mp hnames).imp fun hne heq => hne (Std.LawfulEqCmp.eq_of_compare heq)
  have hset : ∀ h ∈ headers, (Std.ExtTreeMap.ofList
      (headers.map fun h => (h.name, h.value)) : Labels)[h.name]? = some h.value := fun h hmem =>
    Std.ExtTreeMap.getElem?_ofList_of_mem Std.ReflCmp.compare_self hdistinct
      (List.mem_map.mpr ⟨h, hmem, rfl⟩)
  refine ⟨fun hfound => ?_, hset header⟩
  have hkey : header.name ∈
      (Std.ExtTreeMap.ofList (headers.map fun h => (h.name, h.value)) : Labels) :=
    Std.ExtTreeMap.mem_iff_isSome_getElem?.mpr (by rw [hfound]; rfl)
  rw [Std.ExtTreeMap.mem_ofList, List.contains_iff_mem, List.map_map, List.mem_map] at hkey
  obtain ⟨other, hother, hname⟩ := hkey
  have hname : other.name = header.name := hname
  have hvalue : some header.value = some other.value := by
    rw [← hfound, ← hset other hother, hname]
  have hsame : other = header := by
    cases other
    cases header
    cases hname
    cases hvalue
    rfl
  exact hsame ▸ hother

/-- The destination and the service of a backend say the same. -/
theorem Backend.mirrors (route : Route) (destination : Destination) (weight : Int32) :
    (VirtualService.destinationOf (ofDestination route destination weight)).Mirrors
      (HttpProxy.serviceOf (ofDestination route destination weight)) := by
  have hdistinct : ((backendHeaders route destination).map Header.name).Nodup := by
    change requestHeaderNames.Nodup
    decide
  have hheaders : SetsSameHeaders (Std.ExtTreeMap.ofList
      ((backendHeaders route destination).map fun header => (header.name, header.value)))
      (backendHeaders route destination) := ⟨rfl, getElem?_ofList_headers hdistinct⟩
  exact .backend (Int32.toInt_toInt64 weight).symm hheaders

/-- Only the placeholder is a destination without a weight. -/
theorem VirtualService.destinationsOf_eq_placeholder_iff {backends : Backends} :
    destinationsOf backends = [{ host := placeholderName }] ↔ backends = .placeholder := by
  cases backends with
  | placeholder => exact iff_of_true rfl rfl
  | weighted backends =>
    refine iff_of_false (fun heq => ?_) nofun
    obtain ⟨_, _, _, hhead, _⟩ := List.map_eq_cons_iff.mp heq
    cases congrArg MeshDestination.weight hhead

/-- Only the placeholder is a service without a weight. -/
theorem HttpProxy.servicesOf_eq_placeholder_iff {backends : Backends} :
    servicesOf backends = [{ name := placeholderName, port := placeholderPort }] ↔
      backends = .placeholder := by
  cases backends with
  | placeholder => exact iff_of_true rfl rfl
  | weighted backends =>
    refine iff_of_false (fun heq => ?_) nofun
    obtain ⟨_, _, _, hhead, _⟩ := List.map_eq_cons_iff.mp heq
    cases congrArg ProxyService.weight hhead

namespace Rule

/-- Both renderers say the same of a rule. -/
theorem Of.mirrors {requireSum sole : Bool} {route : Route} {rule : Rule}
    (h : Of requireSum sole route rule) (permitInsecure : Option Bool) :
    (VirtualService.ruleOf rule).Mirrors (HttpProxy.routeOf permitInsecure rule) where
  pathPrefixes_eq := rfl
  backends := by
    change List.Forall₂ _ (VirtualService.destinationsOf rule.backends)
      (HttpProxy.servicesOf rule.backends)
    cases hbackends : rule.backends with
    | placeholder => exact .cons .placeholder .nil
    | weighted backends =>
      unfold VirtualService.destinationsOf HttpProxy.servicesOf
      dsimp only
      rw [List.forall₂_map_left_iff, List.forall₂_map_right_iff, List.forall₂_same]
      intro backend hbackend
      obtain ⟨destination, _, weight, rfl⟩ := h.exists_of_mem hbackends hbackend
      exact Backend.mirrors route destination weight
  placeholder := VirtualService.destinationsOf_eq_placeholder_iff.trans
    HttpProxy.servicesOf_eq_placeholder_iff.symm

end Rule

namespace Config

/-- The synthesizer of a provider with the settings and labels of a configuration. -/
def synthesizerFor (config : Config) (provider : Provider) : Synthesizer provider.Object where
  renderer := config.rendererFor provider
  labels := config.labels

/-- Both renderers say the same of a group. -/
theorem mirrors_objectOf (config : Config) {requireSum : Bool} {fqdn : String}
    {routes : List Route} {group : HostGroup}
    (h : HostGroup.Of requireSum fqdn routes group) :
    VirtualService.Mirrors ((config.synthesizerFor .istio).objectOf group)
      ((config.synthesizerFor .contour).objectOf group) where
  ns_eq := rfl
  labels_eq := rfl
  annotations_eq := rfl
  owners_eq := rfl
  hosts_eq := rfl
  rules := by
    change List.Forall₂ _ (group.rules.map VirtualService.ruleOf)
      (group.rules.map (HttpProxy.routeOf _))
    rw [List.forall₂_map_left_iff, List.forall₂_map_right_iff, List.forall₂_same]
    intro rule hrule
    exact (h.rule_mem hrule).2.mirrors _

/-- What a provider has for a hostname, by what the routes of the hostname come to. -/
theorem outputsFor_eq (config : Config) (provider : Provider) {routes : List Route} {fqdn : String}
    {outcome : Except SynthesisError (Option HostGroup)}
    (h : HostGroup.ofRoutes? (config.rendererFor provider).requireWeightSum fqdn
      (routesOf fqdn routes) = outcome) :
    ((config.synthesizerFor provider).synthesize routes).objectsFor fqdn =
        (Synthesizer.objectOfVerdict
          (fqdn, outcome.map (Option.map (config.synthesizerFor provider).objectOf))).toList ∧
      ((config.synthesizerFor provider).synthesize routes).errorsFor fqdn =
        (Synthesizer.errorOfVerdict
          (fqdn, outcome.map (Option.map (config.synthesizerFor provider).objectOf))).toList := by
  subst h
  exact ⟨Synthesizer.objectsFor_eq_toList _ _ (config.lawful_rendererFor provider) _,
    Synthesizer.errorsFor_eq_toList _ _ _⟩

/-- Whatever the settings and labels, and whatever the routes, as long as 32 bits can count the
materialized destinations of each: both renderers agree about every hostname. -/
theorem renderers_agree (config : Config) {routes : List Route}
    (hcount : ∀ route ∈ routes, route.materialized.length ≤ 2147483647) (fqdn : String) :
    Synthesis.Agree ((config.synthesizerFor .istio).synthesize routes)
      ((config.synthesizerFor .contour).synthesize routes) fqdn := by
  have hcountOf : ∀ route ∈ routesOf fqdn routes, route.materialized.length ≤ 2147483647 :=
    fun route hroute => hcount route (mem_routesOf.mp hroute).1
  have hrelaxes := HostGroup.relaxes_ofRoutes? fqdn hcountOf
  generalize hstrict : HostGroup.ofRoutes? true fqdn (routesOf fqdn routes) = strict at hrelaxes
  generalize hlax : HostGroup.ofRoutes? false fqdn (routesOf fqdn routes) = lax at hrelaxes
  obtain ⟨hobjects, herrors⟩ := config.outputsFor_eq .istio hstrict
  obtain ⟨hobjects', herrors'⟩ := config.outputsFor_eq .contour hlax
  cases hrelaxes with
  | same hne =>
    match strict with
    | .ok (some group) =>
      have hmirrors := config.mirrors_objectOf (HostGroup.of_ofRoutes? hstrict)
      exact .of_object hobjects herrors hobjects' hmirrors
    | .ok none => exact .of_nothing hobjects herrors hobjects' herrors'
    | .error cause =>
      have hcause : ∀ route, cause ≠ .weightSum route := by
        rintro route rfl
        exact hne route rfl
      exact .of_fault hobjects herrors hcause herrors'
  | sum hlenient =>
    refine .of_sum hobjects herrors rfl ?_
    rcases hlenient with ⟨group, rfl, hgroup⟩ | ⟨other, rfl⟩
    · obtain ⟨group, rfl⟩ := Option.isSome_iff_exists.mp hgroup
      exact .inl ⟨_, hobjects'⟩
    · exact .inr ⟨other, herrors'⟩

/-- The sample routes of one hostname come to a virtual service and a proxy that say the same; the
weights of the other hostname are off as a virtual service, which no proxy minds. -/
theorem renderers_agree_tiedRoutes :
    let mesh := (meshConfig.synthesizerFor .istio).synthesize tiedRoutes
    let proxy := (meshConfig.synthesizerFor .contour).synthesize tiedRoutes
    (∃ v p, mesh.objectsFor "shop.example.com" = [v] ∧ proxy.objectsFor "shop.example.com" = [p] ∧
      VirtualService.Mirrors v p) ∧
    mesh.errorsFor "web.example.com" = [⟨"web.example.com", .weightSum "b"⟩] ∧
    ((∃ p, proxy.objectsFor "web.example.com" = [p]) ∨
      ∃ other, proxy.errorsFor "web.example.com" =
        [⟨"web.example.com", .partialWeights other⟩]) := by
  intro mesh proxy
  have hcount : ∀ route ∈ tiedRoutes, route.materialized.length ≤ 2147483647 := by decide
  have hshop : ∃ group, HostGroup.ofRoutes? true "shop.example.com"
      (routesOf "shop.example.com" tiedRoutes) = .ok (some group) := by
    have hroutes : routesOf "shop.example.com" tiedRoutes = tiedRoutes.drop 3 := by decide
    have hordered : inMatchOrder (tiedRoutes.drop 3) = tiedRoutes.drop 3 :=
      List.mergeSort_singleton _
    unfold HostGroup.ofRoutes?
    rw [hroutes, hordered]
    exact ⟨_, rfl⟩
  obtain ⟨group, hgroup⟩ := hshop
  have hobjects : mesh.objectsFor "shop.example.com" =
      [(meshConfig.synthesizerFor .istio).objectOf group] :=
    (meshConfig.outputsFor_eq .istio hgroup).1
  have hweb := Synthesizer.verdict_eq_error_iff.mp
    (Synthesizer.mem_errors.mp mem_errors_tiedRoutes).2
  have herrors : mesh.errorsFor "web.example.com" = [⟨"web.example.com", .weightSum "b"⟩] :=
    (meshConfig.outputsFor_eq .istio hweb).2
  obtain ⟨p, hproxy, hmirrors⟩ := (renderers_agree meshConfig hcount "shop.example.com").object _
    (hobjects.symm ▸ List.mem_singleton_self _)
  refine ⟨⟨_, p, hobjects, hproxy, hmirrors⟩, herrors, ?_⟩
  exact (renderers_agree meshConfig hcount "web.example.com").sum _
    (herrors.symm ▸ List.mem_singleton_self _) "b" rfl

end Config

end Ingress
