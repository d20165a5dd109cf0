import Ingress.Proofs.Synthesis.Group
import Ingress.Proofs.Synthesis.Provider

/-!
# What a hostname is published through

An ingress object serves one hostname, and who can reach it depends on whether the hostname is
internal. The members of an object are the routes that its rules were made from and that own it.
`VirtualService.Publishes` and `HttpProxy.Publishes` say how each kind of object publishes its
members, and `Config.objects_publish_one_group` that all members belong together: by hostname, by
namespace, and by being internal or not.
-/

namespace Ingress

/-- A rule that was made from a route, whether or not it shares its hostname. -/
def Route.Makes (requireSum : Bool) (route : Route) (rule : Rule) : Prop :=
  ∃ sole, Rule.Of requireSum sole route rule

/-- Routes of a hostname that belong together. -/
structure Together (routes members : List Route) (fqdn : String) (ns : Option String)
    (internal : Bool) : Prop where
  /-- There is a member. -/
  members_ne : members ≠ []
  /-- The members are routes of the hostname. -/
  mem_routes : ∀ member ∈ members, member ∈ routes ∧ member.fqdn = fqdn
  /-- All routes of the hostname lie in the namespace. -/
  ns_eq : ∀ route ∈ routes, route.fqdn = fqdn → route.ns = ns
  /-- All routes of the hostname are internal or none is. -/
  internal_eq : ∀ route ∈ routes, route.fqdn = fqdn → route.domain.internal = internal

/-- How a virtual service publishes its members. -/
structure VirtualService.Publishes (object : VirtualService) (gateways : List String)
    (fqdn : String) (internal : Bool) (members : List Route) : Prop where
  /-- It serves the hostname and no other. -/
  hosts_eq : object.spec.hosts = [fqdn]
  /-- An internal hostname is served inside the mesh and nowhere else. -/
  gateways_eq : object.spec.gateways = if internal then [meshGateway] else gateways
  /-- Each rule was made from a member, in order. -/
  rules : List.Forall₂
    (fun member written => ∃ rule, member.Makes true rule ∧ written = ruleOf rule)
    members object.spec.rules

/-- How a proxy publishes its members. -/
structure HttpProxy.Publishes (object : HttpProxy) (tlsSecretName : Option String)
    (httpsOnly : Bool) (fqdn : String) (internal : Bool) (members : List Route) : Prop where
  /-- It serves the hostname, and terminates TLS for it where a secret is configured and the
  hostname is not internal. -/
  virtualHost_eq : object.spec.virtualHost =
    some { fqdn, tlsSecretName := if internal then none else tlsSecretName }
  /-- Where TLS is terminated, and only there, every rule says whether it serves plain requests. -/
  permitInsecure_eq : ∀ written ∈ object.spec.routes, written.permitInsecure =
    if internal = false ∧ tlsSecretName.isSome then some (!httpsOnly) else none
  /-- Each rule was made from a member, in order. -/
  rules : List.Forall₂
    (fun member written => ∃ rule, member.Makes false rule ∧
      written = routeOf written.permitInsecure rule)
    members object.spec.routes

/-- How an object of a provider publishes its members. -/
def Config.Publishes (config : Config) (fqdn : String) (internal : Bool) (members : List Route) :
    (provider : Provider) → provider.Object → Prop
  | .istio, object =>
    VirtualService.Publishes object config.gateways fqdn internal members
  | .contour, object =>
    HttpProxy.Publishes object config.tlsSecretName config.httpsOnly fqdn internal members

namespace HostGroup

/-- A group has a rule. -/
theorem rules_ne_nil {requireSum : Bool} {fqdn : String} {routes : List Route} {group : HostGroup}
    (h : ofRoutes? requireSum fqdn routes = .ok (some group)) : group.rules ≠ [] := by
  unfold ofRoutes? at h
  obtain ⟨⟨⟩, _, h⟩ := bind_eq_ok_iff.mp h
  obtain ⟨_, _, h⟩ := bind_eq_ok_iff.mp h
  split at h
  · cases h
    exact List.cons_ne_nil _ _
  · cases h

/-- The routes of a group's rules belong together. -/
theorem Of.together {requireSum : Bool} {fqdn : String} {routes : List Route} {group : HostGroup}
    (h : Of requireSum fqdn (routesOf fqdn routes) group) (hne : group.rules ≠ []) :
    Together routes (group.rules.map Rule.route) fqdn group.ns group.internal where
  members_ne := mt List.map_eq_nil_iff.mp hne
  mem_routes member hmember := by
    obtain ⟨rule, hrule, rfl⟩ := List.mem_map.mp hmember
    exact mem_routesOf.mp (h.rule_mem hrule).1
  ns_eq route hroute hfqdn := (h.ns_eq route (mem_routesOf.mpr ⟨hroute, hfqdn⟩)).symm
  internal_eq route hroute hfqdn := (h.internal_eq route (mem_routesOf.mpr ⟨hroute, hfqdn⟩)).symm

/-- Every rule of a group was made from its route, and so was what is written for the rule. -/
theorem Of.forall₂_written {requireSum : Bool} {fqdn : String} {routes : List Route}
    {group : HostGroup} (h : Of requireSum fqdn routes group) {α : Type} (write : Rule → α)
    {writes : Rule → α → Prop} (hwrite : ∀ rule, writes rule (write rule)) :
    List.Forall₂
      (fun member written => ∃ rule, member.Makes requireSum rule ∧ writes rule written)
      (group.rules.map Rule.route) (group.rules.map write) := by
  rw [List.forall₂_map_left_iff, List.forall₂_map_right_iff, List.forall₂_same]
  intro rule hrule
  exact ⟨rule, ⟨_, (h.rule_mem hrule).2⟩, hwrite rule⟩

end HostGroup

namespace Config

/-- Both renderers publish the routes of a group's rules. -/
theorem publishes_render (config : Config) (provider : Provider) {fqdn : String}
    {routes : List Route} {group : HostGroup} (metadata : Metadata)
    (h : HostGroup.Of (config.rendererFor provider).requireWeightSum fqdn routes group) :
    config.Publishes group.fqdn group.internal (group.rules.map Rule.route) provider
      ((config.rendererFor provider).render group metadata) := by
  cases provider with
  | istio =>
    exact {
      hosts_eq := rfl
      gateways_eq := rfl
      rules := h.forall₂_written VirtualService.ruleOf fun _ => rfl }
  | contour =>
    refine { virtualHost_eq := rfl, permitInsecure_eq := ?_, rules := ?_ }
    · intro written hwritten
      obtain ⟨rule, _, rfl⟩ := List.mem_map.mp hwritten
      change (HttpProxy.tlsOf config.tlsSecretName group).map (fun _ => !config.httpsOnly) = _
      unfold HttpProxy.tlsOf
      cases group.internal <;> cases config.tlsSecretName <;> rfl
    · exact h.forall₂_written (HttpProxy.routeOf _) fun _ => rfl

/-- Whatever the provider, its settings and the labels: every synthesized object carries a hostname
and was made from routes of that hostname, which own it and which its rules serve, one by one. All
routes of the hostname lie in the namespace of the object and are internal or not as one, and the
object is published accordingly. -/
theorem objects_publish_one_group (config : Config) {routes : List Route}
    {object : config.provider.Object}
    (hobject : object ∈ (config.synthesizer.synthesize routes).objects) :
    ∃ (fqdn : String) (internal : Bool) (members : List Route),
      Resource.annotation? object fqdnKey = some fqdn ∧
      Together routes members fqdn (Resource.ns object) internal ∧
      (Resource.metadata object).ownerReferences = some (members.map Route.ownerReference) ∧
      config.Publishes fqdn internal members config.provider object := by
  obtain ⟨fqdn, _, group, hgroup, rfl⟩ := Synthesizer.mem_objects.mp hobject
  have hlawful := config.lawful_synthesizer
  have hfqdn := hgroup.of.fqdn_eq
  refine ⟨fqdn, group.internal, group.rules.map Rule.route, ?_, ?_, ?_, ?_⟩
  · rw [Synthesizer.annotation?_objectOf hlawful, hfqdn]
  · rw [Synthesizer.ns_objectOf hlawful]
    exact hgroup.of.together (HostGroup.rules_ne_nil hgroup)
  · rw [Synthesizer.metadata_objectOf hlawful, List.map_map]
    rfl
  · rw [← hfqdn]
    exact config.publishes_render config.provider (config.synthesizer.metadata group) hgroup.of

/-- A mesh controller with a gateway to the outside. -/
def edgeConfig : Config where
  provider := .istio
  gateways := ["edge"]

/-- A route of an internal domain. -/
def vaultRoute : Route where
  metadata := { name := some "vault", ns := some "" }
  host := "vault"
  domain := { name := "apps.internal", internal := true }

/-- The sample route's object lies in the namespace of the empty name, and the gateway to the
outside is not among its gateways. -/
theorem objects_publish_vaultRoute :
    ∃ object ∈ (edgeConfig.synthesizer.synthesize [vaultRoute]).objects,
      Resource.ns object = some "" ∧ (VirtualService.spec object).gateways = ["mesh"] := by
  have hroutes : routesOf "vault.apps.internal" [vaultRoute] = [vaultRoute] := by decide
  have hordered : inMatchOrder [vaultRoute] = [vaultRoute] := List.mergeSort_singleton _
  have hgroup : ∃ group, edgeConfig.synthesizer.HasGroup [vaultRoute] "vault.apps.internal" group
      := by
    unfold Synthesizer.HasGroup HostGroup.ofRoutes?
    rw [hroutes, hordered]
    exact ⟨_, rfl⟩
  obtain ⟨group, hgroup⟩ := hgroup
  have hobject : edgeConfig.synthesizer.objectOf group ∈
      (edgeConfig.synthesizer.synthesize [vaultRoute]).objects :=
    Synthesizer.mem_objects.mpr ⟨_, mem_hostnames.mpr
      ⟨vaultRoute, List.mem_singleton_self _, by decide⟩, group, hgroup, rfl⟩
  obtain ⟨fqdn, internal, _, _, htogether, _, hpublishes⟩ :=
    objects_publish_one_group edgeConfig hobject
  obtain ⟨member, hmember⟩ := List.exists_mem_of_ne_nil _ htogether.members_ne
  obtain ⟨hroute, hserves⟩ := htogether.mem_routes member hmember
  cases List.mem_singleton.mp hroute
  have hns : some "" = Resource.ns _ := htogether.ns_eq vaultRoute hroute hserves
  have hinternal : true = internal := htogether.internal_eq vaultRoute hroute hserves
  subst hinternal
  exact ⟨_, hobject, hns.symm, VirtualService.Publishes.gateways_eq hpublishes⟩

end Config

end Ingress
