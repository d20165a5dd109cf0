import Ingress.Proofs.Store.Prune
import Ingress.Proofs.Synthesis.Group
import Ingress.Synthesis.Synthesizer

/-!
# What is synthesized

Every hostname has one verdict, so an object belongs to one hostname and a hostname that failed
has none. `mem_objects` and `mem_failedFqdns` trace both back to the group of the hostname, and
the lemmas on `objectOf` and on services say what a pass relies on: under which key an object
lies, that it carries the manager's label and its hostname, and that it agrees with itself.
-/

namespace Ingress

/-- A renderer that writes the metadata it is given, and objects that are settled once written. -/
structure Renderer.Lawful {K : Type} [Managed K] [ManagedView K] (r : Renderer K) : Prop where
  /-- The metadata of an object are those it was given. -/
  metadata_render (group : HostGroup) (metadata : Metadata) :
    Resource.metadata (r.render group metadata) = metadata
  /-- An object agrees with itself. -/
  agrees_render (group : HostGroup) (metadata : Metadata) :
    Managed.Agrees (r.render group metadata) (r.render group metadata)

/-- No two hostnames of routes have one digest. -/
def DigestsDistinct (routes : List Route) : Prop :=
  ∀ a ∈ routes, ∀ b ∈ routes, Sha256.hexOfText a.fqdn = Sha256.hexOfText b.fqdn → a.fqdn = b.fqdn

instance (routes : List Route) : Decidable (DigestsDistinct routes) :=
  inferInstanceAs (Decidable (∀ a ∈ routes, ∀ b ∈ routes, _ → _))

/-- The labels of a destination's service that the controller gives it, whatever the template says:
a label that is put in later is another one. -/
theorem Service.getElem?_labelsOf (template : Labels) (route : Route) (destination : Destination) :
    (labelsOf template route destination)[managedByLabel]? = some manager ∧
      (labelsOf template route destination)[appGuidLabel]? = some destination.appGuid ∧
      (labelsOf template route destination)[processTypeLabel]? = some destination.processType ∧
      (labelsOf template route destination)[routeGuidLabel]? = some route.name := by
  have hmanagedApp : compare appGuidLabel managedByLabel ≠ .eq := by decide
  have hmanagedProcess : compare processTypeLabel managedByLabel ≠ .eq := by decide
  have hmanagedRoute : compare routeGuidLabel managedByLabel ≠ .eq := by decide
  have happProcess : compare processTypeLabel appGuidLabel ≠ .eq := by decide
  have happRoute : compare routeGuidLabel appGuidLabel ≠ .eq := by decide
  have hprocessRoute : compare routeGuidLabel processTypeLabel ≠ .eq := by decide
  unfold labelsOf managedLabels
  simp only [Std.ExtTreeMap.getElem?_insert, hmanagedApp, hmanagedProcess, hmanagedRoute,
    happProcess, happRoute, hprocessRoute, Std.ReflCmp.compare_self, if_true, if_false, and_self]

namespace Synthesizer

variable {K : Type} {s : Synthesizer K} {routes : List Route}

/-- Objects of hostnames with different digests have different names. -/
theorem hexOfText_eq_of_objectName_eq {a b : String} (h : s.objectName a = s.objectName b) :
    Sha256.hexOfText a = Sha256.hexOfText b :=
  (String.append_right_inj s.renderer.stem).mp h

/-- Where digests tell hostnames apart, so do the names of their objects. -/
theorem eq_of_objectName_eq (hdigests : DigestsDistinct routes) {a b : String}
    (ha : a ∈ hostnames routes) (hb : b ∈ hostnames routes)
    (h : s.objectName a = s.objectName b) : a = b := by
  obtain ⟨route, hroute, rfl⟩ := mem_hostnames.mp ha
  obtain ⟨other, hother, rfl⟩ := mem_hostnames.mp hb
  exact hdigests route hroute other hother (hexOfText_eq_of_objectName_eq h)

/-- The group that the routes of a hostname come to. -/
def HasGroup (s : Synthesizer K) (routes : List Route) (fqdn : String) (group : HostGroup) :
    Prop :=
  HostGroup.ofRoutes? s.renderer.requireWeightSum fqdn (routesOf fqdn routes) = .ok (some group)

/-- The objects, hostname by hostname. -/
theorem objects_synthesize (s : Synthesizer K) (routes : List Route) :
    (s.synthesize routes).objects = (hostnames routes).filterMap fun fqdn =>
      objectOfVerdict (fqdn, s.verdict fqdn (routesOf fqdn routes)) :=
  List.filterMap_map

/-- The failures, hostname by hostname. -/
theorem errors_synthesize (s : Synthesizer K) (routes : List Route) :
    (s.synthesize routes).errors = (hostnames routes).filterMap fun fqdn =>
      errorOfVerdict (fqdn, s.verdict fqdn (routesOf fqdn routes)) :=
  List.filterMap_map

/-- The object of a hostname's verdict is the object of its group. -/
theorem objectOfVerdict_eq_some_iff {fqdn : String} {object : K} :
    objectOfVerdict (fqdn, s.verdict fqdn (routesOf fqdn routes)) = some object ↔
      ∃ group, s.HasGroup routes fqdn group ∧ s.objectOf group = object := by
  unfold verdict HasGroup
  cases HostGroup.ofRoutes? s.renderer.requireWeightSum fqdn (routesOf fqdn routes) with
  | error cause => simp [objectOfVerdict, Except.map]
  | ok group => simp [objectOfVerdict, Except.map]

/-- The failure of a hostname's verdict is the fault that its routes come to. -/
theorem errorOfVerdict_eq_some_iff {fqdn : String} {failure : GroupError} :
    errorOfVerdict (fqdn, s.verdict fqdn (routesOf fqdn routes)) = some failure ↔
      fqdn = failure.fqdn ∧
        s.verdict failure.fqdn (routesOf failure.fqdn routes) = .error failure.cause := by
  constructor
  · intro h
    cases hverdict : s.verdict fqdn (routesOf fqdn routes) with
    | error cause =>
      rw [hverdict] at h
      cases h
      exact ⟨rfl, hverdict⟩
    | ok object =>
      rw [hverdict] at h
      cases h
  · rintro ⟨rfl, hverdict⟩
    rw [hverdict]
    rfl

/-- A verdict is a fault where the routes come to it. -/
theorem verdict_eq_error_iff {fqdn : String} {cause : SynthesisError} :
    s.verdict fqdn routes = .error cause ↔
      HostGroup.ofRoutes? s.renderer.requireWeightSum fqdn routes = .error cause := by
  unfold verdict
  cases HostGroup.ofRoutes? s.renderer.requireWeightSum fqdn routes with
  | error _ => simp only [Except.map, Except.error.injEq]
  | ok _ => simp only [Except.map, reduceCtorEq]

/-- The objects are those of the groups of hostnames. -/
theorem mem_objects {object : K} :
    object ∈ (s.synthesize routes).objects ↔
      ∃ fqdn ∈ hostnames routes, ∃ group, s.HasGroup routes fqdn group ∧
        s.objectOf group = object := by
  rw [objects_synthesize, List.mem_filterMap]
  simp only [objectOfVerdict_eq_some_iff]

/-- The failures are the verdicts that are faults. -/
theorem mem_errors {failure : GroupError} :
    failure ∈ (s.synthesize routes).errors ↔ failure.fqdn ∈ hostnames routes ∧
      s.verdict failure.fqdn (routesOf failure.fqdn routes) = .error failure.cause := by
  rw [errors_synthesize, List.mem_filterMap]
  simp only [errorOfVerdict_eq_some_iff]
  constructor
  · rintro ⟨fqdn, hfqdn, rfl, hverdict⟩
    exact ⟨hfqdn, hverdict⟩
  · rintro ⟨hfqdn, hverdict⟩
    exact ⟨failure.fqdn, hfqdn, rfl, hverdict⟩

/-- The hostnames that failed are those whose routes come to a fault. -/
theorem mem_failedFqdns {fqdn : String} :
    fqdn ∈ (s.synthesize routes).failedFqdns ↔ fqdn ∈ hostnames routes ∧
      ∃ cause, HostGroup.ofRoutes? s.renderer.requireWeightSum fqdn (routesOf fqdn routes) =
        .error cause := by
  unfold Synthesis.failedFqdns
  simp only [List.mem_map, mem_errors, verdict_eq_error_iff]
  constructor
  · rintro ⟨failure, ⟨hfqdn, hcause⟩, rfl⟩
    exact ⟨hfqdn, failure.cause, hcause⟩
  · rintro ⟨hfqdn, cause, hcause⟩
    exact ⟨⟨fqdn, cause⟩, ⟨hfqdn, hcause⟩, rfl⟩

/-- A hostname that failed has no group. -/
theorem HasGroup.notMem_failedFqdns {fqdn : String} {group : HostGroup}
    (h : s.HasGroup routes fqdn group) : fqdn ∉ (s.synthesize routes).failedFqdns := by
  intro hfailed
  obtain ⟨_, cause, hcause⟩ := mem_failedFqdns.mp hfailed
  unfold HasGroup at h
  rw [hcause] at h
  cases h

/-- The group of a hostname was made from its routes. -/
theorem HasGroup.of {fqdn : String} {group : HostGroup} (h : s.HasGroup routes fqdn group) :
    HostGroup.Of s.renderer.requireWeightSum fqdn (routesOf fqdn routes) group :=
  HostGroup.of_ofRoutes? h

/-- A group lies where some route of its hostname lies. -/
theorem HasGroup.exists_route {fqdn : String} {group : HostGroup}
    (h : s.HasGroup routes fqdn group) :
    ∃ route ∈ routes, route.fqdn = fqdn ∧ group.ns = route.ns := by
  obtain ⟨route, hroute⟩ := List.exists_mem_of_ne_nil _ h.of.routes_ne
  have hof := mem_routesOf.mp hroute
  exact ⟨route, hof.1, hof.2, h.of.ns_eq route hroute⟩

section Objects

variable [Managed K] [ManagedView K] (hlawful : s.renderer.Lawful)
include hlawful

/-- The metadata of a synthesized object. -/
theorem metadata_objectOf (group : HostGroup) :
    Resource.metadata (s.objectOf group) = s.metadata group :=
  hlawful.metadata_render group _

/-- The namespace of a synthesized object is that of its group. -/
theorem ns_objectOf (group : HostGroup) : Resource.ns (s.objectOf group) = group.ns := by
  unfold Resource.ns
  rw [metadata_objectOf hlawful]
  rfl

/-- The name of a synthesized object is that of its hostname. -/
theorem name_objectOf (group : HostGroup) :
    Resource.name (s.objectOf group) = s.objectName group.fqdn := by
  unfold Resource.name
  rw [metadata_objectOf hlawful]
  rfl

/-- The key of a synthesized object. -/
theorem key_objectOf (group : HostGroup) :
    Resource.key (s.objectOf group) = ⟨group.ns.getD "", s.objectName group.fqdn⟩ := by
  unfold Resource.key
  rw [name_objectOf hlawful, metadata_objectOf hlawful]
  rfl

/-- A synthesized object carries the manager's label, whatever the template says. -/
theorem isManaged_objectOf (group : HostGroup) : Resource.IsManaged (s.objectOf group) := by
  unfold Resource.IsManaged Resource.labels
  rw [metadata_objectOf hlawful]
  exact Std.ExtTreeMap.getElem?_insert_self

/-- A synthesized object carries its hostname. -/
theorem annotation?_objectOf (group : HostGroup) :
    Resource.annotation? (s.objectOf group) fqdnKey = some group.fqdn := by
  unfold Resource.annotation?
  rw [metadata_objectOf hlawful]
  change (Std.ExtTreeMap.ofList [(fqdnKey, group.fqdn)])[fqdnKey]? = some group.fqdn
  rw [Std.ExtTreeMap.ofList_singleton, Std.ExtTreeMap.getElem?_insert_self]

/-- A synthesized object agrees with itself. -/
theorem agrees_of_mem_objects {object : K} (h : object ∈ (s.synthesize routes).objects) :
    Managed.Agrees object object := by
  obtain ⟨_, _, group, _, rfl⟩ := mem_objects.mp h
  exact hlawful.agrees_render group _

/-- A synthesized object carries the hostname of a route, which did not fail, is named for it
and lies where the route lies. -/
theorem exists_route_of_mem_objects {object : K} (h : object ∈ (s.synthesize routes).objects) :
    ∃ route ∈ routes, route.fqdn ∉ (s.synthesize routes).failedFqdns ∧
      Resource.annotation? object fqdnKey = some route.fqdn ∧
      Resource.key object = ⟨route.ns.getD "", s.objectName route.fqdn⟩ ∧
      Resource.ns object = route.ns := by
  obtain ⟨_, _, group, hgroup, rfl⟩ := mem_objects.mp h
  obtain ⟨route, hroute, rfl, hns⟩ := hgroup.exists_route
  refine ⟨route, hroute, hgroup.notMem_failedFqdns, ?_, ?_, ?_⟩
  · rw [annotation?_objectOf hlawful, hgroup.of.fqdn_eq]
  · rw [key_objectOf hlawful, hgroup.of.fqdn_eq, hns]
  · rw [ns_objectOf hlawful, hns]

/-- What holds of the namespaces of all routes holds of the namespaces of objects. -/
theorem ns_of_mem_objects {property : Option String → Prop}
    (hroutes : ∀ route ∈ routes, property route.ns) {object : K}
    (h : object ∈ (s.synthesize routes).objects) : property (Resource.ns object) := by
  obtain ⟨route, hroute, _, _, _, hns⟩ := exists_route_of_mem_objects hlawful h
  rw [hns]
  exact hroutes route hroute

/-- Where digests tell hostnames apart, no two synthesized objects have one key. -/
theorem nodup_keys_objects (hdigests : DigestsDistinct routes) :
    ((s.synthesize routes).objects.map Resource.key).Nodup := by
  unfold List.Nodup
  rw [objects_synthesize, List.pairwise_map, List.pairwise_filterMap]
  refine (nodup_hostnames routes).imp_of_mem ?_
  intro a b ha hb hne object hobject other hother hkeys
  obtain ⟨group, hgroup, rfl⟩ := objectOfVerdict_eq_some_iff.mp hobject
  obtain ⟨group', hgroup', rfl⟩ := objectOfVerdict_eq_some_iff.mp hother
  rw [key_objectOf hlawful, key_objectOf hlawful, hgroup.of.fqdn_eq, hgroup'.of.fqdn_eq] at hkeys
  exact hne (eq_of_objectName_eq hdigests ha hb (ObjectKey.mk.inj hkeys).2)

end Objects

section Services

/-- The services of routes are those of the destinations that have a port. -/
theorem mem_services {service : Service} :
    service ∈ s.services routes ↔ ∃ route ∈ routes, ∃ destination ∈ route.destinations,
      ∃ port, destination.port = some port ∧
        Service.ofDestination s.labels route destination port = service := by
  unfold services Route.services
  simp only [List.mem_flatMap, List.mem_filterMap, Option.map_eq_some_iff]

/-- A service carries the manager's label, whatever the template says. -/
theorem isManaged_of_mem_services {service : Service} (h : service ∈ s.services routes) :
    Resource.IsManaged service := by
  obtain ⟨route, _, destination, _, port, _, rfl⟩ := mem_services.mp h
  exact (Service.getElem?_labelsOf s.labels route destination).1

/-- A synthesized service agrees with itself. -/
theorem agrees_of_mem_services {service : Service} (h : service ∈ s.services routes) :
    Managed.Agrees service service := by
  obtain ⟨route, _, destination, _, port, _, rfl⟩ := mem_services.mp h
  exact ⟨rfl, rfl, rfl, _, rfl, rfl, rfl⟩

/-- What holds of the namespaces of all routes holds of the namespaces of services. -/
theorem ns_of_mem_services {property : Option String → Prop}
    (hroutes : ∀ route ∈ routes, property route.ns) {service : Service}
    (h : service ∈ s.services routes) : property (Resource.ns service) := by
  obtain ⟨route, hroute, _, _, _, _, rfl⟩ := mem_services.mp h
  exact hroutes route hroute

end Services

end Synthesizer

end Ingress
