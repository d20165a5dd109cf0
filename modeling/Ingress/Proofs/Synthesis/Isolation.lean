import Ingress.Proofs.Synthesis.Provider

/-!
# Hostnames do not interfere

The verdict on a hostname is made from its own routes. So what is synthesized for a hostname is
what would be synthesized if its routes were the only ones, however broken the routes of other
hostnames are, and the whole output is put together from the outputs of single hostnames
(`Config.synthesize_isolated`).
-/

namespace Ingress

/-- The objects that carry a hostname. -/
def Synthesis.objectsFor {K : Type} [Resource K] (synthesis : Synthesis K) (fqdn : String) :
    List K :=
  synthesis.objects.filter fun object => Resource.annotation? object fqdnKey = some fqdn

/-- The failures of a hostname. -/
def Synthesis.errorsFor {K : Type} (synthesis : Synthesis K) (fqdn : String) : List GroupError :=
  synthesis.errors.filter fun failure => failure.fqdn = fqdn

/-- Of the routes of a hostname all serve it. -/
theorem routesOf_routesOf (fqdn : String) (routes : List Route) :
    routesOf fqdn (routesOf fqdn routes) = routesOf fqdn routes :=
  List.filter_filter.trans (List.filter_congr fun _ _ => Bool.and_self _)

/-- The routes of a hostname that is served serve no other. -/
theorem hostnames_routesOf {fqdn : String} {routes : List Route} (h : fqdn ∈ hostnames routes) :
    hostnames (routesOf fqdn routes) = [fqdn] := by
  have hmem : ∀ other, other ∈ hostnames (routesOf fqdn routes) ↔ other ∈ [fqdn] := by
    intro other
    rw [mem_hostnames, List.mem_singleton]
    constructor
    · rintro ⟨route, hroute, rfl⟩
      exact (mem_routesOf.mp hroute).2
    · rintro rfl
      obtain ⟨route, hroute, hfqdn⟩ := mem_hostnames.mp h
      exact ⟨route, mem_routesOf.mpr ⟨hroute, hfqdn⟩, hfqdn⟩
  exact List.perm_singleton.mp
    ((List.perm_ext_iff_of_nodup (nodup_hostnames _) (List.nodup_singleton fqdn)).mpr hmem)

/-- Where no route serves a hostname, its routes serve none. -/
theorem hostnames_routesOf_eq_nil {fqdn : String} {routes : List Route}
    (h : fqdn ∉ hostnames routes) : hostnames (routesOf fqdn routes) = [] := by
  rw [routesOf_eq_nil h, List.eq_nil_iff_forall_not_mem]
  intro other hother
  obtain ⟨_, hroute, _⟩ := mem_hostnames.mp hother
  cases hroute

/-- Lists that are empty for every key but one are, all together, the list of that key. -/
theorem flatMap_eq_of_forall_ne {α β : Type} {keys : List α} (hnodup : keys.Nodup)
    {items : α → List β} {key : α} (hkey : key ∈ keys)
    (hothers : ∀ other ∈ keys, other ≠ key → items other = []) :
    keys.flatMap items = items key := by
  obtain ⟨before, after, rfl⟩ := List.append_of_mem hkey
  have hbefore : before.flatMap items = [] := by
    refine List.flatMap_eq_nil_iff.mpr fun other hother => hothers other (by simp [hother]) ?_
    rintro rfl
    exact List.disjoint_of_nodup_append hnodup hother List.mem_cons_self
  have hafter : after.flatMap items = [] := by
    refine List.flatMap_eq_nil_iff.mpr fun other hother => hothers other (by simp [hother]) ?_
    rintro rfl
    exact (List.nodup_cons.mp (List.nodup_append.mp hnodup).2.1).1 hother
  rw [List.flatMap_append, List.flatMap_cons, hbefore, hafter, List.nil_append, List.append_nil]

namespace Synthesizer

variable {K : Type} (s : Synthesizer K) (routes : List Route)

/-- Among the routes of one hostname there is its verdict alone. -/
theorem verdicts_routesOf {fqdn : String} (h : fqdn ∈ hostnames routes) :
    s.verdicts (routesOf fqdn routes) = [(fqdn, s.verdict fqdn (routesOf fqdn routes))] := by
  unfold verdicts
  rw [hostnames_routesOf h, List.map_singleton, routesOf_routesOf]

/-- Where no route serves a hostname there is no verdict on it. -/
theorem verdicts_routesOf_eq_nil {fqdn : String} (h : fqdn ∉ hostnames routes) :
    s.verdicts (routesOf fqdn routes) = [] := by
  unfold verdicts
  rw [hostnames_routesOf_eq_nil h, List.map_nil]

/-- No routes come to nothing. -/
theorem verdict_nil (fqdn : String) : s.verdict fqdn [] = .ok none := by
  unfold verdict HostGroup.ofRoutes? inMatchOrder
  rw [List.mergeSort_nil]
  rfl

/-- What is read off the verdicts among the routes of one hostname is read off its verdict, if
nothing is read off the verdict on no routes. -/
theorem filterMap_verdicts_routesOf {β : Type} (fqdn : String)
    (view : String × Except SynthesisError (Option K) → Option β)
    (hnone : view (fqdn, .ok none) = none) :
    (s.verdicts (routesOf fqdn routes)).filterMap view =
      (view (fqdn, s.verdict fqdn (routesOf fqdn routes))).toList := by
  by_cases hfqdn : fqdn ∈ hostnames routes
  · rw [s.verdicts_routesOf routes hfqdn]
    cases hview : view (fqdn, s.verdict fqdn (routesOf fqdn routes)) with
    | none => exact List.filterMap_cons_none hview
    | some result => exact List.filterMap_cons_some hview
  · rw [s.verdicts_routesOf_eq_nil routes hfqdn, routesOf_eq_nil hfqdn, s.verdict_nil, hnone]
    rfl

/-- All verdicts are the verdicts on one hostname after another. -/
theorem verdicts_eq_flatMap :
    s.verdicts routes =
      (hostnames routes).flatMap fun fqdn => s.verdicts (routesOf fqdn routes) := by
  have hone : ∀ fqdn ∈ hostnames routes, s.verdicts (routesOf fqdn routes) =
      [(fqdn, s.verdict fqdn (routesOf fqdn routes))] :=
    fun fqdn hfqdn => s.verdicts_routesOf routes hfqdn
  rw [List.flatMap_congr hone]
  exact (List.flatMap_pure_eq_map _ _).symm

section Views

variable {β : Type} (view : String × Except SynthesisError (Option K) → Option β)

/-- What is read off the verdicts comes from one hostname after another. -/
theorem filterMap_verdicts_eq_flatMap :
    (s.verdicts routes).filterMap view =
      (hostnames routes).flatMap fun fqdn =>
        (s.verdicts (routesOf fqdn routes)).filterMap view := by
  rw [s.verdicts_eq_flatMap, List.filterMap_flatMap]

/-- What is read off the verdicts and bears a hostname is read off the verdict on it, if all that
is read off a verdict bears its hostname. -/
theorem filter_filterMap_verdicts {bears : β → Bool} {fqdn : String}
    (hbears : ∀ other result, view (other, s.verdict other (routesOf other routes)) = some result →
      (bears result = true ↔ other = fqdn)) :
    ((s.verdicts routes).filterMap view).filter bears =
      (s.verdicts (routesOf fqdn routes)).filterMap view := by
  have hone : ∀ other ∈ hostnames routes, ∀ result ∈
      (s.verdicts (routesOf other routes)).filterMap view,
      (bears result = true ↔ other = fqdn) := by
    intro other hother result hresult
    rw [s.verdicts_routesOf routes hother] at hresult
    obtain ⟨_, hverdict, hview⟩ := List.mem_filterMap.mp hresult
    rw [List.mem_singleton.mp hverdict] at hview
    exact hbears other result hview
  rw [s.filterMap_verdicts_eq_flatMap, List.filter_flatMap]
  by_cases hfqdn : fqdn ∈ hostnames routes
  · rw [flatMap_eq_of_forall_ne (nodup_hostnames routes) hfqdn]
    · exact List.filter_eq_self.mpr fun result hresult => (hone fqdn hfqdn result hresult).mpr rfl
    · intro other hother hne
      exact List.filter_eq_nil_iff.mpr fun result hresult hbear =>
        hne ((hone other hother result hresult).mp hbear)
  · rw [s.verdicts_routesOf_eq_nil routes hfqdn, List.filterMap_nil, List.flatMap_eq_nil_iff]
    intro other hother
    refine List.filter_eq_nil_iff.mpr fun result hresult hbear => hfqdn ?_
    rwa [← (hone other hother result hresult).mp hbear]

end Views

/-- The failures of a hostname are those that its routes alone come to. -/
theorem errorsFor_synthesize (fqdn : String) :
    (s.synthesize routes).errorsFor fqdn = (s.synthesize (routesOf fqdn routes)).errors := by
  refine s.filter_filterMap_verdicts routes errorOfVerdict fun other failure hfailure => ?_
  rw [decide_eq_true_eq, (errorOfVerdict_eq_some_iff.mp hfailure).1]

/-- The failures of a hostname, of which its verdict is one or none. -/
theorem errorsFor_eq_toList (fqdn : String) :
    (s.synthesize routes).errorsFor fqdn =
      (errorOfVerdict (fqdn, s.verdict fqdn (routesOf fqdn routes))).toList := by
  rw [errorsFor_synthesize]
  exact s.filterMap_verdicts_routesOf routes fqdn errorOfVerdict rfl

/-- A hostname has one verdict, so of objects and failures not more than one. -/
theorem length_synthesize_routesOf_le (fqdn : String) :
    (s.synthesize (routesOf fqdn routes)).objects.length +
      (s.synthesize (routesOf fqdn routes)).errors.length ≤ 1 := by
  unfold synthesize
  by_cases hfqdn : fqdn ∈ hostnames routes
  · rw [s.verdicts_routesOf routes hfqdn]
    rcases s.verdict fqdn (routesOf fqdn routes) with cause | object
    · exact le_rfl
    · cases object with
      | none => exact zero_le_one
      | some object => exact le_rfl
  · rw [s.verdicts_routesOf_eq_nil routes hfqdn]
    exact zero_le_one

variable [Managed K] [ManagedView K]

/-- The objects that carry a hostname are those that its routes alone come to. -/
theorem objectsFor_synthesize (hlawful : s.renderer.Lawful) (fqdn : String) :
    (s.synthesize routes).objectsFor fqdn = (s.synthesize (routesOf fqdn routes)).objects := by
  refine s.filter_filterMap_verdicts routes objectOfVerdict fun other object hobject => ?_
  obtain ⟨group, hgroup, rfl⟩ := objectOfVerdict_eq_some_iff.mp hobject
  rw [decide_eq_true_eq, annotation?_objectOf hlawful, hgroup.of.fqdn_eq, Option.some.injEq]

/-- The objects that carry a hostname, of which its verdict is one or none. -/
theorem objectsFor_eq_toList (hlawful : s.renderer.Lawful) (fqdn : String) :
    (s.synthesize routes).objectsFor fqdn =
      (objectOfVerdict (fqdn, s.verdict fqdn (routesOf fqdn routes))).toList := by
  rw [s.objectsFor_synthesize routes hlawful]
  exact s.filterMap_verdicts_routesOf routes fqdn objectOfVerdict rfl

/-- The objects that carry a hostname are those of the group that its routes come to. -/
theorem mem_objectsFor (hlawful : s.renderer.Lawful) {fqdn : String} {object : K} :
    object ∈ (s.synthesize routes).objectsFor fqdn ↔
      ∃ group, s.HasGroup routes fqdn group ∧ s.objectOf group = object := by
  rw [s.objectsFor_eq_toList routes hlawful, Option.mem_toList]
  exact objectOfVerdict_eq_some_iff

end Synthesizer

namespace Config

/-- Whatever the provider and its settings: two lists with the same routes of a hostname come to
the same object of that hostname, if to any, and to the same failure of it, and a hostname has not
more than one of either; and what a list comes to is, in ascending order of hostnames, what the
routes of each hostname come to alone. -/
theorem synthesize_isolated (config : Config) :
    (∀ (fqdn : String) (first second : List Route), routesOf fqdn first = routesOf fqdn second →
      (config.synthesizer.synthesize first).objectsFor fqdn =
          (config.synthesizer.synthesize second).objectsFor fqdn ∧
        (config.synthesizer.synthesize first).errorsFor fqdn =
          (config.synthesizer.synthesize second).errorsFor fqdn) ∧
    ∀ routes : List Route,
      (∀ fqdn, ((config.synthesizer.synthesize routes).objectsFor fqdn).length +
        ((config.synthesizer.synthesize routes).errorsFor fqdn).length ≤ 1) ∧
      (hostnames routes).Pairwise (fun a b => compare a b = .lt) ∧
      (∀ fqdn, fqdn ∈ hostnames routes ↔ ∃ route ∈ routes, route.fqdn = fqdn) ∧
      (config.synthesizer.synthesize routes).objects = ((hostnames routes).flatMap fun fqdn =>
        (config.synthesizer.synthesize (routesOf fqdn routes)).objects) ∧
      (config.synthesizer.synthesize routes).errors = ((hostnames routes).flatMap fun fqdn =>
        (config.synthesizer.synthesize (routesOf fqdn routes)).errors) := by
  have hlawful := config.lawful_synthesizer
  constructor
  · intro fqdn first second hsame
    rw [Synthesizer.objectsFor_synthesize _ _ hlawful,
      Synthesizer.objectsFor_synthesize _ _ hlawful, Synthesizer.errorsFor_synthesize,
      Synthesizer.errorsFor_synthesize, hsame]
    exact ⟨rfl, rfl⟩
  · intro routes
    refine ⟨fun fqdn => ?_, pairwise_hostnames routes, fun fqdn => mem_hostnames, ?_, ?_⟩
    · rw [Synthesizer.objectsFor_synthesize _ _ hlawful, Synthesizer.errorsFor_synthesize]
      exact config.synthesizer.length_synthesize_routesOf_le routes fqdn
    · exact config.synthesizer.filterMap_verdicts_eq_flatMap routes Synthesizer.objectOfVerdict
    · exact config.synthesizer.filterMap_verdicts_eq_flatMap routes Synthesizer.errorOfVerdict

/-- A proxy controller without settings. -/
def proxyConfig : Config where
  provider := .contour

/-- A route of a hostname, without destinations. -/
def plainRoute (name host : String) (internal : Bool) : Route where
  metadata := { name := some name, ns := some "apps" }
  host
  domain := { name := "example.com", internal }

/-- Two routes that disagree about another hostname, on either side of a good route, change nothing
for the hostname of the good one. -/
theorem synthesize_plainRoute_isolated :
    routesOf "web.example.com"
        [plainRoute "a" "shop" false, plainRoute "b" "web" false, plainRoute "c" "shop" true] =
      routesOf "web.example.com" [plainRoute "b" "web" false] ∧
    (proxyConfig.synthesizer.synthesize
        [plainRoute "a" "shop" false, plainRoute "b" "web" false,
          plainRoute "c" "shop" true]).objectsFor "web.example.com" =
      (proxyConfig.synthesizer.synthesize [plainRoute "b" "web" false]).objectsFor
        "web.example.com" := by
  refine ⟨by decide, ?_⟩
  exact ((synthesize_isolated proxyConfig).1 "web.example.com" _ _ (by decide)).1

end Config

end Ingress
