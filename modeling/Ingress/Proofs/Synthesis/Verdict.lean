import Ingress.Proofs.Synthesis.Isolation

/-!
# The verdict on a hostname

Every hostname gets one of three: its error, its object, or nothing. Which one is decided by its
routes alone, and `HostGroup.Fails` says when it is an error and which: the first route in the order
given that differs from the first of all fails the hostname in its validation, and otherwise the
first route in match order whose weights are wrong. What does not fail comes to nothing exactly if
there are several routes and no destination is materialized (`Config.synthesize_verdicts`).
-/

namespace Ingress

/-- What a route has against another that it shares its hostname with: first that one domain is
internal and the other is not, else that they lie in different namespaces. -/
inductive Route.Differs (first route : Route) : SynthesisError → Prop where
  /-- One domain is internal and the other is not. -/
  | internal (h : first.domain.internal ≠ route.domain.internal) :
    Differs first route (.internalMismatch first.name route.name)
  /-- They lie in different namespaces. -/
  | ns (hinternal : first.domain.internal = route.domain.internal) (h : first.ns ≠ route.ns) :
    Differs first route (.namespaceMismatch first.name route.name)

/-- The check for agreement fails as the first route does that differs. -/
theorem checkAgreement_eq_error_iff {first : Route} {routes : List Route} {cause : SynthesisError} :
    checkAgreement first routes = .error cause ↔ FirstFault first.Differs routes cause := by
  induction routes with
  | nil => exact iff_of_false nofun not_firstFault_nil
  | cons route rest ih =>
    rw [firstFault_cons_iff, checkAgreement]
    split
    · next hinternal =>
      have hroute : first.Differs route (.internalMismatch first.name route.name) :=
        .internal hinternal
      constructor
      · rintro ⟨⟩
        exact .inl hroute
      · rintro (hdiffers | ⟨hnone, _⟩)
        · cases hdiffers with
          | internal => rfl
          | ns hsame _ => exact absurd hsame hinternal
        · exact absurd hroute (hnone _)
    · next hinternal =>
      rw [not_ne_iff] at hinternal
      split
      · next hns =>
        have hroute : first.Differs route (.namespaceMismatch first.name route.name) :=
          .ns hinternal hns
        constructor
        · rintro ⟨⟩
          exact .inl hroute
        · rintro (hdiffers | ⟨hnone, _⟩)
          · cases hdiffers with
            | internal h => exact absurd hinternal h
            | ns => rfl
          · exact absurd hroute (hnone _)
      · next hns =>
        have hnone : ∀ cause, ¬first.Differs route cause := by
          rintro _ (⟨h⟩ | ⟨_, h⟩)
          · exact h hinternal
          · exact hns h
        rw [ih, or_iff_right (hnone cause), and_iff_right hnone]

namespace HostGroup

/-- What fails the routes of a hostname: the first route in the order given that differs from the
first of all, or, where none does, the first route in match order whose weights are wrong. -/
inductive Fails (requireSum : Bool) : List Route → SynthesisError → Prop where
  /-- A route differs from the first one. -/
  | validation {first : Route} {rest : List Route} {cause : SynthesisError}
    (h : FirstFault first.Differs (first :: rest) cause) : Fails requireSum (first :: rest) cause
  /-- All agree with the first one, and the weights of a route are wrong. -/
  | weights {first : Route} {rest : List Route} {cause : SynthesisError}
    (hagree : ∀ route ∈ first :: rest, first.Agrees route)
    (h : FirstFault (Route.Misweighted requireSum) (inMatchOrder (first :: rest)) cause) :
    Fails requireSum (first :: rest) cause

variable {requireSum : Bool} {fqdn : String} {routes : List Route}

/-- A group fails in its validation, or in the first rule that fails. -/
theorem ofRoutes?_eq_error_iff_steps {cause : SynthesisError} :
    ofRoutes? requireSum fqdn routes = .error cause ↔ validateGroup routes = .error cause ∨
      validateGroup routes = .ok () ∧ (inMatchOrder routes).mapM
        (Rule.ofRoute? requireSum ((inMatchOrder routes).length = 1)) = .error cause := by
  unfold ofRoutes?
  rw [bind_eq_error_iff]
  refine or_congr_right ⟨?_, ?_⟩
  · rintro ⟨⟨⟩, hvalid, h⟩
    rcases bind_eq_error_iff.mp h with hrules | ⟨_, _, hassembled⟩
    · exact ⟨hvalid, hrules⟩
    · split at hassembled <;> cases hassembled
  · rintro ⟨hvalid, hrules⟩
    exact ⟨(), hvalid, bind_eq_error_iff.mpr (.inl hrules)⟩

/-- Routes come to a result where they agree and none is at fault. -/
theorem exists_ofRoutes?_eq_ok_iff :
    (∃ result, ofRoutes? requireSum fqdn routes = .ok result) ↔ validateGroup routes = .ok () ∧
      ∀ route ∈ routes, ∀ cause, Rule.ofRoute? requireSum false route ≠ .error cause := by
  constructor
  · rintro ⟨result, h⟩
    unfold ofRoutes? at h
    obtain ⟨⟨⟩, hvalid, h⟩ := bind_eq_ok_iff.mp h
    obtain ⟨results, hresults, _⟩ := bind_eq_ok_iff.mp h
    refine ⟨hvalid, fun route hroute cause hcause => ?_⟩
    obtain ⟨rule, _, hrule⟩ := exists_of_mem_right (forall₂_of_mapM hresults).flip
      ((inMatchOrder_perm routes).mem_iff.mpr hroute)
    cases hrule.symm.trans (Rule.ofRoute?_eq_error_congr _ hcause)
  · rintro ⟨hvalid, hsound⟩
    cases h : ofRoutes? requireSum fqdn routes with
    | ok result => exact ⟨result, rfl⟩
    | error cause =>
      rcases ofRoutes?_eq_error_iff_steps.mp h with hdiffer | ⟨_, hfault⟩
      · cases hvalid.symm.trans hdiffer
      · obtain ⟨route, hroute, hcause⟩ := exists_of_mapM_eq_error hfault
        exact absurd (Rule.ofRoute?_eq_error_congr false hcause)
          (hsound route ((inMatchOrder_perm routes).mem_iff.mp hroute) cause)

/-- The routes of a hostname come to a fault exactly where something fails them. -/
theorem ofRoutes?_eq_error_iff {cause : SynthesisError}
    (hcount : ∀ route ∈ routes, route.materialized.length ≤ 2147483647) :
    ofRoutes? requireSum fqdn routes = .error cause ↔ Fails requireSum routes cause := by
  have hrules : (inMatchOrder routes).mapM
        (Rule.ofRoute? requireSum ((inMatchOrder routes).length = 1)) = .error cause ↔
      FirstFault (Route.Misweighted requireSum) (inMatchOrder routes) cause := by
    refine mapM_eq_error_iff.trans (firstFault_congr fun route hroute _ => ?_)
    exact Rule.ofRoute?_eq_error_iff (hcount route ((inMatchOrder_perm routes).mem_iff.mp hroute))
  rw [ofRoutes?_eq_error_iff_steps, hrules]
  cases routes with
  | nil =>
    rw [inMatchOrder, List.mergeSort_nil]
    refine iff_of_false ?_ nofun
    rintro (⟨⟨⟩⟩ | ⟨_, h⟩)
    exact not_firstFault_nil h
  | cons first rest =>
    unfold validateGroup
    rw [checkAgreement_eq_error_iff, checkAgreement_eq_ok_iff]
    constructor
    · rintro (hdiffers | ⟨hagree, hweights⟩)
      · exact .validation hdiffers
      · exact .weights hagree hweights
    · intro hfails
      cases hfails with
      | validation hdiffers => exact .inl hdiffers
      | weights hagree hweights => exact .inr ⟨hagree, hweights⟩

/-- Routes that nothing fails come to nothing where there are several and none has a materialized
destination, else to a group. -/
theorem ofRoutes?_eq_ok_none_iff (hsome : routes ≠ [])
    (hcount : ∀ route ∈ routes, route.materialized.length ≤ 2147483647) :
    ofRoutes? requireSum fqdn routes = .ok none ↔ (∀ cause, ¬Fails requireSum routes cause) ∧
      2 ≤ routes.length ∧ ∀ route ∈ routes, route.materialized = [] := by
  have hlength := List.length_pos_iff.mpr hsome
  have hunruled : ruledRoutes routes = [] ↔
      2 ≤ routes.length ∧ ∀ route ∈ routes, route.materialized = [] := by
    simp only [List.eq_nil_iff_forall_not_mem (l := ruledRoutes routes), mem_ruledRoutes, not_and,
      not_or, not_ne_iff]
    constructor
    · intro h
      obtain ⟨route, hroute⟩ := List.exists_mem_of_ne_nil _ hsome
      have hne := (h route hroute).2
      exact ⟨by omega, fun other hother => (h other hother).1⟩
    · rintro ⟨hseveral, hnone⟩ route hroute
      exact ⟨hnone route hroute, by omega⟩
  have hfails : (∀ cause, ¬Fails requireSum routes cause) ↔
      ∀ cause, ofRoutes? requireSum fqdn routes ≠ .error cause :=
    forall_congr' fun _ => not_congr (ofRoutes?_eq_error_iff hcount).symm
  rw [hfails]
  cases houtcome : ofRoutes? requireSum fqdn routes with
  | error cause => exact iff_of_false nofun fun h => h.1 cause rfl
  | ok result =>
    have hresult := isSome_of_ofRoutes? houtcome
    rw [← hunruled, and_iff_right nofun, Except.ok.injEq, ← Option.not_isSome_iff_eq_none, hresult,
      not_ne_iff]

end HostGroup

/-- What a synthesis has for a hostname: its failure alone, its object alone, or neither. -/
def Synthesis.Gives {K : Type} [Resource K] (synthesis : Synthesis K) (fqdn : String) :
    Except SynthesisError (Option K) → Prop
  | .error cause => synthesis.errorsFor fqdn = [⟨fqdn, cause⟩] ∧ synthesis.objectsFor fqdn = []
  | .ok object => synthesis.errorsFor fqdn = [] ∧ synthesis.objectsFor fqdn = object.toList

/-- A synthesis has one thing for a hostname. -/
theorem Synthesis.Gives.unique {K : Type} [Resource K] {synthesis : Synthesis K} {fqdn : String}
    {first second : Except SynthesisError (Option K)} (h : synthesis.Gives fqdn first)
    (h' : synthesis.Gives fqdn second) : first = second := by
  cases first with
  | error cause =>
    cases second with
    | error cause' =>
      have hfailure := List.singleton_inj.mp (h.1.symm.trans h'.1)
      rw [(GroupError.mk.inj hfailure).2]
    | ok object' => exact absurd (h.1.symm.trans h'.1) (List.cons_ne_nil _ _)
  | ok object =>
    cases second with
    | error cause' => exact absurd (h'.1.symm.trans h.1) (List.cons_ne_nil _ _)
    | ok object' =>
      have hobjects : object.toList = object'.toList := h.2.symm.trans h'.2
      have hobject : object = object' := by
        ext a
        rw [← Option.mem_toList, hobjects, Option.mem_toList]
      rw [hobject]

/-- What is left of a list, called after what it was made from, is a part of the list. -/
theorem map_filterMap_eq_map_filter {α β γ : Type} {f : α → Option β} {call : β → γ}
    (name : α → γ) {items : List α} (h : ∀ item result, f item = some result →
      call result = name item) :
    (items.filterMap f).map call = (items.filter fun item => (f item).isSome).map name := by
  induction items with
  | nil => rfl
  | cons item rest ih =>
    cases hitem : f item with
    | none =>
      rw [List.filterMap_cons_none hitem, List.filter_cons_of_neg (by simp [hitem]), ih]
    | some result =>
      rw [List.filterMap_cons_some hitem, List.filter_cons_of_pos (by simp [hitem]), List.map_cons,
        List.map_cons, h item result hitem, ih]

namespace Synthesizer

variable {K : Type} (s : Synthesizer K) (routes : List Route)

/-- Objects carry their hostnames in ascending order. -/
theorem exists_ascending_objects [Managed K] [ManagedView K] (hlawful : s.renderer.Lawful) :
    ∃ fqdns : List String, fqdns.Pairwise (fun a b => compare a b = .lt) ∧
      (s.synthesize routes).objects.map (fun object => Resource.annotation? object fqdnKey) =
        fqdns.map some := by
  rw [objects_synthesize]
  refine ⟨_, (pairwise_hostnames routes).filter _, map_filterMap_eq_map_filter _ ?_⟩
  intro fqdn object hobject
  obtain ⟨group, hgroup, rfl⟩ := objectOfVerdict_eq_some_iff.mp hobject
  rw [annotation?_objectOf hlawful, hgroup.of.fqdn_eq]

/-- Failures name their hostnames in ascending order. -/
theorem pairwise_errors :
    ((s.synthesize routes).errors.map GroupError.fqdn).Pairwise fun a b => compare a b = .lt := by
  rw [errors_synthesize, map_filterMap_eq_map_filter id]
  · rw [List.map_id]
    exact (pairwise_hostnames routes).filter _
  · intro fqdn failure hfailure
    exact (errorOfVerdict_eq_some_iff.mp hfailure).1.symm

/-- A synthesis has for a hostname what its routes come to. -/
theorem gives_synthesize [Managed K] [ManagedView K] (hlawful : s.renderer.Lawful)
    (fqdn : String) :
    (s.synthesize routes).Gives fqdn (s.verdict fqdn (routesOf fqdn routes)) := by
  have herrors := s.errorsFor_eq_toList routes fqdn
  have hobjects := s.objectsFor_eq_toList routes hlawful fqdn
  cases hverdict : s.verdict fqdn (routesOf fqdn routes) <;> rw [hverdict] at herrors hobjects <;>
    exact ⟨herrors, hobjects⟩

/-- The verdict is nothing where the routes come to nothing. -/
theorem verdict_eq_ok_none_iff {s : Synthesizer K} {routes : List Route} {fqdn : String} :
    s.verdict fqdn routes = .ok none ↔
      HostGroup.ofRoutes? s.renderer.requireWeightSum fqdn routes = .ok none := by
  unfold verdict
  cases HostGroup.ofRoutes? s.renderer.requireWeightSum fqdn routes with
  | error _ => simp only [Except.map, reduceCtorEq]
  | ok _ => simp only [Except.map, Except.ok.injEq, Option.map_eq_none_iff]

/-- A hostname does not fail where its routes come to a result. -/
theorem notMem_failedFqdns_iff {s : Synthesizer K} {routes : List Route} {fqdn : String} :
    fqdn ∉ (s.synthesize routes).failedFqdns ↔ ∃ result,
      HostGroup.ofRoutes? s.renderer.requireWeightSum fqdn (routesOf fqdn routes) = .ok result := by
  rw [mem_failedFqdns]
  constructor
  · intro hsound
    cases h : HostGroup.ofRoutes? s.renderer.requireWeightSum fqdn (routesOf fqdn routes) with
    | ok result => exact ⟨result, rfl⟩
    | error cause =>
      have hnone : fqdn ∉ hostnames routes := fun hfqdn => hsound ⟨hfqdn, cause, h⟩
      rw [routesOf_eq_nil hnone, ← verdict_eq_error_iff, verdict_nil] at h
      cases h
  · rintro ⟨result, h⟩ ⟨_, cause, hcause⟩
    cases h.symm.trans hcause

/-- The object of a hostname is that of the group that its routes come to. -/
theorem objectsFor_of_ofRoutes? [Managed K] [ManagedView K] {s : Synthesizer K}
    {routes : List Route} {fqdn : String} (hlawful : s.renderer.Lawful) {result : Option HostGroup}
    (h : HostGroup.ofRoutes? s.renderer.requireWeightSum fqdn (routesOf fqdn routes) =
      .ok result) :
    (s.synthesize routes).objectsFor fqdn = (result.map s.objectOf).toList := by
  rw [s.objectsFor_eq_toList routes hlawful, verdict, h]
  rfl

end Synthesizer

namespace Config

/-- Weights have to sum to a hundred in the mesh. -/
theorem requireWeightSum_synthesizer (config : Config) :
    config.synthesizer.renderer.requireWeightSum = decide (config.provider = .istio) := by
  unfold synthesizer
  cases config.provider <;> rfl

/-- Whatever the provider and its settings, each hostname that some route serves gets exactly one of
three, its error, its object or nothing, and no other hostname gets anything; objects and errors are
in strictly ascending order of hostnames. The error is what fails the routes of the hostname
(`HostGroup.Fails`), and nothing is what they come to exactly where they do not fail, are several,
and have no materialized destination. -/
theorem synthesize_verdicts (config : Config) (routes : List Route)
    (hcount : ∀ route ∈ routes, route.materialized.length ≤ 2147483647) :
    (∃ fqdns : List String, fqdns.Pairwise (fun a b => compare a b = .lt) ∧
      (config.synthesizer.synthesize routes).objects.map
        (fun object => Resource.annotation? object fqdnKey) = fqdns.map some) ∧
    (((config.synthesizer.synthesize routes).errors.map GroupError.fqdn).Pairwise
      fun a b => compare a b = .lt) ∧
    ∀ fqdn,
      ((∀ route ∈ routes, route.fqdn ≠ fqdn) →
        (config.synthesizer.synthesize routes).Gives fqdn (.ok none)) ∧
      ((∃ route ∈ routes, route.fqdn = fqdn) →
        ∃! outcome, (config.synthesizer.synthesize routes).Gives fqdn outcome ∧
          (∀ cause, outcome = .error cause ↔
            HostGroup.Fails (config.provider = .istio) (routesOf fqdn routes) cause) ∧
          (outcome = .ok none ↔
            (∀ cause, ¬HostGroup.Fails (config.provider = .istio) (routesOf fqdn routes) cause) ∧
            2 ≤ (routesOf fqdn routes).length ∧
            ∀ route ∈ routesOf fqdn routes, route.materialized = [])) := by
  have hlawful := config.lawful_synthesizer
  refine ⟨config.synthesizer.exists_ascending_objects routes hlawful,
    config.synthesizer.pairwise_errors routes, fun fqdn => ⟨fun hnone => ?_, ?_⟩⟩
  · have hunserved : fqdn ∉ hostnames routes := by
      rw [mem_hostnames]
      rintro ⟨route, hroute, hfqdn⟩
      exact hnone route hroute hfqdn
    have hgives := config.synthesizer.gives_synthesize routes hlawful fqdn
    rwa [routesOf_eq_nil hunserved, Synthesizer.verdict_nil] at hgives
  · rintro ⟨route, hroute, hfqdn⟩
    have hsome : routesOf fqdn routes ≠ [] :=
      List.ne_nil_of_mem (mem_routesOf.mpr ⟨hroute, hfqdn⟩)
    have hgroup : ∀ route ∈ routesOf fqdn routes, route.materialized.length ≤ 2147483647 :=
      fun route hroute => hcount route (mem_routesOf.mp hroute).1
    have hgives := config.synthesizer.gives_synthesize routes hlawful fqdn
    rw [← config.requireWeightSum_synthesizer]
    refine ⟨_, ⟨hgives, fun cause => ?_, ?_⟩, fun outcome houtcome => houtcome.1.unique hgives⟩
    · rw [Synthesizer.verdict_eq_error_iff, HostGroup.ofRoutes?_eq_error_iff hgroup]
    · rw [Synthesizer.verdict_eq_ok_none_iff, HostGroup.ofRoutes?_eq_ok_none_iff hsome hgroup]

/-- Four routes of one hostname. The third differs from the first in its domain and its namespace,
the fourth in its namespace only. -/
def quarrellingRoutes : List Route := [
  plainRoute "a" "shop" false,
  plainRoute "b" "shop" false,
  { plainRoute "c" "shop" true with metadata := { name := some "c", ns := some "other" } },
  { plainRoute "d" "shop" false with metadata := { name := some "d", ns := some "other" } }]

/-- The third of the routes fails their hostname, for its domain, and no other hostname has
anything. -/
theorem synthesize_quarrellingRoutes :
    (proxyConfig.synthesizer.synthesize quarrellingRoutes).Gives "shop.example.com"
      (.error (.internalMismatch "a" "c")) ∧
    (proxyConfig.synthesizer.synthesize quarrellingRoutes).Gives "web.example.com" (.ok none) := by
  obtain ⟨_, _, hverdicts⟩ := synthesize_verdicts proxyConfig quarrellingRoutes (by decide)
  obtain ⟨outcome, ⟨hgives, hfails, _⟩, _⟩ := (hverdicts "shop.example.com").2 (by decide)
  have hall : routesOf "shop.example.com" quarrellingRoutes = quarrellingRoutes := by decide
  rw [hall] at hfails
  have herror : outcome = .error (.internalMismatch "a" "c") :=
    (hfails _).mpr (.validation (checkAgreement_eq_error_iff.mp (by decide)))
  rw [herror] at hgives
  exact ⟨hgives, (hverdicts "web.example.com").1 (by decide)⟩

end Config

end Ingress
