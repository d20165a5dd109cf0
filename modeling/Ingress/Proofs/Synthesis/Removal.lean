import Ingress.Proofs.Synthesis.Exposure
import Ingress.Proofs.Synthesis.Traffic
import Ingress.Proofs.Synthesis.Verdict

/-!
# A route is taken off the list

The routes that stay are matched in the order in which they were matched before, and none of them
gets another rule, unless the only one that a hostname has left needs the placeholder. So the object
of the hostname loses the rule of the route and the route as an owner, and nothing else changes
(`Config.synthesize_without_route`).
-/

namespace Ingress

/-- An item stands where its name stands, if no other item of the list has that name. -/
theorem idxOf_map_eq {α β : Type} [DecidableEq α] [DecidableEq β] {name : α → β} {items : List α}
    {item : α} (h : ∀ other ∈ items, name other = name item → other = item) :
    (items.map name).idxOf (name item) = items.idxOf item := by
  induction items with
  | nil => rfl
  | cons head rest ih =>
    rw [List.forall_mem_cons] at h
    rw [List.map_cons, List.idxOf_cons, List.idxOf_cons, ih h.2]
    by_cases hhead : head = item
    · rw [hhead, beq_self_eq_true, beq_self_eq_true]
    · rw [beq_false_of_ne hhead, beq_false_of_ne (mt h.1 hhead)]

section Without

variable {before after : List Route} {route : Route}

/-- A route that stays was on the list. -/
theorem mem_of_mem_without (route : Route) {other : Route} (h : other ∈ before ++ after) :
    other ∈ before ++ route :: after :=
  ((List.sublist_cons_self route after).append_left before).subset h

/-- A route of the list that is not taken away stays. -/
theorem mem_without {other : Route} (h : other ∈ before ++ route :: after) (hne : other ≠ route) :
    other ∈ before ++ after := by
  rw [List.mem_append, List.mem_cons] at h
  rw [List.mem_append]
  exact h.imp_right fun hother => hother.resolve_left hne

/-- A route that stays has materialized destinations, or is not alone now and was not before. -/
theorem materialized_or_sole_eq (route : Route)
    (hrest : ∀ other, before ++ after = [other] → other.materialized ≠ []) {other : Route}
    (hother : other ∈ before ++ after) :
    other.materialized ≠ [] ∨
      decide ((before ++ after).length = 1) = decide ((before ++ route :: after).length = 1) := by
  by_cases hsole : (before ++ after).length = 1
  · obtain ⟨only, honly⟩ := List.length_eq_one_iff.mp hsole
    rw [honly, List.mem_singleton] at hother
    exact .inl (hother ▸ hrest only honly)
  · have hpos := List.length_pos_of_mem hother
    have hlength : (before ++ route :: after).length = (before ++ after).length + 1 :=
      List.perm_middle.length_eq
    exact .inr (decide_eq_decide.mpr (by omega))

variable (hnames : ((before ++ route :: after).map Route.name).Nodup)
include hnames

/-- Where names tell routes apart, the routes that stay are matched in the order in which they were
matched before. -/
theorem inMatchOrder_without :
    inMatchOrder (before ++ after) = (inMatchOrder (before ++ route :: after)).erase route := by
  have hperm : ((inMatchOrder (before ++ route :: after)).erase route).Perm (before ++ after) := by
    have herased := ((inMatchOrder_perm (before ++ route :: after)).trans
      List.perm_middle).erase route
    rwa [List.erase_cons_head] at herased
  -- Both have the same routes in match order, in which names leave no choice.
  refine ((inMatchOrder_perm _).trans hperm.symm).eq_of_pairwise ?_ (pairwise_inMatchOrder _)
    ((pairwise_inMatchOrder _).sublist List.erase_sublist)
  intro a b ha hb hab hba
  have ha' := mem_of_mem_without route ((inMatchOrder_perm _).mem_iff.mp ha)
  have hb' := mem_of_mem_without route (hperm.mem_iff.mp hb)
  exact List.inj_on_of_nodup_map hnames ha' hb' (Route.name_eq_of_matchesBefore hab hba)

variable (hrest : ∀ other, before ++ after = [other] → other.materialized ≠ [])
include hrest

/-- The routes that stay have a rule if they had one before. -/
theorem ruledRoutes_without :
    ruledRoutes (before ++ after) = (ruledRoutes (before ++ route :: after)).erase route := by
  have hordered : (inMatchOrder (before ++ route :: after)).Nodup :=
    (inMatchOrder_perm _).nodup_iff.mpr (List.Nodup.of_map _ hnames)
  unfold ruledRoutes
  rw [inMatchOrder_without hnames, hordered.erase_eq_filter, (hordered.filter _).erase_eq_filter,
    List.filter_filter, List.filter_filter]
  refine List.filter_congr fun other hother => ?_
  by_cases hsame : other = route
  · rw [hsame, bne_self_eq_false, Bool.and_false, Bool.false_and]
  · have hstays := mem_without ((inMatchOrder_perm _).mem_iff.mp hother) hsame
    rw [bne_iff_ne.mpr hsame, Bool.and_true, Bool.true_and]
    rcases materialized_or_sole_eq route hrest hstays with hsome | hsole
    · rw [decide_eq_true (.inl hsome), decide_eq_true (.inl hsome)]
    · rw [Bool.decide_or, Bool.decide_or, hsole]

end Without

namespace HostGroup

/-- A group without the rule at a place. -/
def eraseRule (i : Nat) (group : HostGroup) : HostGroup :=
  { group with rules := group.rules.eraseIdx i }

variable {requireSum : Bool} {fqdn : String} {before after : List Route} {route : Route}

/-- Routes that do not fail do not fail without one of them. -/
theorem exists_ofRoutes?_without
    (h : ∃ result, ofRoutes? requireSum fqdn (before ++ route :: after) = .ok result) :
    ∃ result, ofRoutes? requireSum fqdn (before ++ after) = .ok result := by
  obtain ⟨hvalid, hsound⟩ := exists_ofRoutes?_eq_ok_iff.mp h
  have hagree := validateGroup_eq_ok_iff.mp hvalid
  refine exists_ofRoutes?_eq_ok_iff.mpr ⟨validateGroup_eq_ok_iff.mpr fun a ha b hb => ?_, ?_⟩
  · exact hagree a (mem_of_mem_without route ha) b (mem_of_mem_without route hb)
  · exact fun other hother => hsound other (mem_of_mem_without route hother)

variable (hnames : ((before ++ route :: after).map Route.name).Nodup)
  (hrest : ∀ other, before ++ after = [other] → other.materialized ≠ [])
include hnames hrest

/-- The group of the routes that stay is the group that was there before, without one rule. -/
theorem eq_eraseRule {group group' : HostGroup}
    (h : ofRoutes? requireSum fqdn (before ++ route :: after) = .ok (some group))
    (h' : ofRoutes? requireSum fqdn (before ++ after) = .ok (some group')) :
    group' = group.eraseRule ((ruledRoutes (before ++ route :: after)).idxOf route) := by
  have hof := of_ofRoutes? h
  have hof' := of_ofRoutes? h'
  have hrules : List.Forall₂ (fun other rule => Rule.ofRoute? requireSum
      ((before ++ route :: after).length = 1) other = .ok (some rule))
      (ruledRoutes (before ++ after))
      (group.rules.eraseIdx ((ruledRoutes (before ++ route :: after)).idxOf route)) := by
    rw [ruledRoutes_without hnames hrest, ← List.eraseIdx_idxOf_eq_erase]
    exact forall₂_eraseIdx (forall₂_rules h) _
  have hrules' : List.Forall₂ (fun other rule => Rule.ofRoute? requireSum
      ((before ++ route :: after).length = 1) other = .ok (some rule))
      (ruledRoutes (before ++ after)) group'.rules := by
    have hstay : ∀ other ∈ ruledRoutes (before ++ after), other ∈ before ++ after :=
      fun other hother => (mem_ruledRoutes.mp hother).1
    refine ((List.forall₂_and_left _ _).mpr ⟨hstay, forall₂_rules h'⟩).imp ?_
    rintro other rule ⟨hother, hrule⟩
    rwa [← Rule.ofRoute?_congr (materialized_or_sole_eq route hrest hother)]
  have hsame : group'.rules =
      group.rules.eraseIdx ((ruledRoutes (before ++ route :: after)).idxOf route) := by
    refine List.right_unique_forall₂' (fun other rule rule' hrule hrule' => ?_) hrules' hrules
    cases hrule.symm.trans hrule'
    rfl
  -- Namespace and domain are those of any route that stays, which was among the routes before.
  obtain ⟨other, hother⟩ := List.exists_mem_of_ne_nil _ hof'.routes_ne
  have hlisted := mem_of_mem_without route hother
  calc group' = ⟨group'.fqdn, group'.ns, group'.internal, group'.rules⟩ := rfl
    _ = _ := by
      rw [hsame, hof'.fqdn_eq, hof'.ns_eq other hother, hof'.internal_eq other hother,
        ← hof.fqdn_eq, ← hof.ns_eq other hlisted, ← hof.internal_eq other hlisted]
      rfl

/-- The routes that stay come to the group that was there before, without one rule, and to none
where that was the only rule. -/
theorem ofRoutes?_without {result : Option HostGroup}
    (h : ofRoutes? requireSum fqdn (before ++ route :: after) = .ok result) :
    ofRoutes? requireSum fqdn (before ++ after) =
      .ok ((result.map (eraseRule ((ruledRoutes (before ++ route :: after)).idxOf route))).filter
        fun group => group.rules ≠ []) := by
  obtain ⟨result', h'⟩ := exists_ofRoutes?_without ⟨result, h⟩
  have hruled := ruledRoutes_without hnames hrest
  rw [h']
  refine congrArg Except.ok ?_
  cases result with
  | none =>
    rw [ruledRoutes_eq_nil h, List.erase_nil] at hruled
    cases result' with
    | none => rfl
    | some group' => exact absurd hruled ((isSome_of_ofRoutes? h').mp rfl)
  | some group =>
    have hroutes := map_route_rules h
    have herased : ((group.eraseRule
        ((ruledRoutes (before ++ route :: after)).idxOf route)).rules).map Rule.route =
          ruledRoutes (before ++ after) := by
      rw [hruled, ← List.eraseIdx_idxOf_eq_erase, ← hroutes]
      exact (List.eraseIdx_map _ _ _).symm
    cases result' with
    | none =>
      rw [ruledRoutes_eq_nil h', List.map_eq_nil_iff] at herased
      rw [Option.map_some, Option.filter_some, if_neg (by simp [herased])]
    | some group' =>
      have hsome : group'.rules ≠ [] := rules_ne_nil h'
      rw [eq_eraseRule hnames hrest h h'] at hsome ⊢
      rw [Option.map_some, Option.filter_some, if_pos (decide_eq_true hsome)]

end HostGroup

/-- Metadata without the owner at a place. -/
def Metadata.eraseOwner (i : Nat) (m : Metadata) : Metadata :=
  { m with ownerReferences := m.ownerReferences.map fun owners => owners.eraseIdx i }

/-- A virtual service without the rule and the owner at a place. -/
def VirtualService.eraseRule (i : Nat) (object : VirtualService) : VirtualService where
  metadata := object.metadata.eraseOwner i
  spec := { object.spec with rules := object.spec.rules.eraseIdx i }

/-- A proxy without the rule and the owner at a place. -/
def HttpProxy.eraseRule (i : Nat) (object : HttpProxy) : HttpProxy where
  metadata := object.metadata.eraseOwner i
  spec := { object.spec with routes := object.spec.routes.eraseIdx i }

/-- An ingress object without the rule and the owner at a place. -/
def Provider.eraseRule (i : Nat) : (provider : Provider) → provider.Object → provider.Object
  | .istio => VirtualService.eraseRule i
  | .contour => HttpProxy.eraseRule i

/-- What an object does with traffic loses the rule at the place. -/
theorem Provider.rules_eraseRule (provider : Provider) (i : Nat) (object : provider.Object) :
    Traffic.rules (provider.eraseRule i object) = (Traffic.rules object).eraseIdx i := by
  cases provider with
  | istio => exact (List.eraseIdx_map _ _ _).symm
  | contour => exact (List.eraseIdx_map _ _ _).symm

/-- Where a route stands among the owners of an object; behind all of them if it is none. -/
def Route.placeIn {K : Type} [Resource K] (route : Route) (object : K) : Nat :=
  ((Resource.metadata object).ownerReferences.getD []).idxOf route.ownerReference

/-- An ingress object without the rule of a route and without the route as an owner. -/
def Provider.without (provider : Provider) (route : Route) (object : provider.Object) :
    provider.Object :=
  provider.eraseRule (route.placeIn object) object

/-- An object that a route owns, with the rule of the route at the same place. -/
structure Route.RuledIn {K : Type} [Resource K] [Traffic K] (route : Route) (object : K) : Prop
    where
  /-- The route is an owner. -/
  owner : ((Resource.metadata object).ownerReferences.getD [])[route.placeIn object]? =
    some route.ownerReference
  /-- The rule at its place serves it. -/
  serves : ∃ rule, (Traffic.rules object)[route.placeIn object]? = some rule ∧ rule.Serves route

/-- Among the routes of its hostname, those before a route stay before it. -/
theorem routesOf_append_cons_self (before after : List Route) (route : Route) :
    routesOf route.fqdn (before ++ route :: after) =
      routesOf route.fqdn before ++ route :: routesOf route.fqdn after := by
  unfold routesOf
  rw [List.filter_append, List.filter_cons_of_pos (by exact decide_eq_true rfl)]

/-- The routes of a hostname in two lists, one after the other. -/
theorem routesOf_append (fqdn : String) (before after : List Route) :
    routesOf fqdn (before ++ after) = routesOf fqdn before ++ routesOf fqdn after :=
  List.filter_append _ _

/-- The routes of other hostnames stay the same without a route. -/
theorem routesOf_append_cons_of_ne {before after : List Route} {route : Route} {fqdn : String}
    (h : fqdn ≠ route.fqdn) :
    routesOf fqdn (before ++ after) = routesOf fqdn (before ++ route :: after) := by
  unfold routesOf
  rw [List.filter_append, List.filter_append, List.filter_cons_of_neg (by simpa using h.symm)]

namespace Config

/-- The object of a group loses a rule as the group does. -/
theorem objectOf_eraseRule (config : Config) (i : Nat) (group : HostGroup) :
    config.synthesizer.objectOf (group.eraseRule i) =
      config.provider.eraseRule i (config.synthesizer.objectOf group) := by
  have howners : (config.synthesizer.metadata group).eraseOwner i =
      config.synthesizer.metadata (group.eraseRule i) := by
    unfold Synthesizer.metadata Metadata.eraseOwner HostGroup.ownerReferences HostGroup.eraseRule
    rw [Option.map_some, List.eraseIdx_map]
  unfold Synthesizer.objectOf
  rw [← howners]
  unfold synthesizer
  cases config.provider with
  | istio =>
    change VirtualService.ofGroup _ _ _ = VirtualService.eraseRule i (VirtualService.ofGroup _ _ _)
    unfold VirtualService.eraseRule VirtualService.ofGroup HostGroup.eraseRule
    rw [List.eraseIdx_map]
    rfl
  | contour =>
    change HttpProxy.ofGroup _ _ _ _ = HttpProxy.eraseRule i (HttpProxy.ofGroup _ _ _ _)
    unfold HttpProxy.eraseRule HttpProxy.ofGroup HostGroup.eraseRule
    dsimp only
    rw [List.eraseIdx_map]
    rfl

section Owner

variable {config : Config} {routes : List Route} {route : Route} {group : HostGroup}

/-- The owners of the object of a hostname are the routes that have a rule, in match order. -/
theorem getD_ownerReferences_objectOf
    (hgroup : config.synthesizer.HasGroup routes route.fqdn group) :
    (Resource.metadata (config.synthesizer.objectOf group)).ownerReferences.getD [] =
      (ruledRoutes (routesOf route.fqdn routes)).map Route.ownerReference := by
  rw [Synthesizer.metadata_objectOf config.lawful_synthesizer, ← HostGroup.map_route_rules hgroup,
    List.map_map]
  rfl

/-- A route stands among the owners of the object of its hostname where it stands among the routes
that have a rule. -/
theorem placeIn_objectOf (hgroup : config.synthesizer.HasGroup routes route.fqdn group)
    (hnames : ((routesOf route.fqdn routes).map Route.name).Nodup) (hroute : route ∈ routes) :
    route.placeIn (config.synthesizer.objectOf group) =
      (ruledRoutes (routesOf route.fqdn routes)).idxOf route := by
  unfold Route.placeIn
  rw [getD_ownerReferences_objectOf hgroup]
  refine idxOf_map_eq fun other hother hsame => ?_
  have hname : other.name = route.name := congrArg OwnerReference.name hsame
  exact List.inj_on_of_nodup_map hnames (mem_ruledRoutes.mp hother).1
    (mem_routesOf.mpr ⟨hroute, rfl⟩) hname

/-- The object of a hostname has the rule of every route that has one. -/
theorem ruledIn_objectOf (hgroup : config.synthesizer.HasGroup routes route.fqdn group)
    (hnames : ((routesOf route.fqdn routes).map Route.name).Nodup)
    (hruled : route ∈ ruledRoutes (routesOf route.fqdn routes)) :
    route.RuledIn (config.synthesizer.objectOf group) := by
  have hroute := (mem_routesOf.mp (mem_ruledRoutes.mp hruled).1).1
  have hplace := placeIn_objectOf hgroup hnames hroute
  have hfound := List.getElem?_idxOf hruled
  refine ⟨?_, ?_⟩
  · rw [hplace, getD_ownerReferences_objectOf hgroup, List.getElem?_map, hfound, Option.map_some]
  · rw [hplace]
    have hserved := config.forall₂_traffic config.provider hgroup
    obtain ⟨rule, hrule, hserves, _⟩ := exists_getElem?_left hserved hfound
    exact ⟨rule, hrule, hserves⟩

/-- A route that has no rule is not taken out of the object of its hostname. -/
theorem without_objectOf_of_notMem (hgroup : config.synthesizer.HasGroup routes route.fqdn group)
    (hnames : ((routesOf route.fqdn routes).map Route.name).Nodup) (hroute : route ∈ routes)
    (hunruled : route ∉ ruledRoutes (routesOf route.fqdn routes)) :
    config.provider.without route (config.synthesizer.objectOf group) =
      config.synthesizer.objectOf group := by
  have hlength : group.rules.length = (ruledRoutes (routesOf route.fqdn routes)).length := by
    rw [← HostGroup.map_route_rules hgroup, List.length_map]
  have hgroup' : group.eraseRule group.rules.length = group := by
    unfold HostGroup.eraseRule
    rw [List.eraseIdx_of_length_le le_rfl]
  unfold Provider.without
  rw [placeIn_objectOf hgroup hnames hroute, List.idxOf_eq_length hunruled, ← hlength,
    ← objectOf_eraseRule, hgroup']

end Owner

/-- The object of a hostname that did not fail loses the rule of the route, and goes with its last
rule. -/
theorem objectsFor_without (config : Config) {before after : List Route} {route : Route}
    (hdistinct : RoutesDistinct (before ++ route :: after))
    (hsound : route.fqdn ∉
      (config.synthesizer.synthesize (before ++ route :: after)).failedFqdns)
    (hrest : ∀ other, routesOf route.fqdn (before ++ after) = [other] → other.materialized ≠ []) :
    (config.synthesizer.synthesize (before ++ after)).objectsFor route.fqdn =
      (((config.synthesizer.synthesize (before ++ route :: after)).objectsFor route.fqdn).map
        (config.provider.without route)).filter fun object => Traffic.rules object ≠ [] := by
  have hlawful := config.lawful_synthesizer
  obtain ⟨result, hresult⟩ := Synthesizer.notMem_failedFqdns_iff.mp hsound
  have hnames := hdistinct.nodup_names (HostGroup.exists_ofRoutes?_eq_ok_iff.mp ⟨_, hresult⟩).1
  have hrest' := routesOf_append route.fqdn before after
  have hresult' : HostGroup.ofRoutes? config.synthesizer.renderer.requireWeightSum route.fqdn
      (routesOf route.fqdn (before ++ after)) = .ok ((result.map (HostGroup.eraseRule
        ((ruledRoutes (routesOf route.fqdn (before ++ route :: after))).idxOf route))).filter
          fun group => group.rules ≠ []) := by
    rw [hrest'] at hrest ⊢
    rw [routesOf_append_cons_self] at hresult hnames ⊢
    exact HostGroup.ofRoutes?_without hnames hrest hresult
  rw [Synthesizer.objectsFor_of_ofRoutes? hlawful hresult,
    Synthesizer.objectsFor_of_ofRoutes? hlawful hresult']
  cases result with
  | none => rfl
  | some group =>
    have hwithout : config.provider.without route (config.synthesizer.objectOf group) =
        config.synthesizer.objectOf (group.eraseRule
          ((ruledRoutes (routesOf route.fqdn (before ++ route :: after))).idxOf route)) := by
      rw [objectOf_eraseRule, Provider.without, placeIn_objectOf hresult hnames
        (List.mem_append_right before List.mem_cons_self)]
    have hrules : ∀ rest : HostGroup,
        Traffic.rules (config.synthesizer.objectOf rest) ≠ [] ↔ rest.rules ≠ [] := by
      intro rest
      have htraffic := config.traffic_objectOf config.provider rest
      exact not_congr (htraffic ▸ List.map_eq_nil_iff)
    simp only [Option.map_some, Option.toList_some, List.map_cons, List.map_nil, hwithout,
      Option.filter_some, List.filter_cons, List.filter_nil, hrules]
    split <;> rfl

/-- Whatever the provider, its settings and the labels: taking one of distinct routes off a list takes
its rule and the owner that it is out of the object of its hostname, and the object with its last
rule, and nothing else. A hostname that did not fail does not fail then. Only where it keeps one
route, and that has no materialized destinations, is the placeholder written in place of what was
there. A route that had no rule leaves the object as it is. Objects and failures of other hostnames
and the services of other routes stay. -/
theorem synthesize_without_route (config : Config) {before after : List Route} {route : Route}
    (hdistinct : RoutesDistinct (before ++ route :: after)) :
    (route.fqdn ∉ (config.synthesizer.synthesize (before ++ route :: after)).failedFqdns →
      route.fqdn ∉ (config.synthesizer.synthesize (before ++ after)).failedFqdns ∧
      ((∀ other, routesOf route.fqdn (before ++ after) = [other] → other.materialized ≠ []) →
        (config.synthesizer.synthesize (before ++ after)).objectsFor route.fqdn =
          (((config.synthesizer.synthesize (before ++ route :: after)).objectsFor route.fqdn).map
            (config.provider.without route)).filter fun object => Traffic.rules object ≠ [])) ∧
    (∀ object ∈ (config.synthesizer.synthesize (before ++ route :: after)).objectsFor route.fqdn,
      (route ∈ ruledRoutes (routesOf route.fqdn (before ++ route :: after)) →
        route.RuledIn object) ∧
      (route ∉ ruledRoutes (routesOf route.fqdn (before ++ route :: after)) →
        config.provider.without route object = object)) ∧
    (∀ fqdn, fqdn ≠ route.fqdn →
      (config.synthesizer.synthesize (before ++ after)).objectsFor fqdn =
          (config.synthesizer.synthesize (before ++ route :: after)).objectsFor fqdn ∧
        (config.synthesizer.synthesize (before ++ after)).errorsFor fqdn =
          (config.synthesizer.synthesize (before ++ route :: after)).errorsFor fqdn) ∧
    config.synthesizer.services (before ++ route :: after) = config.synthesizer.services before ++
      Route.services config.labels route ++ config.synthesizer.services after ∧
    config.synthesizer.services (before ++ after) =
      config.synthesizer.services before ++ config.synthesizer.services after := by
  have hlawful := config.lawful_synthesizer
  have hlisted : route ∈ before ++ route :: after :=
    List.mem_append_right before List.mem_cons_self
  refine ⟨fun hsound => ?_, fun object hobject => ?_, fun fqdn hfqdn => ?_, ?_, ?_⟩
  · refine ⟨?_, fun hrest => config.objectsFor_without hdistinct hsound hrest⟩
    obtain ⟨result, hresult⟩ := Synthesizer.notMem_failedFqdns_iff.mp hsound
    rw [routesOf_append_cons_self] at hresult
    rw [Synthesizer.notMem_failedFqdns_iff, routesOf_append]
    exact HostGroup.exists_ofRoutes?_without ⟨result, hresult⟩
  · obtain ⟨group, hgroup, rfl⟩ := (Synthesizer.mem_objectsFor _ _ hlawful).mp hobject
    have hnames := hdistinct.nodup_names (HostGroup.exists_ofRoutes?_eq_ok_iff.mp ⟨_, hgroup⟩).1
    exact ⟨fun hruled => ruledIn_objectOf hgroup hnames hruled,
      fun hunruled => without_objectOf_of_notMem hgroup hnames hlisted hunruled⟩
  · rw [Synthesizer.objectsFor_synthesize _ _ hlawful, Synthesizer.objectsFor_synthesize _ _ hlawful,
      Synthesizer.errorsFor_synthesize, Synthesizer.errorsFor_synthesize,
      routesOf_append_cons_of_ne hfqdn]
    exact ⟨rfl, rfl⟩
  · unfold Synthesizer.services
    rw [List.flatMap_append, List.flatMap_cons, List.append_assoc]
    rfl
  · exact List.flatMap_append

/-- The second of the sample routes is taken away: its rule was one of three, and the object
stays. -/
theorem synthesize_splitRoutes_without_second :
    ∃ object ∈ (meshConfig.synthesizer.synthesize splitRoutes).objectsFor "web.example.com",
      (Traffic.rules object).map (fun rule => rule.shares.map Share.weight) =
        [[some 70, some 30], [some 34, some 33, some 33], [some 100]] ∧
      Route.RuledIn splitRoutes[1] object ∧
      meshConfig.provider.without splitRoutes[1] object ∈
        (meshConfig.synthesizer.synthesize (splitRoutes.eraseIdx 1)).objectsFor
          "web.example.com" := by
  obtain ⟨object, hobject, hweights⟩ := exists_object_splitRoutes
  obtain ⟨group, hgroup, rfl⟩ :=
    (Synthesizer.mem_objectsFor _ _ meshConfig.lawful_synthesizer).mp hobject
  obtain ⟨hstays, hplace, _⟩ := @synthesize_without_route meshConfig (splitRoutes.take 1)
    (splitRoutes.drop 2) splitRoutes[1] (by decide)
  obtain ⟨_, hobjects⟩ := hstays hgroup.notMem_failedFqdns
  have hruled := (hplace _ hobject).1 (mem_ruledRoutes.mpr (by decide))
  have hleft : Traffic.rules (meshConfig.provider.without splitRoutes[1]
      (meshConfig.synthesizer.objectOf group)) ≠ [] := by
    obtain ⟨_, hrule, _⟩ := hruled.serves
    have hthree : (Traffic.rules (meshConfig.synthesizer.objectOf group)).length = 3 := by
      simpa using congrArg List.length hweights
    have herased := List.length_eraseIdx_add_one (List.getElem?_eq_some_iff.mp hrule).1
    rw [Provider.without, Provider.rules_eraseRule, ← List.length_pos_iff]
    omega
  have hseveral : ∀ other, routesOf splitRoutes[1].fqdn
      (splitRoutes.take 1 ++ splitRoutes.drop 2) = [other] → other.materialized ≠ [] := by
    intro other hother
    have hlength : (routesOf splitRoutes[1].fqdn
      (splitRoutes.take 1 ++ splitRoutes.drop 2)).length = 3 := by decide
    rw [hother] at hlength
    cases hlength
  refine ⟨_, hobject, hweights, hruled, ?_⟩
  change _ ∈ (meshConfig.synthesizer.synthesize
    (splitRoutes.take 1 ++ splitRoutes.drop 2)).objectsFor splitRoutes[1].fqdn
  rw [hobjects hseveral]
  exact List.mem_filter.mpr ⟨List.mem_map_of_mem hobject, decide_eq_true hleft⟩

end Config

end Ingress
