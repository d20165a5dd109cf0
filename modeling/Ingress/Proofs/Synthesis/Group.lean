import Ingress.Proofs.Synthesis.Hostname
import Ingress.Proofs.Synthesis.Rule

/-!
# The group of a hostname

A hostname has a group when its routes agree and their weights make sense, and then everything
in the group comes from one of these routes: the namespace and the domain are those of all of
them, and each rule is the rule of one (`HostGroup.Of`). Rules stand in the match order of the
routes that have one (`HostGroup.forall₂_rules`). Apart from the wording of a disagreement the
outcome does not depend on the order in which the routes were listed
(`HostGroup.ofRoutes?_eq_of_perm`).
-/

namespace Ingress

/-- Two routes that can share a hostname. -/
structure Route.Agrees (a b : Route) : Prop where
  /-- Both domains are internal or neither is. -/
  internal : a.domain.internal = b.domain.internal
  /-- Both lie in one namespace. -/
  ns : a.ns = b.ns

theorem checkAgreement_eq_ok_iff {first : Route} {routes : List Route} :
    checkAgreement first routes = .ok () ↔ ∀ route ∈ routes, first.Agrees route := by
  induction routes with
  | nil => simp [checkAgreement]
  | cons route rest ih =>
    rw [List.forall_mem_cons, checkAgreement]
    split
    · next hinternal =>
      constructor
      · intro h
        cases h
      · rintro ⟨h, _⟩
        exact absurd h.internal hinternal
    · next hinternal =>
      split
      · next hns =>
        constructor
        · intro h
          cases h
        · rintro ⟨h, _⟩
          exact absurd h.ns hns
      · next hns =>
        simp only [ne_eq, not_not] at hinternal hns
        have hroute : first.Agrees route := ⟨hinternal, hns⟩
        rw [ih, and_iff_right hroute]

/-- The routes of a hostname pass when any two of them agree. -/
theorem validateGroup_eq_ok_iff {routes : List Route} :
    validateGroup routes = .ok () ↔ ∀ a ∈ routes, ∀ b ∈ routes, a.Agrees b := by
  cases routes with
  | nil => simp [validateGroup]
  | cons first rest =>
    unfold validateGroup
    rw [checkAgreement_eq_ok_iff]
    constructor
    · intro h a ha b hb
      exact ⟨(h a ha).internal.symm.trans (h b hb).internal, (h a ha).ns.symm.trans (h b hb).ns⟩
    · intro h
      exact h first List.mem_cons_self

/-- Whether routes agree does not depend on their order. -/
theorem validateGroup_eq_ok_iff_of_perm {first second : List Route} (h : first.Perm second) :
    validateGroup first = .ok () ↔ validateGroup second = .ok () := by
  simp only [validateGroup_eq_ok_iff, h.mem_iff]

/-- The routes of a hostname that have a rule, in the order in which they are matched. -/
def ruledRoutes (routes : List Route) : List Route :=
  (inMatchOrder routes).filter fun route => route.materialized ≠ [] ∨ routes.length = 1

/-- The routes that have a rule are those with materialized destinations, and a route that is
alone. -/
theorem mem_ruledRoutes {routes : List Route} {route : Route} :
    route ∈ ruledRoutes routes ↔
      route ∈ routes ∧ (route.materialized ≠ [] ∨ routes.length = 1) := by
  unfold ruledRoutes
  rw [List.mem_filter, (inMatchOrder_perm routes).mem_iff, decide_eq_true_eq]

namespace HostGroup

/-- A group that was made from the routes of a hostname. -/
structure Of (requireSum : Bool) (fqdn : String) (routes : List Route) (group : HostGroup) :
    Prop where
  /-- It is the group of that hostname. -/
  fqdn_eq : group.fqdn = fqdn
  /-- There is a route. -/
  routes_ne : routes ≠ []
  /-- Its namespace is the namespace of every route. -/
  ns_eq : ∀ route ∈ routes, group.ns = route.ns
  /-- It is internal exactly if every route is. -/
  internal_eq : ∀ route ∈ routes, group.internal = route.domain.internal
  /-- Every rule is the rule of a route. -/
  rule_of : ∀ rule ∈ group.rules, ∃ route ∈ routes,
    Rule.ofRoute? requireSum (routes.length = 1) route = .ok (some rule)

/-- Every rule of a group was made from the route that it carries, which is one of the routes. -/
theorem Of.rule_mem {requireSum : Bool} {fqdn : String} {routes : List Route} {group : HostGroup}
    (h : Of requireSum fqdn routes group) {rule : Rule} (hrule : rule ∈ group.rules) :
    rule.route ∈ routes ∧ Rule.Of requireSum (routes.length = 1) rule.route rule := by
  obtain ⟨route, hroute, hof⟩ := h.rule_of rule hrule
  have hmade := Rule.of_ofRoute? hof
  rw [hmade.route_eq]
  exact ⟨hroute, hmade⟩

/-- The rules that the routes of a hostname come to are those of the routes that have one, in match
order. -/
theorem forall₂_results {requireSum : Bool} {routes : List Route}
    {results : List (Option Rule)}
    (h : (inMatchOrder routes).mapM
      (Rule.ofRoute? requireSum ((inMatchOrder routes).length = 1)) = .ok results) :
    List.Forall₂
      (fun route rule => Rule.ofRoute? requireSum (routes.length = 1) route = .ok (some rule))
      (ruledRoutes routes) (results.filterMap id) := by
  rw [(inMatchOrder_perm routes).length_eq] at h
  refine forall₂_filterMap_id (forall₂_of_mapM h) fun route result hresult => ?_
  rw [Rule.isSome_of_ofRoute? hresult, decide_eq_true_eq, decide_eq_true_eq]

/-- The rules of a group are the rules of the routes that have one, in match order. -/
theorem forall₂_rules {requireSum : Bool} {fqdn : String} {routes : List Route}
    {group : HostGroup} (h : ofRoutes? requireSum fqdn routes = .ok (some group)) :
    List.Forall₂
      (fun route rule => Rule.ofRoute? requireSum (routes.length = 1) route = .ok (some rule))
      (ruledRoutes routes) group.rules := by
  unfold ofRoutes? at h
  obtain ⟨⟨⟩, _, h⟩ := bind_eq_ok_iff.mp h
  obtain ⟨results, hresults, h⟩ := bind_eq_ok_iff.mp h
  have hrules : group.rules = results.filterMap id := by
    split at h
    · next hrest =>
      cases h
      exact hrest.symm
    · cases h
  rw [hrules]
  exact forall₂_results hresults

/-- Routes that do not fail have a group where one of them has a rule. -/
theorem isSome_of_ofRoutes? {requireSum : Bool} {fqdn : String} {routes : List Route}
    {result : Option HostGroup} (h : ofRoutes? requireSum fqdn routes = .ok result) :
    result.isSome ↔ ruledRoutes routes ≠ [] := by
  unfold ofRoutes? at h
  obtain ⟨⟨⟩, _, h⟩ := bind_eq_ok_iff.mp h
  obtain ⟨results, hresults, h⟩ := bind_eq_ok_iff.mp h
  have hrules := forall₂_results hresults
  split at h
  · next hrest =>
    cases h
    rw [hrest] at hrules
    exact iff_of_true rfl fun hnil => by
      rw [hnil] at hrules
      cases hrules
  · next hnone =>
    cases h
    refine iff_of_false Bool.false_ne_true fun hruled => ?_
    have hordered : inMatchOrder routes ≠ [] := fun hnil =>
      hruled (by rw [ruledRoutes, hnil, List.filter_nil])
    have hfound : results.filterMap id ≠ [] := fun hnil => by
      rw [hnil] at hrules
      exact hruled (List.forall₂_nil_right_iff.mp hrules)
    obtain ⟨first, others, hfirst⟩ := List.exists_cons_of_ne_nil hordered
    obtain ⟨rule, rest, hrest⟩ := List.exists_cons_of_ne_nil hfound
    exact hnone first others rule rest hfirst hrest

/-- Routes that come to no group have no rule. -/
theorem ruledRoutes_eq_nil {requireSum : Bool} {fqdn : String} {routes : List Route}
    (h : ofRoutes? requireSum fqdn routes = .ok none) : ruledRoutes routes = [] := by
  by_contra hruled
  cases (isSome_of_ofRoutes? h).mpr hruled

/-- The group that routes come to was made from them. -/
theorem of_ofRoutes? {requireSum : Bool} {fqdn : String} {routes : List Route} {group : HostGroup}
    (h : ofRoutes? requireSum fqdn routes = .ok (some group)) :
    Of requireSum fqdn routes group := by
  have hrules := forall₂_rules h
  unfold ofRoutes? at h
  obtain ⟨⟨⟩, hvalid, h⟩ := bind_eq_ok_iff.mp h
  obtain ⟨_, _, h⟩ := bind_eq_ok_iff.mp h
  split at h
  · next first others rule rest hordered hrest =>
    cases h
    have hfirst : first ∈ routes := by
      rw [← (inMatchOrder_perm routes).mem_iff, hordered]
      exact List.mem_cons_self
    have hagree := validateGroup_eq_ok_iff.mp hvalid
    refine ⟨rfl, List.ne_nil_of_mem hfirst, ?_, ?_, ?_⟩
    · intro route hroute
      exact (hagree first hfirst route hroute).ns
    · intro route hroute
      exact (hagree first hfirst route hroute).internal
    · intro rule' hrule'
      obtain ⟨route, hroute, hof⟩ := exists_of_mem_right hrules hrule'
      exact ⟨route, (mem_ruledRoutes.mp hroute).1, hof⟩
  · cases h

/-- The routes of the rules of a group are those that have a rule, in match order. -/
theorem map_route_rules {requireSum : Bool} {fqdn : String} {routes : List Route}
    {group : HostGroup} (h : ofRoutes? requireSum fqdn routes = .ok (some group)) :
    group.rules.map Rule.route = ruledRoutes routes := by
  have hroutes : List.Forall₂ (fun route rule => id route = Rule.route rule) (ruledRoutes routes)
      group.rules :=
    (forall₂_rules h).imp fun _ _ hof => (Rule.of_ofRoute? hof).route_eq.symm
  rw [← map_eq_map_of_forall₂ hroutes, List.map_id]

/-- Of two rules of a group the first is that of a route that is matched first. -/
theorem pairwise_rules {requireSum : Bool} {fqdn : String} {routes : List Route}
    {group : HostGroup} (h : ofRoutes? requireSum fqdn routes = .ok (some group)) :
    group.rules.Pairwise fun a b => a.route.matchesBefore b.route := by
  rw [← List.pairwise_map (f := Rule.route) (R := fun a b => a.matchesBefore b),
    map_route_rules h]
  exact (pairwise_inMatchOrder routes).filter _

/-- Where names tell routes apart, routes that agree come to the same group, or to the same
fault of weights, in whatever order they are listed. -/
theorem ofRoutes?_eq_of_perm (requireSum : Bool) (fqdn : String) {first second : List Route}
    (h : first.Perm second) (hnames : ∀ a ∈ first, ∀ b ∈ first, a.name = b.name → a = b)
    (hvalid : validateGroup first = .ok ()) :
    ofRoutes? requireSum fqdn first = ofRoutes? requireSum fqdn second := by
  unfold ofRoutes?
  rw [inMatchOrder_eq_of_perm h hnames, hvalid, (validateGroup_eq_ok_iff_of_perm h).mp hvalid]

/-- Routes that do not agree fail. -/
theorem ofRoutes?_eq_error {requireSum : Bool} {fqdn : String} {routes : List Route}
    (h : validateGroup routes ≠ .ok ()) :
    ∃ cause, ofRoutes? requireSum fqdn routes = .error cause := by
  cases hvalid : validateGroup routes with
  | ok _ => exact absurd hvalid h
  | error cause =>
    refine ⟨cause, ?_⟩
    unfold ofRoutes?
    rw [hvalid]
    rfl

end HostGroup

end Ingress
