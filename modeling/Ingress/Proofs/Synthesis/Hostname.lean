import Ingress.Synthesis.Hostname
import Mathlib.Data.List.Sort

/-!
# Hostnames and match order, whatever the order of a listing

The hostnames of a list of routes and the routes of one hostname depend on the order of the list
no further than they have to: hostnames not at all, and the routes of a hostname only up to a
permutation. Match order undoes that permutation where no two routes of the hostname have one
name (`inMatchOrder_eq_of_perm`).
-/

namespace Ingress

/-- The hostnames of routes are what they serve. -/
theorem mem_hostnames {fqdn : String} {routes : List Route} :
    fqdn ∈ hostnames routes ↔ ∃ route ∈ routes, route.fqdn = fqdn := by
  unfold hostnames
  rw [Std.ExtTreeSet.mem_toList, Std.ExtTreeSet.mem_ofList, List.contains_iff_mem, List.mem_map]

/-- More routes serve more hostnames. -/
theorem hostnames_subset {routes more : List Route} (h : routes ⊆ more) :
    hostnames routes ⊆ hostnames more := by
  intro fqdn hfqdn
  obtain ⟨route, hroute, rfl⟩ := mem_hostnames.mp hfqdn
  exact mem_hostnames.mpr ⟨route, h hroute, rfl⟩

/-- Hostnames ascend. -/
theorem pairwise_hostnames (routes : List Route) :
    (hostnames routes).Pairwise fun a b => compare a b = .lt :=
  Std.ExtTreeSet.ordered_toList

/-- No hostname is repeated. -/
theorem nodup_hostnames (routes : List Route) : (hostnames routes).Nodup := by
  refine (pairwise_hostnames routes).imp fun {a b} hlt heq => ?_
  have hself : compare b b = .eq := Std.ReflCmp.compare_self
  rw [heq, hself] at hlt
  cases hlt

/-- Routes in another order serve the same hostnames. -/
theorem hostnames_eq_of_perm {first second : List Route} (h : first.Perm second) :
    hostnames first = hostnames second := by
  unfold hostnames
  rw [Std.ExtTreeSet.toList_inj]
  apply Std.ExtTreeSet.ext_mem
  intro fqdn
  rw [Std.ExtTreeSet.mem_ofList, Std.ExtTreeSet.mem_ofList, List.contains_iff_mem,
    List.contains_iff_mem]
  exact (h.map Route.fqdn).mem_iff

/-- The routes of a hostname are those that serve it. -/
theorem mem_routesOf {fqdn : String} {routes : List Route} {route : Route} :
    route ∈ routesOf fqdn routes ↔ route ∈ routes ∧ route.fqdn = fqdn := by
  unfold routesOf
  rw [List.mem_filter, decide_eq_true_eq]

/-- A hostname that no route serves has no routes. -/
theorem routesOf_eq_nil {fqdn : String} {routes : List Route} (h : fqdn ∉ hostnames routes) :
    routesOf fqdn routes = [] := by
  refine List.eq_nil_iff_forall_not_mem.mpr fun route hroute => h ?_
  obtain ⟨hlisted, hserved⟩ := mem_routesOf.mp hroute
  exact mem_hostnames.mpr ⟨route, hlisted, hserved⟩

/-- Routes in another order are, hostname by hostname, the same up to their order. -/
theorem routesOf_perm (fqdn : String) {first second : List Route} (h : first.Perm second) :
    (routesOf fqdn first).Perm (routesOf fqdn second) :=
  h.filter _

namespace Route

/-- Match order compares URLs, downwards, and then names. -/
theorem matchesBefore_eq_isLE (a b : Route) :
    a.matchesBefore b =
      ((compare b.fullUrl a.fullUrl).then (compare a.name b.name)).isLE := by
  unfold matchesBefore
  cases compare b.fullUrl a.fullUrl <;> rfl

theorem matchesBefore_trans {a b c : Route} (hab : a.matchesBefore b) (hbc : b.matchesBefore c) :
    a.matchesBefore c := by
  rw [matchesBefore_eq_isLE, Ordering.isLE_then_iff_and] at hab hbc ⊢
  refine ⟨Std.TransCmp.isLE_trans hbc.1 hab.1, ?_⟩
  rcases hab.2 with hlt | hname
  · exact Or.inl (Std.TransCmp.lt_of_isLE_of_lt hbc.1 hlt)
  · rcases hbc.2 with hlt | hname'
    · exact Or.inl (Std.TransCmp.lt_of_lt_of_isLE hlt hab.1)
    · exact Or.inr (Std.TransCmp.isLE_trans hname hname')

theorem matchesBefore_total (a b : Route) : a.matchesBefore b || b.matchesBefore a := by
  have hurl : compare a.fullUrl b.fullUrl = (compare b.fullUrl a.fullUrl).swap :=
    Std.OrientedCmp.eq_swap
  have hname : compare b.name a.name = (compare a.name b.name).swap := Std.OrientedCmp.eq_swap
  rw [matchesBefore_eq_isLE, matchesBefore_eq_isLE, hurl, hname]
  cases compare b.fullUrl a.fullUrl <;> cases compare a.name b.name <;> rfl

/-- Two routes of which either is matched before the other have one name. -/
theorem name_eq_of_matchesBefore {a b : Route} (hab : a.matchesBefore b)
    (hba : b.matchesBefore a) : a.name = b.name := by
  have hurl : compare a.fullUrl b.fullUrl = (compare b.fullUrl a.fullUrl).swap :=
    Std.OrientedCmp.eq_swap
  have hname : compare b.name a.name = (compare a.name b.name).swap := Std.OrientedCmp.eq_swap
  rw [matchesBefore_eq_isLE] at hab hba
  rw [hurl, hname] at hba
  have heq : compare a.name b.name = .eq := by
    cases hcmp : compare b.fullUrl a.fullUrl <;> cases hcmp' : compare a.name b.name <;>
      simp_all
  exact Std.LawfulEqCmp.eq_of_compare heq

end Route

/-- Match order only reorders. -/
theorem inMatchOrder_perm (routes : List Route) : (inMatchOrder routes).Perm routes :=
  List.mergeSort_perm routes _

/-- Routes in match order are in match order. -/
theorem pairwise_inMatchOrder (routes : List Route) :
    (inMatchOrder routes).Pairwise fun a b => a.matchesBefore b := by
  unfold inMatchOrder
  apply List.pairwise_mergeSort
  · intro a b c hab hbc
    exact Route.matchesBefore_trans hab hbc
  · exact Route.matchesBefore_total

/-- Where names tell routes apart, match order does not depend on the order given. -/
theorem inMatchOrder_eq_of_perm {first second : List Route} (h : first.Perm second)
    (hnames : ∀ a ∈ first, ∀ b ∈ first, a.name = b.name → a = b) :
    inMatchOrder first = inMatchOrder second := by
  have hperm : (inMatchOrder first).Perm (inMatchOrder second) :=
    (inMatchOrder_perm first).trans (h.trans (inMatchOrder_perm second).symm)
  refine hperm.eq_of_pairwise ?_ (pairwise_inMatchOrder first) (pairwise_inMatchOrder second)
  intro a b ha hb hab hba
  have ha' : a ∈ first := (inMatchOrder_perm first).mem_iff.mp ha
  have hb' : b ∈ first := h.mem_iff.mpr ((inMatchOrder_perm second).mem_iff.mp hb)
  exact hnames a ha' b hb' (Route.name_eq_of_matchesBefore hab hba)

end Ingress
