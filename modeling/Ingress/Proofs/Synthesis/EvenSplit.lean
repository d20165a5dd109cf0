import Ingress.Proofs.Synthesis.TrafficSplit

/-!
# How even an even split is

A route that says no weights has its traffic split into equal quotients, and what the division
leaves over goes to the first destination alone. So the first weight is ahead of all others by the
whole remainder (`evenSplit_favours_first`), and the weights are within one of each other only where
the remainder is no more than one.
-/

namespace Ingress

/-- Weights of which no two differ by more than one. -/
def WithinOne (weights : List Int32) : Prop :=
  ∀ a ∈ weights, ∀ b ∈ weights, a.toInt ≤ b.toInt + 1

/-- Materialized destinations that 32 bits can count and that say no weights come to an even
split. -/
theorem exists_evenSplit {route : Route} (requireSum : Bool) (hsome : route.materialized ≠ [])
    (hcount : route.materialized.length ≤ 2147483647)
    (hmissing : ∀ d ∈ route.materialized, d.weight = none) :
    ∃ weights, resolveWeights route requireSum = .ok weights ∧
      inferWeights route.materialized.length = some weights := by
  cases hresolve : resolveWeights route requireSum with
  | ok weights =>
    refine ⟨weights, rfl, ?_⟩
    rcases resolveWeights_eq_ok_cases hresolve with ⟨hgiven, _, _⟩ | ⟨_, hinfer⟩
    · obtain ⟨d, hd⟩ := List.exists_mem_of_ne_nil _ hsome
      exact absurd (hmissing d hd) (hgiven d hd)
    · exact hinfer
  | error cause =>
    cases (resolveWeights_eq_error_iff hsome hcount).mp hresolve with
    | incomplete hgiven _ =>
      obtain ⟨d, hd, hweight⟩ := hgiven
      exact absurd (hmissing d hd) hweight
    | sum _ hall _ _ =>
      obtain ⟨d, hd⟩ := List.exists_mem_of_ne_nil _ hsome
      exact absurd (hmissing d hd) (hall d hd)

/-- Of the words of an even split the first stands for the quotient and the remainder, and every
other for the quotient. -/
theorem inferWeights_eq_cons {n : Nat} {weights : List Int32} (h : inferWeights n = some weights) :
    ∃ first rest, weights = first :: rest ∧ first.toInt = 100 / n + 100 % n ∧
      ∀ weight ∈ rest, weight.toInt = 100 / n := by
  have hlength := length_inferWeights h
  have hshares := map_toInt_of_inferWeights h
  cases weights with
  | nil =>
    subst hlength
    cases h
  | cons first rest =>
    subst hlength
    rw [List.length_cons, map_evenShare_range, List.map_cons, List.cons.injEq] at hshares
    refine ⟨first, rest, rfl, hshares.1, fun weight hweight => ?_⟩
    exact List.eq_of_mem_replicate (hshares.2 ▸ List.mem_map_of_mem hweight)

/-- Weights of which all but the first are one number are within one of each other exactly where the
first is ahead by no more than one, or stands alone. -/
theorem withinOne_cons_iff {first : Int32} {rest : List Int32} {share ahead : Int}
    (hnonneg : 0 ≤ ahead) (hfirst : first.toInt = share + ahead)
    (hrest : ∀ weight ∈ rest, weight.toInt = share) :
    WithinOne (first :: rest) ↔ rest = [] ∨ ahead ≤ 1 := by
  constructor
  · intro hwithin
    cases rest with
    | nil => exact .inl rfl
    | cons second others =>
      have hsecond := hrest second List.mem_cons_self
      have hdiffer := hwithin first List.mem_cons_self second
        (List.mem_cons_of_mem first List.mem_cons_self)
      exact .inr (by omega)
  · rintro (rfl | hahead)
    · intro a ha b hb
      rw [List.mem_singleton.mp ha, List.mem_singleton.mp hb]
      omega
    · have hbounds : ∀ weight ∈ first :: rest,
          share ≤ weight.toInt ∧ weight.toInt ≤ share + 1 := by
        rintro weight (_ | ⟨_, hweight⟩)
        · omega
        · rw [hrest weight hweight]
          omega
      intro a ha b hb
      have := hbounds a ha
      have := hbounds b hb
      omega

/-- Whether or not sums are looked at, a route with materialized destinations that 32 bits can count
and that say no weights gets a weight for each of them. These sum to a hundred; the first is the
quotient of a hundred by their number and what the division leaves over, and all others are the
quotient. No two differ by more than one exactly where the division leaves over no more than one. -/
theorem evenSplit_favours_first {route : Route} (requireSum : Bool)
    (hsome : route.materialized ≠ []) (hcount : route.materialized.length ≤ 2147483647)
    (hmissing : ∀ d ∈ route.materialized, d.weight = none) :
    ∃ first rest, resolveWeights route requireSum = .ok (first :: rest) ∧
      (first :: rest).length = route.materialized.length ∧
      ((first :: rest).map Int32.toInt).sum = 100 ∧
      first.toInt = 100 / route.materialized.length + 100 % route.materialized.length ∧
      (∀ weight ∈ rest, weight.toInt = 100 / route.materialized.length) ∧
      (WithinOne (first :: rest) ↔ 100 % route.materialized.length ≤ 1) := by
  obtain ⟨weights, hresolve, hinfer⟩ := exists_evenSplit requireSum hsome hcount hmissing
  obtain ⟨first, rest, rfl, hfirst, hrest⟩ := inferWeights_eq_cons hinfer
  have hlength := length_inferWeights hinfer
  have hsum : ((first :: rest).map Int32.toInt).sum = 100 := by
    rw [map_toInt_of_inferWeights hinfer]
    exact sum_evenShare (mt List.length_eq_zero_iff.mp hsome)
  have hnonneg : (0 : Int) ≤ 100 % route.materialized.length :=
    mod_cast Nat.zero_le (100 % route.materialized.length)
  refine ⟨first, rest, hresolve, hlength, hsum, hfirst, hrest, ?_⟩
  rw [withinOne_cons_iff hnonneg hfirst hrest]
  constructor
  · rintro (rfl | hahead)
    · -- A single weight takes all, so that nothing is left over.
      rw [← hlength, List.length_singleton]
      decide
    · exact mod_cast hahead
  · exact fun hahead => .inr (mod_cast hahead)

/-- A route with six materialized destinations that say no weights, and one more that is not
materialized. -/
def sixfoldRoute : Route where
  metadata := { name := some "r", ns := some "apps" }
  host := "web"
  domain := { name := "example.com" }
  destinations :=
    ["a", "b", "c", "d", "e", "f"].map (fun guid =>
      { guid, port := some 8080, appGuid := "app", processType := "web" }) ++
    [{ guid := "g", appGuid := "app", processType := "web" }]

/-- Six destinations get 20, 16, 16, 16, 16 and 16, as the division leaves over four. -/
theorem evenSplit_of_sixfoldRoute :
    ∃ first rest, resolveWeights sixfoldRoute true = .ok (first :: rest) ∧
      ((first :: rest).map Int32.toInt).sum = 100 ∧ first.toInt = 20 ∧
      (∀ weight ∈ rest, weight.toInt = 16) ∧ ¬WithinOne (first :: rest) := by
  obtain ⟨first, rest, hresolve, _, hsum, hfirst, hrest, hwithin⟩ :=
    @evenSplit_favours_first sixfoldRoute true (by decide) (by decide) (by decide)
  exact ⟨first, rest, hresolve, hsum, hfirst, hrest, mt hwithin.mp (by decide)⟩

/-- It is not so that any two weights of an even split differ by at most one. -/
theorem evenSplit_not_withinOne :
    ¬ ∀ (route : Route) (requireSum : Bool), route.materialized ≠ [] →
      route.materialized.length ≤ 2147483647 → (∀ d ∈ route.materialized, d.weight = none) →
      ∃ weights, resolveWeights route requireSum = .ok weights ∧
        (weights.map Int32.toInt).sum = 100 ∧ WithinOne weights := by
  intro h
  obtain ⟨weights, hresolve, _, hwithin⟩ :=
    h sixfoldRoute true (by decide) (by decide) (by decide)
  have hsplit : resolveWeights sixfoldRoute true = .ok [20, 16, 16, 16, 16, 16] := by decide
  cases hsplit.symm.trans hresolve
  have hclose : (20 : Int32).toInt ≤ (16 : Int32).toInt + 1 :=
    hwithin 20 (by decide) 16 (by decide)
  exact absurd hclose (by decide)

end Ingress
