import Ingress.Proofs.Synthesis.Group

/-!
# Synthesis without a look at sums

Of the two renderers one asks explicit weights to sum to a hundred and the other does not. Without
the check a hostname comes to the same, unless a sum failed it: then it has a group, or fails for
weights that are incomplete (`HostGroup.relaxes_ofRoutes?`).
-/

namespace Ingress

/-- An outcome that is good, or fails for incomplete weights. -/
def Lenient {α : Type} (good : α → Prop) (outcome : Except SynthesisError α) : Prop :=
  (∃ a, outcome = .ok a ∧ good a) ∨ ∃ route, outcome = .error (.partialWeights route)

/-- What a computation comes to with a check of sums, and what without it. -/
inductive Relaxes {α : Type} (good : α → Prop) :
    Except SynthesisError α → Except SynthesisError α → Prop where
  /-- Where no sum is at fault, the check changes nothing. -/
  | same {outcome : Except SynthesisError α}
    (h : ∀ route, outcome ≠ .error (.weightSum route)) : Relaxes good outcome outcome
  /-- Where a sum is at fault, the computation goes on without the check. -/
  | sum {route : String} {outcome : Except SynthesisError α} (h : Lenient good outcome) :
    Relaxes good (.error (.weightSum route)) outcome

/-- What follows a good step without the check is lenient, if the step is. -/
theorem Lenient.bind {α β : Type} {good : α → Prop} {good' : β → Prop}
    {first : Except SynthesisError α} {next : α → Except SynthesisError β}
    (h : Lenient good first) (hnext : ∀ a, first = .ok a → good a → Lenient good' (next a)) :
    Lenient good' (first >>= next) := by
  rcases h with ⟨a, rfl, ha⟩ | ⟨route, rfl⟩
  · exact hnext a rfl ha
  · exact .inr ⟨route, rfl⟩

namespace Relaxes

variable {α β : Type} {good : α → Prop} {good' : β → Prop}

/-- Steps that are relaxed make up a computation that is. -/
theorem bind {strict lax : Except SynthesisError α} {next next' : α → Except SynthesisError β}
    (h : Relaxes good strict lax) (hsame : ∀ a, lax = .ok a → Relaxes good' (next a) (next' a))
    (hsum : ∀ a, lax = .ok a → good a → Lenient good' (next' a)) :
    Relaxes good' (strict >>= next) (lax >>= next') := by
  cases h with
  | same h =>
    cases strict with
    | ok a => exact hsame a rfl
    | error cause => exact .same fun route heq => h route (by cases heq; rfl)
  | sum h => exact .sum (h.bind hsum)

/-- A traversal whose steps are relaxed is, and something good comes of it where a sum was at
fault, if its steps fail without the check only for incomplete weights. -/
theorem mapM {γ : Type} {strict lax : γ → Except SynthesisError α} {items : List γ}
    (hitems : ∀ item ∈ items, Relaxes good (strict item) (lax item))
    (hlax : ∀ item ∈ items, ∀ cause, lax item = .error cause →
      ∃ route, cause = .partialWeights route) :
    Relaxes (fun results => ∃ a ∈ results, good a) (items.mapM strict) (items.mapM lax) := by
  induction items with
  | nil => exact .same nofun
  | cons item items ih =>
    rw [List.forall_mem_cons] at hitems hlax
    rw [List.mapM_cons, List.mapM_cons]
    refine hitems.1.bind (fun a _ => ?_) fun a _ ha => ?_
    · refine (ih hitems.2 hlax.2).bind (fun rest _ => .same nofun) fun rest _ hrest => ?_
      obtain ⟨a', ha', hgood⟩ := hrest
      exact .inl ⟨_, rfl, a', List.mem_cons_of_mem _ ha', hgood⟩
    -- The head is good already, so the rest has only not to fail for another reason.
    · cases htail : items.mapM lax with
      | ok rest => exact .inl ⟨_, rfl, a, List.mem_cons_self, ha⟩
      | error cause =>
        obtain ⟨item', hitem', hfails⟩ := exists_of_mapM_eq_error htail
        obtain ⟨route, rfl⟩ := hlax.2 item' hitem' cause hfails
        exact .inr ⟨route, rfl⟩

end Relaxes

/-- Weights that fail for their sum are resolved without the check. -/
theorem relaxes_resolveWeights (route : Route) :
    Relaxes (fun _ => True) (resolveWeights route true) (resolveWeights route false) := by
  rw [resolveWeights_eq, resolveWeights_eq]
  dsimp only
  split
  · exact .same nofun
  · next hcomplete =>
    rw [if_neg (fun hsum : (false = true) ∧ _ => Bool.false_ne_true hsum.1)]
    split
    · next hsum =>
      refine .sum (.inl ⟨explicitWeights route.materialized, if_pos ?_, trivial⟩)
      have hlength : (explicitWeights route.materialized).length = route.materialized.length :=
        of_not_not fun hne => hcomplete ⟨hsum.2.1, hne⟩
      refine ⟨fun hnone => hsum.2.1 ?_, length_explicitWeights_eq_iff.mp hlength⟩
      rw [hlength, hnone]
      rfl
    · refine .same fun other => ?_
      split
      · exact nofun
      · split <;> exact nofun

/-- A route whose rule fails for a sum has a rule without the check. -/
theorem Rule.relaxes_ofRoute? (sole : Bool) (route : Route) :
    Relaxes (fun rule : Option Rule => rule.isSome) (ofRoute? true sole route)
      (ofRoute? false sole route) := by
  unfold ofRoute?
  split
  · exact (relaxes_resolveWeights route).bind (fun _ _ => .same nofun)
      fun weights _ _ => .inl ⟨_, rfl, rfl⟩
  · split <;> exact .same nofun

/-- Without the check a route has no rule only for incomplete weights. -/
theorem Rule.eq_partialWeights_of_ofRoute? {sole : Bool} {route : Route} {cause : SynthesisError}
    (h : ofRoute? false sole route = .error cause)
    (hcount : route.materialized.length ≤ 2147483647) : cause = .partialWeights route.name := by
  unfold ofRoute? at h
  split at h
  · next hsome =>
    cases hweights : resolveWeights route false with
    | ok weights =>
      rw [hweights] at h
      cases h
    | error other =>
      rw [hweights] at h
      cases h
      exact eq_partialWeights_of_resolveWeights hweights hsome hcount
  · split at h <;> cases h

/-- Disagreement has nothing to do with sums. -/
theorem checkAgreement_ne_weightSum (first : Route) (routes : List Route) (route : String) :
    checkAgreement first routes ≠ .error (.weightSum route) := by
  induction routes with
  | nil =>
    intro h
    cases h
  | cons other rest ih =>
    intro h
    unfold checkAgreement at h
    split at h
    · cases h
    · split at h
      · cases h
      · exact ih h

/-- Routes that cannot share a hostname do not fail for a sum. -/
theorem validateGroup_ne_weightSum (routes : List Route) (route : String) :
    validateGroup routes ≠ .error (.weightSum route) := by
  cases routes with
  | nil => exact nofun
  | cons first rest => exact checkAgreement_ne_weightSum first (first :: rest) route

/-- A hostname that fails for a sum has a group without the check, or fails for incomplete
weights; any other comes to the same. -/
theorem HostGroup.relaxes_ofRoutes? (fqdn : String) {routes : List Route}
    (hcount : ∀ route ∈ routes, route.materialized.length ≤ 2147483647) :
    Relaxes (fun group : Option HostGroup => group.isSome) (ofRoutes? true fqdn routes)
      (ofRoutes? false fqdn routes) := by
  have hvalid : Relaxes (fun _ => False) (validateGroup routes) (validateGroup routes) :=
    .same (validateGroup_ne_weightSum routes)
  have hrules := Relaxes.mapM
    (fun route (_ : route ∈ inMatchOrder routes) =>
      Rule.relaxes_ofRoute? ((inMatchOrder routes).length = 1) route)
    fun route hroute cause hcause => ⟨_, Rule.eq_partialWeights_of_ofRoute? hcause
      (hcount route ((inMatchOrder_perm routes).mem_iff.mp hroute))⟩
  unfold ofRoutes?
  refine hvalid.bind (fun _ _ => ?_) nofun
  refine hrules.bind (fun results _ => .same fun route => ?_) fun results hresults hgood => ?_
  · split <;> exact nofun
  · obtain ⟨result, hresult, hsome⟩ := hgood
    obtain ⟨rule, rfl⟩ := Option.isSome_iff_exists.mp hsome
    obtain ⟨route, hroute, _⟩ := exists_of_mem_right (forall₂_of_mapM hresults) hresult
    have hrule : rule ∈ results.filterMap id := List.mem_filterMap.mpr ⟨_, hresult, rfl⟩
    obtain ⟨first, others, hfirst⟩ := List.exists_cons_of_ne_nil (List.ne_nil_of_mem hroute)
    obtain ⟨head, rest, hhead⟩ := List.exists_cons_of_ne_nil (List.ne_nil_of_mem hrule)
    rw [hfirst, hhead]
    exact .inl ⟨_, rfl, rfl⟩

end Ingress
