import Ingress.Proofs.Pass.Phase

/-!
# The account of a phase

A pass keeps only counts and failures. Here the same calls are made once more with everything that
is answered written down (`accountedPhase`): what became of every desired object in order, what the
listing answered, and what became of every object that was to go. On any store whatever, a phase
makes these calls and no others, and its summary is the sum of the account (`phase_accounts` and
`servicePhase_accounts`).
-/

namespace Ingress

/-- Do something with each object in order, and write down what it came to. -/
def noteEach {m : Type → Type} [Monad m] {K α : Type} (operation : K → m α) (objects : List K) :
    m (List (K × α)) :=
  objects.mapM fun object => do return (object, ← operation object)

section Notes

variable {σ K α : Type} (operation : K → StateM σ α)

/-- The first object is dealt with first. -/
theorem noteEach_cons (object : K) (rest : List K) (s : σ) :
    noteEach operation (object :: rest) s =
      ((object, (operation object s).1) :: (noteEach operation rest (operation object s).2).1,
        (noteEach operation rest (operation object s).2).2) := by
  unfold noteEach
  rw [List.mapM_cons]
  rfl

/-- Every object is dealt with once, in order. -/
theorem map_fst_noteEach (objects : List K) (s : σ) :
    (noteEach operation objects s).1.map Prod.fst = objects := by
  induction objects generalizing s with
  | nil => rfl
  | cons object rest ih => rw [noteEach_cons, List.map_cons, ih]

/-- Two lists are dealt with one after the other. -/
theorem noteEach_append (first second : List K) (s : σ) :
    noteEach operation (first ++ second) s =
      ((noteEach operation first s).1 ++
          (noteEach operation second (noteEach operation first s).2).1,
        (noteEach operation second (noteEach operation first s).2).2) := by
  induction first generalizing s with
  | nil => rfl
  | cons object rest ih =>
    rw [List.cons_append, noteEach_cons, ih, noteEach_cons]
    rfl

/-- A fold that takes up what each object comes to takes up what is written down. -/
theorem foldlM_eq_foldl_noteEach {P : Type} (take : P → K → α → P) (objects : List K) (p : P)
    (s : σ) :
    (objects.foldlM (fun p object => do return take p object (← operation object)) p :
        StateM σ P) s =
      ((noteEach operation objects s).1.foldl (fun p entry => take p entry.1 entry.2) p,
        (noteEach operation objects s).2) := by
  induction objects generalizing p s with
  | nil => rfl
  | cons object rest ih =>
    rw [List.foldlM_cons, bind_apply, ih, noteEach_cons]
    rfl

end Notes

/-- What the operations that succeeded have answered, in order. -/
def answersOf {K α : Type} (entries : List (K × Except StoreError α)) : List α :=
  entries.filterMap fun entry => entry.2.toOption

/-- The failure of an operation on an object. -/
def failureOf? {K α : Type} [Resource K] : K × Except StoreError α → Option ApplyFailure
  | (_, .ok _) => none
  | (object, .error error) =>
    let key := Resource.key object
    some { kind := Resource.kind K, ns := key.ns, name := key.name, error }

/-- The failures of operations, in order. -/
def failuresOf {K α : Type} [Resource K] (entries : List (K × Except StoreError α)) :
    List ApplyFailure :=
  entries.filterMap failureOf?

/-- The failure of a listing, if it failed. -/
def listingFailures (K : Type) [Resource K] {α : Type} (scope : Option String) :
    Except StoreError α → List ApplyFailure
  | .ok _ => []
  | .error error => [{ kind := Resource.kind K, ns := scope.getD "", name := "", error }]

/-- Every operation succeeds or fails. -/
theorem length_answersOf_add_length_failuresOf {K α : Type} [Resource K]
    (entries : List (K × Except StoreError α)) :
    (answersOf entries).length + (failuresOf entries).length = entries.length := by
  induction entries with
  | nil => rfl
  | cons entry rest ih =>
    obtain ⟨object, result⟩ := entry
    cases result with
    | ok a =>
      change (answersOf rest).length + 1 + (failuresOf rest).length = rest.length + 1
      omega
    | error error =>
      change (answersOf rest).length + ((failuresOf rest).length + 1) = rest.length + 1
      omega

/-- Every outcome is one of three. -/
theorem count_outcomes (outcomes : List Outcome) :
    outcomes.count .created + outcomes.count .updated + outcomes.count .unchanged =
      outcomes.length := by
  induction outcomes with
  | nil => rfl
  | cons outcome rest ih => cases outcome <;> simp <;> omega

/-- What a phase has asked of a store and what it was answered. -/
structure PhaseAccount (K : Type) where
  /-- The desired objects, each with what became of it. -/
  applied : List (K × Except StoreError Outcome)
  /-- The managed objects, or why they could not be listed. -/
  listing : Except StoreError (List K)
  /-- The objects that were to go, each with what became of it. -/
  pruned : List (K × Except StoreError Unit)

namespace PhaseAccount

variable {K : Type} [Resource K]

/-- The objects of a successful listing that are neither desired nor to be kept. -/
def undesired (account : PhaseAccount K) (desired : List K) (keep : K → Bool) : List K :=
  match account.listing with
  | .error _ => []
  | .ok live => live.filter fun object =>
      Resource.key object ∉ desired.map Resource.key ∧ keep object = false

/-- All failures, in order. -/
def failures (account : PhaseAccount K) (scope : Option String) : List ApplyFailure :=
  failuresOf account.applied ++ listingFailures K scope account.listing ++
    failuresOf account.pruned

end PhaseAccount

namespace Summary

variable {K : Type} [Resource K] (s : Summary)

/-- The summary with what became of more desired objects. -/
def addApplied (entries : List (K × Except StoreError Outcome)) : Summary :=
  { s with
    created := s.created + (answersOf entries).count .created
    updated := s.updated + (answersOf entries).count .updated
    unchanged := s.unchanged + (answersOf entries).count .unchanged
    failures := s.failures ++ failuresOf entries }

/-- The summary with what became of more objects that were to go. -/
def addPruned (entries : List (K × Except StoreError Unit)) : Summary :=
  { s with
    deleted := s.deleted + (answersOf entries).length
    failures := s.failures ++ failuresOf entries }

/-- The summary with one more listing. -/
def addListing (scope : Option String) (listing : Except StoreError (List K)) : Summary :=
  { s with failures := s.failures ++ listingFailures K scope listing }

/-- The summary with one more phase. -/
def addPhase (scope : Option String) (account : PhaseAccount K) : Summary :=
  ((s.addApplied account.applied).addListing scope account.listing).addPruned account.pruned

/-- Where nothing was to be applied, nothing is added. -/
theorem addApplied_nil : s.addApplied ([] : List (K × Except StoreError Outcome)) = s := by
  simp [addApplied, answersOf, failuresOf]

/-- Where nothing was to go, nothing is added. -/
theorem addPruned_nil : s.addPruned ([] : List (K × Except StoreError Unit)) = s := by
  simp [addPruned, answersOf, failuresOf]

/-- A listing that succeeds adds nothing. -/
theorem addListing_ok (scope : Option String) (live : List K) :
    s.addListing scope (.ok live) = s := by
  simp [addListing, listingFailures]

/-- What becomes of two lists is added one after the other. -/
theorem addApplied_append (first second : List (K × Except StoreError Outcome)) :
    s.addApplied (first ++ second) = (s.addApplied first).addApplied second := by
  simp only [addApplied, answersOf, failuresOf, List.filterMap_append, List.count_append,
    List.append_assoc, Nat.add_assoc]

/-- What becomes of two lists is added one after the other. -/
theorem addPruned_append (first second : List (K × Except StoreError Unit)) :
    s.addPruned (first ++ second) = (s.addPruned first).addPruned second := by
  simp only [addPruned, answersOf, failuresOf, List.filterMap_append, List.length_append,
    List.append_assoc, Nat.add_assoc]

end Summary

section Tallies

variable {K : Type} [Managed K]

/-- Taking up what became of a desired object adds it to the summary. -/
theorem summary_applied (p : Progress) (object : K) (result : Except StoreError Outcome) :
    (p.applied (Resource.kind K) (Resource.key object) result).summary =
      p.summary.addApplied [(object, result)] := by
  cases result with
  | error error => rfl
  | ok outcome =>
    unfold Summary.addApplied
    rw [show failuresOf [(object, Except.ok outcome)] = [] from rfl, List.append_nil]
    cases outcome <;> rfl

/-- Taking up what became of desired objects adds it to the summary. -/
theorem summary_foldl_applied (entries : List (K × Except StoreError Outcome)) (p : Progress) :
    (entries.foldl (fun p entry => p.applied (Resource.kind K) (Resource.key entry.1) entry.2)
      p).summary = p.summary.addApplied entries := by
  induction entries generalizing p with
  | nil => exact p.summary.addApplied_nil.symm
  | cons entry rest ih =>
    rw [List.foldl_cons, ih, summary_applied, ← Summary.addApplied_append, List.singleton_append]

/-- Taking up what became of an object that was to go adds it to the summary. -/
theorem summary_pruned (p : Progress) (object : K) (result : Except StoreError Unit) :
    (p.pruned (Resource.kind K) (Resource.key object) result).summary =
      p.summary.addPruned [(object, result)] := by
  cases result with
  | error error => rfl
  | ok done =>
    unfold Summary.addPruned
    rw [show failuresOf [(object, Except.ok done)] = [] from rfl, List.append_nil]
    rfl

/-- Taking up what became of objects that were to go adds it to the summary. -/
theorem summary_foldl_pruned (entries : List (K × Except StoreError Unit)) (p : Progress) :
    (entries.foldl (fun p entry => p.pruned (Resource.kind K) (Resource.key entry.1) entry.2)
      p).summary = p.summary.addPruned entries := by
  induction entries generalizing p with
  | nil => exact p.summary.addPruned_nil.symm
  | cons entry rest ih =>
    rw [List.foldl_cons, ih, summary_pruned, ← Summary.addPruned_append, List.singleton_append]

end Tallies

section Phases

variable {m : Type → Type} [Monad m] {K : Type} [Managed K] [DecidableEq K]

/-- A phase with everything written down. -/
def accountedPhase (store : Store m K) (scope : Option String) (desired : List K)
    (keep : K → Bool) : m (PhaseAccount K) := do
  let applied ← noteEach (createOrUpdate store) desired
  match ← store.list scope managedSelector with
  | .error error => return { applied, listing := .error error, pruned := [] }
  | .ok live =>
    let undesired := live.filter fun object =>
      !((desired.map Resource.key).contains (Resource.key object) || keep object)
    let pruned ← noteEach
      (fun object => store.delete (Resource.key object).ns (Resource.key object).name) undesired
    return { applied, listing := .ok live, pruned }

end Phases

section Accounts

variable {σ K : Type} [Managed K] [DecidableEq K] {store : Store (StateM σ) K}

/-- Applying objects comes to what becomes of each. -/
theorem applyAll_accounts (store : Store (StateM σ) K) (p : Progress) (desired : List K) (s : σ) :
    (applyAll store p desired s).2 = (noteEach (createOrUpdate store) desired s).2 ∧
      (applyAll store p desired s).1.summary =
        p.summary.addApplied (noteEach (createOrUpdate store) desired s).1 := by
  have hfold := foldlM_eq_foldl_noteEach (createOrUpdate store)
    (fun (p : Progress) object => p.applied (Resource.kind K) (Resource.key object)) desired p s
  change applyAll store p desired s = _ at hfold
  rw [hfold]
  exact ⟨rfl, summary_foldl_applied _ p⟩

/-- Pruning after objects have been applied, in whatever way, makes up a phase, as long as they have
been applied like one list. -/
theorem prune_accounts {scope : Option String} {desired : List K} {keep : K → Bool}
    {p q : Progress} {s applied : σ}
    (hstate : applied = (noteEach (createOrUpdate store) desired s).2)
    (hsummary : q.summary =
      p.summary.addApplied (noteEach (createOrUpdate store) desired s).1) :
    (prune store scope (desired.map Resource.key) keep q applied).2 =
        (accountedPhase store scope desired keep s).2 ∧
      (prune store scope (desired.map Resource.key) keep q applied).1.summary =
        p.summary.addPhase scope (accountedPhase store scope desired keep s).1 := by
  unfold accountedPhase prune Summary.addPhase
  rw [bind_apply, bind_apply, bind_apply, ← hstate]
  cases (store.list scope managedSelector applied).1 with
  | error error =>
    refine ⟨rfl, ?_⟩
    change q.summary.addListing scope (Except.error error : Except StoreError (List K)) =
      Summary.addPruned _ ([] : List (K × Except StoreError Unit))
    rw [Summary.addPruned_nil, hsummary]
    rfl
  | ok live =>
    have hfold := foldlM_eq_foldl_noteEach
      (fun object : K => store.delete (Resource.key object).ns (Resource.key object).name)
      (fun (p : Progress) object => p.pruned (Resource.kind K) (Resource.key object))
      (live.filter fun object =>
        !((desired.map Resource.key).contains (Resource.key object) || keep object))
      q (store.list scope managedSelector applied).2
    change List.foldlM (pruneObject store) q _ _ = _ at hfold
    dsimp only
    rw [hfold]
    refine ⟨rfl, (summary_foldl_pruned _ q).trans ?_⟩
    rw [hsummary]
    change _ = Summary.addPruned
      (Summary.addListing _ scope (Except.ok live : Except StoreError (List K))) _
    rw [Summary.addListing_ok]
    rfl

/-- A phase comes to its account. -/
theorem phase_accounts (store : Store (StateM σ) K) (scope : Option String) (desired : List K)
    (keep : K → Bool) (p : Progress) (s : σ) :
    (phase store scope desired keep p s).2 = (accountedPhase store scope desired keep s).2 ∧
      (phase store scope desired keep p s).1.summary =
        p.summary.addPhase scope (accountedPhase store scope desired keep s).1 := by
  obtain ⟨hstate, hsummary⟩ := applyAll_accounts store p desired s
  exact prune_accounts hstate hsummary

/-- Applying the services of routes, route by route, comes to what becomes of each. -/
theorem applyRoutes_accounts (store : Store (StateM σ) Service) (labels : Labels) (p : Progress)
    (routes : List Route) (s : σ) :
    (applyRoutes store labels p routes s).2 =
        (noteEach (createOrUpdate store) (routes.flatMap (Route.services labels)) s).2 ∧
      (applyRoutes store labels p routes s).1.summary = p.summary.addApplied
        (noteEach (createOrUpdate store) (routes.flatMap (Route.services labels)) s).1 := by
  induction routes generalizing p s with
  | nil => exact ⟨rfl, p.summary.addApplied_nil.symm⟩
  | cons route rest ih =>
    obtain ⟨hstate, hsummary⟩ := applyAll_accounts store
      { p with log := p.log ++ route.serviceLog } (route.services labels) s
    unfold applyRoutes
    rw [List.foldlM_cons, bind_apply, List.flatMap_cons, noteEach_append,
      Summary.addApplied_append, ← hstate]
    obtain ⟨hstate', hsummary'⟩ := ih
      (applyAll store { p with log := p.log ++ route.serviceLog } (route.services labels) s).1
      (applyAll store { p with log := p.log ++ route.serviceLog } (route.services labels) s).2
    rw [hsummary] at hsummary'
    exact ⟨hstate', hsummary'⟩

/-- The phase of services comes to its account. -/
theorem servicePhase_accounts (store : Store (StateM σ) Service) (scope : Option String)
    (labels : Labels) (routes : List Route) (p : Progress) (s : σ) :
    (servicePhase store scope labels routes p s).2 =
        (accountedPhase store scope (routes.flatMap (Route.services labels))
          (fun _ => false) s).2 ∧
      (servicePhase store scope labels routes p s).1.summary = p.summary.addPhase scope
        (accountedPhase store scope (routes.flatMap (Route.services labels))
          (fun _ => false) s).1 := by
  obtain ⟨hstate, hsummary⟩ := applyRoutes_accounts store labels p routes s
  exact prune_accounts hstate hsummary

/-- Every desired object is applied once, in order. -/
theorem map_fst_applied (store : Store (StateM σ) K) (scope : Option String) (desired : List K)
    (keep : K → Bool) (s : σ) :
    (accountedPhase store scope desired keep s).1.applied.map Prod.fst = desired := by
  have hnoted := map_fst_noteEach (createOrUpdate store) desired s
  unfold accountedPhase
  rw [bind_apply, bind_apply]
  cases (store.list scope managedSelector (noteEach (createOrUpdate store) desired s).2).1 with
  | error error => exact hnoted
  | ok live => exact hnoted

/-- Every listed object that is neither desired nor to be kept is to go once, in order, and no
other. -/
theorem map_fst_pruned (store : Store (StateM σ) K) (scope : Option String) (desired : List K)
    (keep : K → Bool) (s : σ) :
    (accountedPhase store scope desired keep s).1.pruned.map Prod.fst =
      (accountedPhase store scope desired keep s).1.undesired desired keep := by
  unfold accountedPhase
  rw [bind_apply, bind_apply]
  cases (store.list scope managedSelector (noteEach (createOrUpdate store) desired s).2).1 with
  | error error => rfl
  | ok live =>
    refine (map_fst_noteEach _ _ _).trans (List.filter_congr fun object _ => ?_)
    rw [Bool.not_or, List.contains_eq_mem, Bool.decide_and, decide_not, Bool.decide_eq_false]

/-- Where objects cannot be listed none is to go. -/
theorem pruned_eq_nil_of_unlisted {scope : Option String} {desired : List K} {keep : K → Bool}
    {s : σ} {error : StoreError}
    (h : (accountedPhase store scope desired keep s).1.listing = .error error) :
    (accountedPhase store scope desired keep s).1.pruned = [] := by
  rw [← List.map_eq_nil_iff (f := Prod.fst), map_fst_pruned]
  unfold PhaseAccount.undesired
  rw [h]

end Accounts

/-- What a pass has asked of both stores and what it was answered. -/
structure PassAccount (K : Type) where
  /-- The phase of ingress objects. -/
  ingresses : PhaseAccount K
  /-- The phase of services. -/
  services : PhaseAccount Service

/-- The two phases of a pass with everything written down. -/
def accountedPass {m : Type → Type} [Monad m] {K : Type} [Managed K] [DecidableEq K]
    (synthesizer : Synthesizer K) (scope : Option String) (ingresses : Store m K)
    (services : Store m Service) (routes : List Route) : m (PassAccount K) := do
  let synthesis := synthesizer.synthesize routes
  let first ← accountedPhase ingresses scope synthesis.objects
    (servesFailed synthesis.failedFqdns)
  let second ← accountedPhase services scope (synthesizer.services routes) fun _ => false
  return { ingresses := first, services := second }

namespace PassAccount

variable {K : Type} [Resource K] (account : PassAccount K) (scope : Option String)
  (errors : List GroupError)

/-- The summary that an account comes to. -/
def summary : Summary :=
  { (({} : Summary).addPhase scope account.ingresses).addPhase scope account.services with
    groupErrors := errors }

/-- Every applied object is counted as created, updated or unchanged, or has a failure. -/
theorem count_applied :
    (account.summary scope errors).created + (account.summary scope errors).updated +
        (account.summary scope errors).unchanged +
      ((failuresOf account.ingresses.applied).length +
        (failuresOf account.services.applied).length) =
      account.ingresses.applied.length + account.services.applied.length := by
  have hfirst := length_answersOf_add_length_failuresOf account.ingresses.applied
  have hsecond := length_answersOf_add_length_failuresOf account.services.applied
  rw [← count_outcomes] at hfirst hsecond
  simp only [summary, Summary.addPhase, Summary.addApplied, Summary.addListing,
    Summary.addPruned]
  omega

/-- Every object that was to go is counted as deleted, or has a failure. -/
theorem count_pruned :
    (account.summary scope errors).deleted +
      ((failuresOf account.ingresses.pruned).length +
        (failuresOf account.services.pruned).length) =
      account.ingresses.pruned.length + account.services.pruned.length := by
  have hfirst := length_answersOf_add_length_failuresOf account.ingresses.pruned
  have hsecond := length_answersOf_add_length_failuresOf account.services.pruned
  simp only [summary, Summary.addPhase, Summary.addApplied, Summary.addListing,
    Summary.addPruned]
  omega

/-- The failures are those of both phases. -/
theorem failures_summary : (account.summary scope errors).failures =
    account.ingresses.failures scope ++ account.services.failures scope := by
  simp only [summary, Summary.addPhase, Summary.addApplied, Summary.addListing,
    Summary.addPruned, PhaseAccount.failures, List.append_assoc]
  rfl

end PassAccount

end Ingress
