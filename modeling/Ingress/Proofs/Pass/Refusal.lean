import Ingress.Proofs.Pass.Phase

/-!
# Passes on stores that refuse some keys

A store refuses a key when every operation on it fails and changes nothing, while the operations
on other keys and the listings do what the operations in memory do (`Refuses`). Bringing an object
about then fails if its key is refused and is `settle` if not, so applying objects leaves the store
that applying the others would leave, and notes a failure for each refused one, and likewise for
pruning. `phase_ends` and `servicePhase_ends` put the two together.
-/

namespace Ingress

/-! ### Stores that refuse -/

section Operations

variable {σ μ τ α : Type} {part : σ → μ} {rest : σ → τ}

/-- A run from a state that failed without effect if it was refused, and else ended as the
model's run did. Either way it changed nothing but `part`. -/
structure RefusesAt (part : σ → μ) (rest : σ → τ) (refused : Bool) (s : σ)
    (run : Except StoreError α × σ) (model : Except StoreError α × μ) : Prop where
  /-- Where it is refused it fails, and the part is as it was. -/
  of_refused : refused = true → (∃ error, run.1 = .error error) ∧ part run.2 = part s
  /-- Where it is not refused it is the model's run. -/
  of_granted : refused = false → run.1 = model.1 ∧ part run.2 = model.2
  /-- Nothing else changed. -/
  rest_eq : rest run.2 = rest s

/-- A run that was not refused and ended as the model's run did. -/
theorem RefusesAt.granted {s : σ} {run : Except StoreError α × σ} {model : Except StoreError α × μ}
    (hanswer : run.1 = model.1) (hpart : part run.2 = model.2) (hrest : rest run.2 = rest s) :
    RefusesAt part rest false s run model :=
  ⟨nofun, fun _ => ⟨hanswer, hpart⟩, hrest⟩

/-- What came before a run and changed nothing does not count. -/
theorem RefusesAt.of_unchanged {refused : Bool} {s t : σ} {run : Except StoreError α × σ}
    {model : Except StoreError α × μ} (h : RefusesAt part rest refused t run model)
    (hpart : part t = part s) (hrest : rest t = rest s) :
    RefusesAt part rest refused s run model :=
  ⟨hpart ▸ h.of_refused, h.of_granted, h.rest_eq.trans hrest⟩

/-- An operation that fails without effect if it is refused, and else does what the model does. -/
def Refuses (part : σ → μ) (rest : σ → τ) (refused : Bool)
    (program : StateM σ (Except StoreError α)) (model : StateM μ (Except StoreError α)) : Prop :=
  ∀ s, RefusesAt part rest refused s (program s) (model (part s))

/-- A store in a larger state that refuses some keys, and is a store in memory for the others. -/
structure Store.Refuses {K : Type} [Resource K] (part : σ → MemoryStore K) (rest : σ → τ)
    (refused : ObjectKey → Bool) (store : Store (StateM σ) K) : Prop where
  /-- Reading one object. -/
  get (ns name : String) : Ingress.Refuses part rest (refused ⟨ns, name⟩) (store.get ns name)
    (MemoryStore.store.get ns name)
  /-- Adding an object. -/
  create (object : K) : Ingress.Refuses part rest (refused (Resource.key object))
    (store.create object) (MemoryStore.store.create object)
  /-- Replacing an object. -/
  replace (object : K) : Ingress.Refuses part rest (refused (Resource.key object))
    (store.replace object) (MemoryStore.store.replace object)
  /-- Taking an object away. -/
  delete (ns name : String) : Ingress.Refuses part rest (refused ⟨ns, name⟩)
    (store.delete ns name) (MemoryStore.store.delete ns name)
  /-- Reading many objects. -/
  list (scope : Option String) (selector : String) : Ingress.Refuses part rest false
    (store.list scope selector) (MemoryStore.store.list scope selector)

end Operations

/-! ### What a phase leaves and notes -/

namespace MemoryStore

variable {K : Type} [Managed K] [DecidableEq K]

/-- An object that has a namespace is brought about without an error. -/
theorem exists_settle_eq_ok (s : MemoryStore K) {desired : K} (hns : Resource.ns desired ≠ none) :
    ∃ outcome, (s.settle desired).1 = .ok outcome := by
  obtain ⟨ns, hns⟩ := Option.ne_none_iff_exists'.mp hns
  cases hlive : s.get? (Resource.key desired) with
  | none => exact ⟨_, congrArg Prod.fst (settle_of_get?_eq_none hns hlive)⟩
  | some live =>
    rw [settle_of_get?_eq_some hns hlive]
    split
    · exact ⟨_, rfl⟩
    · exact ⟨_, rfl⟩

/-- The store after a phase that leaves out the objects with refused keys. -/
def convergedBut (s : MemoryStore K) (refused : ObjectKey → Bool) (scope : Option String)
    (desired : List K) (keep : K → Bool) : MemoryStore K :=
  let applied := s.settleAll (desired.filter fun object => !refused (Resource.key object))
  applied.deleteAll ((applied.stale scope (desired.map Resource.key) keep).filter fun object =>
    !refused (Resource.key object))

end MemoryStore

/-- What a failure is about. -/
def ApplyFailure.subject (failure : ApplyFailure) : String × ObjectKey :=
  (failure.kind, ⟨failure.ns, failure.name⟩)

/-- What a note about an object would be about. -/
def Resource.subject {K : Type} [Resource K] (object : K) : String × ObjectKey :=
  (Resource.kind K, Resource.key object)

namespace Progress

/-- What the failures so far are about. -/
def failed (p : Progress) : List (String × ObjectKey) :=
  p.summary.failures.map ApplyFailure.subject

@[simp] theorem failed_applied_ok (p : Progress) (kind : String) (key : ObjectKey)
    (outcome : Outcome) : (p.applied kind key (.ok outcome)).failed = p.failed := by
  cases outcome <;> rfl

@[simp] theorem failed_applied_error (p : Progress) (kind : String) (key : ObjectKey)
    (error : StoreError) :
    (p.applied kind key (.error error)).failed = p.failed ++ [(kind, key)] :=
  List.map_append

@[simp] theorem failed_pruned_error (p : Progress) (kind : String) (key : ObjectKey)
    (error : StoreError) :
    (p.pruned kind key (.error error)).failed = p.failed ++ [(kind, key)] :=
  List.map_append

end Progress

/-- What fails in a phase: the desired objects with refused keys and then the stale ones. -/
def MemoryStore.failedIn {K : Type} [Managed K] [DecidableEq K] (s : MemoryStore K)
    (refused : ObjectKey → Bool) (scope : Option String) (desired : List K) (keep : K → Bool) :
    List (String × ObjectKey) :=
  let applied := s.settleAll (desired.filter fun object => !refused (Resource.key object))
  (desired.filter fun object => refused (Resource.key object)).map Resource.subject ++
    ((applied.stale scope (desired.map Resource.key) keep).filter fun object =>
      refused (Resource.key object)).map Resource.subject

/-- A step of a pass that leaves a store as it is said and has noted so many failures more. -/
structure EndsIn {σ τ K : Type} (part : σ → MemoryStore K) (rest : σ → τ) (s : σ) (p : Progress)
    (run : Progress × σ) (after : MemoryStore K) (failed : List (String × ObjectKey)) : Prop where
  /-- The store it leaves. -/
  part_eq : part run.2 = after
  /-- The failures it has noted. -/
  failed_eq : run.1.failed = p.failed ++ failed
  /-- Nothing else changed. -/
  rest_eq : rest run.2 = rest s

/-- To pick items and map them is to map each to one item or to none. -/
theorem map_filter_eq_flatMap {α β : Type} (pick : α → Bool) (f : α → β) (items : List α) :
    (items.filter pick).map f = items.flatMap fun a => if pick a then [f a] else [] := by
  induction items with
  | nil => rfl
  | cons a items ih =>
    rw [List.flatMap_cons, ← ih]
    cases ha : pick a <;> simp only [List.filter_cons, ha] <;> rfl

/-- Where one step goes on from another, the failures of both have been noted. -/
theorem EndsIn.trans {σ τ K : Type} {part : σ → MemoryStore K} {rest : σ → τ} {s : σ}
    {p : Progress} {first second : Progress × σ} {between after : MemoryStore K}
    {failed failed' : List (String × ObjectKey)}
    (hfirst : EndsIn part rest s p first between failed)
    (hsecond : EndsIn part rest first.2 first.1 second after failed') :
    EndsIn part rest s p second after (failed ++ failed') where
  part_eq := hsecond.part_eq
  failed_eq := by rw [hsecond.failed_eq, hfirst.failed_eq, List.append_assoc]
  rest_eq := hsecond.rest_eq.trans hfirst.rest_eq

/-- A fold of steps ends where the steps of the items end, one after the other. -/
theorem EndsIn.foldlM {σ τ K α : Type} {part : σ → MemoryStore K} {rest : σ → τ}
    {step : Progress → α → StateM σ Progress} {items : List α}
    (next : MemoryStore K → α → MemoryStore K) (failed : α → List (String × ObjectKey))
    (invariant : MemoryStore K → Prop)
    (hstep : ∀ a ∈ items, ∀ p s, invariant (part s) →
      EndsIn part rest s p (step p a s) (next (part s) a) (failed a))
    (hinvariant : ∀ a ∈ items, ∀ s, invariant s → invariant (next s a)) (p : Progress) {s : σ}
    (hs : invariant (part s)) :
    EndsIn part rest s p (items.foldlM step p s) (items.foldl next (part s))
      (items.flatMap failed) := by
  induction items generalizing p s with
  | nil => exact ⟨rfl, (List.append_nil _).symm, rfl⟩
  | cons a items ih =>
    have hfirst := hstep a List.mem_cons_self p s hs
    have hnext : invariant (part (step p a s).2) := by
      rw [hfirst.part_eq]
      exact hinvariant a List.mem_cons_self _ hs
    have hrest := ih (fun b hb => hstep b (List.mem_cons_of_mem _ hb))
      (fun b hb => hinvariant b (List.mem_cons_of_mem _ hb)) (step p a s).1 hnext
    rw [hfirst.part_eq] at hrest
    rw [List.foldlM_cons, bind_apply]
    exact hfirst.trans hrest

/-! ### The steps of a phase -/

section Programs

variable {σ τ K : Type} [Managed K] {part : σ → MemoryStore K} {rest : σ → τ}
  {refused : ObjectKey → Bool} {store : Store (StateM σ) K}

/-- Deleting an object fails if its key is refused, and the failure is noted. -/
theorem pruneObject_ends (h : store.Refuses part rest refused) (p : Progress) (object : K) (s : σ) :
    EndsIn part rest s p (pruneObject store p object s)
      (if !refused (Resource.key object) then (part s).delete (Resource.key object) else part s)
      (if refused (Resource.key object) then [Resource.subject object] else []) := by
  have hdelete := h.delete (Resource.key object).ns (Resource.key object).name s
  unfold pruneObject
  rw [bind_apply]
  cases hrefused : refused (Resource.key object) with
  | true =>
    obtain ⟨⟨error, herror⟩, hpart⟩ := hdelete.of_refused hrefused
    rw [herror]
    exact ⟨hpart, Progress.failed_pruned_error .., hdelete.rest_eq⟩
  | false =>
    obtain ⟨hanswer, hpart⟩ := hdelete.of_granted hrefused
    rw [hanswer]
    exact ⟨hpart, (List.append_nil _).symm, hdelete.rest_eq⟩

/-- Pruning deletes the stale objects but for those with refused keys. -/
theorem prune_ends (h : store.Refuses part rest refused) (scope : Option String)
    (desired : List ObjectKey) (keep : K → Bool) (p : Progress) (s : σ) :
    EndsIn part rest s p (prune store scope desired keep p s)
      ((part s).deleteAll (((part s).stale scope desired keep).filter fun object =>
        !refused (Resource.key object)))
      ((((part s).stale scope desired keep).filter fun object =>
        refused (Resource.key object)).map Resource.subject) := by
  have hlist := h.list scope managedSelector s
  obtain ⟨hanswer, hpart⟩ := hlist.of_granted rfl
  replace hpart : part (store.list scope managedSelector s).2 = part s := hpart
  have hfold := EndsIn.foldlM
    (fun t object => if !refused (Resource.key object) then t.delete (Resource.key object) else t)
    (fun object => if refused (Resource.key object) then [Resource.subject object] else [])
    (fun _ => True)
    (fun object (_ : object ∈ (part s).stale scope desired keep) p s _ =>
      pruneObject_ends h p object s)
    (fun _ _ _ _ => trivial) p (s := (store.list scope managedSelector s).2) trivial
  rw [hpart] at hfold
  unfold prune
  rw [bind_apply, hanswer]
  unfold MemoryStore.deleteAll
  rw [List.foldl_filter, map_filter_eq_flatMap]
  exact ⟨hfold.part_eq, hfold.failed_eq, hfold.rest_eq.trans hlist.rest_eq⟩

/-- An object whose key is free and not refused is created. -/
theorem create_granted (h : store.Refuses part rest refused) {s : σ} {desired : K} {ns : String}
    (hns : Resource.ns desired = some ns)
    (hfree : (part s).get? (Resource.key desired) = none)
    (hgranted : refused (Resource.key desired) = false) :
    RefusesAt part rest false s (store.create desired s)
      (.ok ((part s).stamped (MemoryStore.identified desired)),
        (part s).write (Resource.key desired) (MemoryStore.identified desired)) := by
  have hcreate := h.create desired s
  have hmodel : MemoryStore.store.create desired (part s) = _ :=
    MemoryStore.create_of_get?_eq_none hns hfree
  rwa [hgranted, hmodel] at hcreate

variable [DecidableEq K] [ManagedView K] [LawfulManaged K]

/-- A live object whose key is not refused is brought in line. -/
theorem updateLive_granted (h : store.Refuses part rest refused) {s : σ}
    (hkeyed : (part s).Keyed) {desired live : K} {ns : String}
    (hns : Resource.ns desired = some ns)
    (hlive : (part s).get? (Resource.key desired) = some live)
    (hgranted : refused (Resource.key desired) = false) :
    RefusesAt part rest false s (updateLive store desired live s) ((part s).settle desired) := by
  rw [MemoryStore.settle_of_get?_eq_some hns hlive]
  unfold updateLive
  split
  · exact .granted rfl rfl rfl
  · have hreplace := h.replace (Managed.conform live desired) s
    rw [MemoryStore.key_conform, hkeyed _ _ hlive, hgranted] at hreplace
    obtain ⟨hanswer, hpart⟩ := hreplace.of_granted rfl
    have hmodel : MemoryStore.store.replace (Managed.conform live desired) (part s) = _ :=
      MemoryStore.replace_conform hkeyed hlive
    rw [hmodel] at hanswer hpart
    rw [bind_apply, hanswer]
    exact .granted rfl hpart hreplace.rest_eq

/-- Bringing an object about fails without effect if its key is refused, and else is `settle`. -/
theorem createOrUpdate_refuses (h : store.Refuses part rest refused) {s : σ}
    (hkeyed : (part s).Keyed) {desired : K} (hns : Resource.ns desired ≠ none) :
    RefusesAt part rest (refused (Resource.key desired)) s (createOrUpdate store desired s)
      ((part s).settle desired) := by
  obtain ⟨ns, hns⟩ := Option.ne_none_iff_exists'.mp hns
  have hget := h.get ns (Resource.name desired) s
  rw [← MemoryStore.key_eq_of_ns hns] at hget
  unfold createOrUpdate
  rw [hns]
  change RefusesAt part rest _ s (createOrUpdateIn store ns desired s) _
  unfold createOrUpdateIn
  rw [bind_apply]
  cases hrefused : refused (Resource.key desired) with
  | true =>
    obtain ⟨⟨error, herror⟩, hpart⟩ := hget.of_refused hrefused
    rw [herror]
    exact ⟨fun _ => ⟨⟨error, rfl⟩, hpart⟩, nofun, hget.rest_eq⟩
  | false =>
    obtain ⟨hanswer, hpart⟩ := hget.of_granted hrefused
    replace hanswer : (store.get ns (Resource.name desired) s).1 =
        .ok ((part s).get? (Resource.key desired)) := by
      rw [hanswer, MemoryStore.key_eq_of_ns hns]
      rfl
    replace hpart : part (store.get ns (Resource.name desired) s).2 = part s := hpart
    rw [hanswer]
    refine RefusesAt.of_unchanged ?_ hpart hget.rest_eq
    cases hlive : (part s).get? (Resource.key desired) with
    | some live =>
      have hupdate := updateLive_granted h (s := (store.get ns (Resource.name desired) s).2)
        (by rwa [hpart]) hns (by rwa [hpart]) hrefused
      rwa [hpart] at hupdate
    | none =>
      have hcreate := create_granted h (s := (store.get ns (Resource.name desired) s).2) hns
        (by rwa [hpart]) hrefused
      obtain ⟨hcreated, hstored⟩ := hcreate.of_granted rfl
      rw [MemoryStore.settle_of_get?_eq_none hns hlive]
      dsimp only
      rw [bind_apply, hcreated]
      rw [hpart] at hstored
      exact .granted rfl hstored hcreate.rest_eq

/-- Applying an object brings it about unless its key is refused, and then notes a failure. -/
theorem applyObject_ends (h : store.Refuses part rest refused) {object : K}
    (hns : Resource.ns object ≠ none) (p : Progress) {s : σ} (hkeyed : (part s).Keyed) :
    EndsIn part rest s p (applyObject store p object s)
      (if !refused (Resource.key object) then ((part s).settle object).2 else part s)
      (if refused (Resource.key object) then [Resource.subject object] else []) := by
  have hrun := createOrUpdate_refuses h hkeyed hns
  unfold applyObject
  rw [bind_apply]
  cases hrefused : refused (Resource.key object) with
  | true =>
    obtain ⟨⟨error, herror⟩, hpart⟩ := hrun.of_refused hrefused
    rw [herror]
    exact ⟨hpart, Progress.failed_applied_error .., hrun.rest_eq⟩
  | false =>
    obtain ⟨hanswer, hpart⟩ := hrun.of_granted hrefused
    obtain ⟨outcome, houtcome⟩ := MemoryStore.exists_settle_eq_ok (part s) hns
    rw [hanswer, houtcome]
    exact ⟨hpart, (Progress.failed_applied_ok ..).trans (List.append_nil _).symm, hrun.rest_eq⟩

/-- Applying objects brings about those whose keys are not refused, and notes the others. -/
theorem applyAll_ends (h : store.Refuses part rest refused) {desired : List K}
    (hns : ∀ object ∈ desired, Resource.ns object ≠ none) (p : Progress) {s : σ}
    (hkeyed : (part s).Keyed) :
    EndsIn part rest s p (applyAll store p desired s)
      ((part s).settleAll (desired.filter fun object => !refused (Resource.key object)))
      ((desired.filter fun object => refused (Resource.key object)).map Resource.subject) := by
  unfold MemoryStore.settleAll applyAll
  rw [List.foldl_filter, map_filter_eq_flatMap]
  refine EndsIn.foldlM _ _ MemoryStore.Keyed
    (fun object hobject p s hs => applyObject_ends h (hns object hobject) p hs) ?_ p hkeyed
  intro object _ t ht
  split
  · exact ht.settle object
  · exact ht

/-- A phase on a store that refuses some keys brings about and prunes the objects with others. -/
theorem phase_ends (h : store.Refuses part rest refused) (scope : Option String)
    {desired : List K} (hns : ∀ object ∈ desired, Resource.ns object ≠ none) (keep : K → Bool)
    (p : Progress) {s : σ} (hkeyed : (part s).Keyed) :
    EndsIn part rest s p (phase store scope desired keep p s)
      ((part s).convergedBut refused scope desired keep)
      ((part s).failedIn refused scope desired keep) := by
  have hprune := prune_ends h scope (desired.map Resource.key) keep
    (applyAll store p desired s).1 (applyAll store p desired s).2
  have happly := applyAll_ends h hns p hkeyed
  rw [happly.part_eq] at hprune
  exact happly.trans hprune

end Programs

section Services

variable {σ τ : Type} {part : σ → MemoryStore Service} {rest : σ → τ}
  {refused : ObjectKey → Bool} {store : Store (StateM σ) Service}

/-- Applying routes brings about their services whose keys are not refused, and notes the
others. -/
theorem applyRoutes_ends (h : store.Refuses part rest refused) {labels : Labels}
    {routes : List Route}
    (hns : ∀ service ∈ routes.flatMap (Route.services labels), Resource.ns service ≠ none)
    (p : Progress) {s : σ} (hkeyed : (part s).Keyed) :
    EndsIn part rest s p (applyRoutes store labels p routes s)
      ((part s).settleAll ((routes.flatMap (Route.services labels)).filter fun service =>
        !refused (Resource.key service)))
      (((routes.flatMap (Route.services labels)).filter fun service =>
        refused (Resource.key service)).map Resource.subject) := by
  unfold MemoryStore.settleAll applyRoutes
  rw [List.filter_flatMap, List.filter_flatMap, List.foldl_flatMap, List.map_flatMap]
  refine EndsIn.foldlM _ _ MemoryStore.Keyed (fun route hroute p s hs => ?_)
    (fun _ _ _ ht => ht.settleAll _) p hkeyed
  have hservices : ∀ service ∈ route.services labels, Resource.ns service ≠ none :=
    fun service hservice => hns service (List.mem_flatMap.mpr ⟨route, hroute, hservice⟩)
  have happly := applyAll_ends h hservices { p with log := p.log ++ route.serviceLog } hs
  exact ⟨happly.part_eq, happly.failed_eq, happly.rest_eq⟩

/-- The phase of services on a store that refuses some keys. -/
theorem servicePhase_ends (h : store.Refuses part rest refused) (scope : Option String)
    {labels : Labels} {routes : List Route}
    (hns : ∀ service ∈ routes.flatMap (Route.services labels), Resource.ns service ≠ none)
    (p : Progress) {s : σ} (hkeyed : (part s).Keyed) :
    EndsIn part rest s p (servicePhase store scope labels routes p s)
      ((part s).convergedBut refused scope (routes.flatMap (Route.services labels)) fun _ => false)
      ((part s).failedIn refused scope (routes.flatMap (Route.services labels)) fun _ => false) := by
  have hprune := prune_ends h scope ((routes.flatMap (Route.services labels)).map Resource.key)
    (fun _ => false) (applyRoutes store labels p routes s).1 (applyRoutes store labels p routes s).2
  have happly := applyRoutes_ends h hns p hkeyed
  rw [happly.part_eq] at hprune
  exact happly.trans hprune

end Services

end Ingress
