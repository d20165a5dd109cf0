import Ingress.Proofs.Store.Prune

/-!
# Programs that act as a model

The steps of a pass run on any state. `Simulates` says that a program on a larger state does
what a model does on a smaller one, where `embed` says how the smaller state lies in the larger;
everything around it stays as it is. Programs built from steps that simulate simulate the
programs that are built from the models, so a pass on a store that acts as a store in memory can
be followed on the store in memory alone.
-/

namespace Ingress

section Simulation

variable {σ μ α β : Type} {embed : μ → σ}

/-- Wherever a state of the model is embedded the program does what the model does. -/
def Simulates (embed : μ → σ) (program : StateM σ α) (model : StateM μ α) : Prop :=
  ∀ s, program (embed s) = ((model s).1, embed (model s).2)

/-- Every operation of a store is related to the same operation of another. -/
structure Store.Acts {K : Type}
    (related : ∀ {α : Type}, StateM σ (Except StoreError α) →
      StateM μ (Except StoreError α) → Prop)
    (store : Store (StateM σ) K) (model : Store (StateM μ) K) : Prop where
  /-- Reading one object. -/
  get (ns name : String) : related (store.get ns name) (model.get ns name)
  /-- Adding an object. -/
  create (object : K) : related (store.create object) (model.create object)
  /-- Replacing an object. -/
  replace (object : K) : related (store.replace object) (model.replace object)
  /-- Taking an object away. -/
  delete (ns name : String) : related (store.delete ns name) (model.delete ns name)
  /-- Reading many objects. -/
  list (ns : Option String) (selector : String) :
    related (store.list ns selector) (model.list ns selector)

namespace Simulates

theorem pure (a : α) :
    Simulates embed (Pure.pure a : StateM σ α) (Pure.pure a : StateM μ α) :=
  fun _ => rfl

/-- Steps that simulate, one after the other, simulate the steps of the model. -/
theorem bind {first : StateM σ α} {first' : StateM μ α} {next : α → StateM σ β}
    {next' : α → StateM μ β} (hfirst : Simulates embed first first')
    (hnext : ∀ a, Simulates embed (next a) (next' a)) :
    Simulates embed (first >>= next) (first' >>= next') := by
  intro s
  rw [bind_apply, hfirst s]
  exact hnext _ _

/-- A fold of steps that simulate simulates the fold of the model. -/
theorem foldlM {step : β → α → StateM σ β} {step' : β → α → StateM μ β}
    (hstep : ∀ b a, Simulates embed (step b a) (step' b a)) (items : List α) (b : β) :
    Simulates embed (items.foldlM step b) (items.foldlM step' b) := by
  induction items generalizing b with
  | nil => exact pure b
  | cons a items ih =>
    rw [List.foldlM_cons, List.foldlM_cons]
    exact (hstep b a).bind ih

end Simulates

/-- What every step of a fold keeps, the fold keeps. -/
theorem foldlM_invariant (invariant : β → σ → Prop) {step : β → α → StateM σ β}
    {items : List α}
    (hstep : ∀ a ∈ items, ∀ b s, invariant b s → invariant (step b a s).1 (step b a s).2)
    {b : β} {s : σ} (h : invariant b s) :
    invariant (items.foldlM step b s).1 (items.foldlM step b s).2 := by
  induction items generalizing b s with
  | nil => exact h
  | cons a items ih =>
    rw [List.foldlM_cons, bind_apply]
    exact ih (fun a ha => hstep a (List.mem_cons_of_mem _ ha))
      (hstep a List.mem_cons_self b s h)

end Simulation

section Programs

variable {σ μ K : Type} [Managed K] {embed : μ → σ}
  {store : Store (StateM σ) K} {model : Store (StateM μ) K}

/-- Pruning on a store that simulates. -/
theorem prune_simulates (h : store.Acts (Simulates embed) model) (scope : Option String)
    (desired : List ObjectKey) (keep : K → Bool) (p : Progress) :
    Simulates embed (prune store scope desired keep p) (prune model scope desired keep p) := by
  unfold prune
  refine (h.list _ _).bind fun answer => ?_
  cases answer with
  | error _ => exact Simulates.pure _
  | ok live =>
    exact Simulates.foldlM
      (fun _ _ => (h.delete _ _).bind fun _ => Simulates.pure _) _ p

variable [DecidableEq K]

/-- Updating a live object on a store that simulates. -/
theorem updateLive_simulates (h : store.Acts (Simulates embed) model) (desired live : K) :
    Simulates embed (updateLive store desired live) (updateLive model desired live) := by
  unfold updateLive
  dsimp only
  split
  · exact Simulates.pure _
  · refine (h.replace _).bind fun answer => ?_
    cases answer with
    | ok _ => exact Simulates.pure _
    | error _ => exact Simulates.pure _

/-- Updating an object whose creation was lost to another writer, on a store that simulates. -/
theorem updateRaced_simulates (h : store.Acts (Simulates embed) model) (ns : String)
    (desired : K) :
    Simulates embed (updateRaced store ns desired) (updateRaced model ns desired) := by
  unfold updateRaced
  refine (h.get _ _).bind fun answer => ?_
  match answer with
  | .ok (some live) => exact updateLive_simulates h desired live
  | .ok none => exact Simulates.pure _
  | .error _ => exact Simulates.pure _

/-- Creating or updating an object on a store that simulates. -/
theorem createOrUpdate_simulates (h : store.Acts (Simulates embed) model) (desired : K) :
    Simulates embed (createOrUpdate store desired) (createOrUpdate model desired) := by
  unfold createOrUpdate
  split
  · exact Simulates.pure _
  · next ns _ =>
    unfold createOrUpdateIn
    refine (h.get _ _).bind fun answer => ?_
    match answer with
    | .ok (some live) => exact updateLive_simulates h desired live
    | .error _ => exact Simulates.pure _
    | .ok none =>
      refine (h.create _).bind fun answer => ?_
      cases answer with
      | ok _ => exact Simulates.pure _
      | error refusal =>
        cases refusal with
        | alreadyExists _ => exact updateRaced_simulates h ns desired
        | _ => exact Simulates.pure _

/-- Applying objects on a store that simulates. -/
theorem applyAll_simulates (h : store.Acts (Simulates embed) model) (p : Progress)
    (desired : List K) :
    Simulates embed (applyAll store p desired) (applyAll model p desired) :=
  Simulates.foldlM
    (fun _ object => (createOrUpdate_simulates h object).bind fun _ => Simulates.pure _)
    desired p

end Programs

end Ingress
