import Ingress.Proofs.Pass.Account
import Ingress.Proofs.Pass.Reconcile

/-!
# Passes on any stores

A world is what passes leave behind where nothing at all is known of the stores: their state is of
any type, and in every pass their operations are any programs on it. They may fail, answer what is
not so, change what they were not asked to change, or record what they are asked. So what holds for
every world holds however the stores behave. A pass on a world answers the sum of its account and
leaves the stores as the account does (`reconcile_of_ok`).
-/

namespace Ingress

/-- What passes on any stores leave behind. -/
structure World (σ : Type) where
  /-- The state of the stores. -/
  stores : σ
  /-- The snapshots. -/
  snapshots : SnapshotRepo := {}

/-- One pass: what the listing of routes answers, and how the stores behave. -/
structure WorldPass (σ K : Type) where
  /-- The routes, or why they cannot be listed. -/
  listing : Except StoreError (List Route)
  /-- The ingress objects. -/
  ingresses : Store (StateM σ) K
  /-- The services. -/
  services : Store (StateM σ) Service

/-- A store that counts its calls and refuses all of them. -/
def refusingStore (K : Type) : Store (StateM Nat) K where
  get _ _ := refuse
  create _ := refuse
  replace _ := refuse
  delete _ _ := refuse
  list _ _ := refuse
where
  /-- Count a call and refuse it. -/
  refuse {α : Type} : StateM Nat (Except StoreError α) := fun calls =>
    (.error (.request .undecodable), calls + 1)

namespace World

variable {σ K : Type}

/-- A store of the world. -/
def store {J : Type} (store : Store (StateM σ) J) : Store (StateM (World σ)) J :=
  store.focus stores fun world stores => { world with stores }

/-- A store of the world does what it does on the state of the stores alone. -/
theorem store_acts {J : Type} (operations : Store (StateM σ) J) (snapshots : SnapshotRepo) :
    (store operations).Acts (Simulates fun stores => { stores, snapshots }) operations where
  get _ _ _ := rfl
  create _ _ := rfl
  replace _ _ := rfl
  delete _ _ _ := rfl
  list _ _ _ := rfl

/-- A phase on a store of the world comes to its account on the state of the stores. -/
theorem phase_store {J : Type} [Managed J] [DecidableEq J] (operations : Store (StateM σ) J)
    (scope : Option String) (desired : List J) (keep : J → Bool) (p : Progress)
    (world : World σ) :
    ∃ q, phase (store operations) scope desired keep p world =
        (q, { world with
          stores := (accountedPhase operations scope desired keep world.stores).2 }) ∧
      q.summary = p.summary.addPhase scope
        (accountedPhase operations scope desired keep world.stores).1 := by
  obtain ⟨hstate, hsummary⟩ := phase_accounts operations scope desired keep p world.stores
  refine ⟨_, ?_, hsummary⟩
  rw [← hstate]
  exact phase_simulates (store_acts operations world.snapshots) scope desired keep p world.stores

/-- The phase of services on a store of the world comes to its account on the state of the
stores. -/
theorem servicePhase_store (operations : Store (StateM σ) Service) (scope : Option String)
    (labels : Labels) (routes : List Route) (p : Progress) (world : World σ) :
    ∃ q, servicePhase (store operations) scope labels routes p world =
        (q, { world with
          stores := (accountedPhase operations scope (routes.flatMap (Route.services labels))
            (fun _ => false) world.stores).2 }) ∧
      q.summary = p.summary.addPhase scope (accountedPhase operations scope
        (routes.flatMap (Route.services labels)) (fun _ => false) world.stores).1 := by
  obtain ⟨hstate, hsummary⟩ :=
    servicePhase_accounts operations scope labels routes p world.stores
  refine ⟨_, ?_, hsummary⟩
  rw [← hstate]
  exact servicePhase_simulates (store_acts operations world.snapshots) scope labels routes p
    world.stores

variable [Managed K] [DecidableEq K] (synthesizer : Synthesizer K) (scope : Option String)

/-- The reconciler of a pass. -/
def reconciler (pass : WorldPass σ K) : Reconciler (StateM (World σ)) K where
  synthesizer
  routes := fun world => (pass.listing, world)
  ingresses := store pass.ingresses
  services := store pass.services
  publish routes := fun world => ((), { world with snapshots := world.snapshots.put { routes } })
  scope

/-- One pass. -/
def reconcile (world : World σ) (pass : WorldPass σ K) :
    (Except StoreError Summary × Log) × World σ :=
  (reconciler synthesizer scope pass).reconcile world

/-- What a pass on some routes asks of the stores and is answered. -/
def account (pass : WorldPass σ K) (routes : List Route) : StateM σ (PassAccount K) :=
  accountedPass synthesizer scope pass.ingresses pass.services routes

/-- A run of passes. -/
def run (world : World σ) (passes : List (WorldPass σ K)) : World σ :=
  passes.foldl (fun world pass => (world.reconcile synthesizer scope pass).2) world

/-- One more pass goes on from where the run has come to. -/
theorem run_snoc (world : World σ) (earlier : List (WorldPass σ K)) (pass : WorldPass σ K) :
    world.run synthesizer scope (earlier ++ [pass]) =
      ((world.run synthesizer scope earlier).reconcile synthesizer scope pass).2 :=
  List.foldl_concat ..

variable {pass : WorldPass σ K} (world : World σ)

/-- A pass whose routes cannot be listed changes nothing. -/
theorem reconcile_of_error {error : StoreError} (h : pass.listing = .error error) :
    world.reconcile synthesizer scope pass = ((.error error, []), world) := by
  have hroutes : (reconciler synthesizer scope pass).routes world = (.error error, world) := by
    rw [← h]
    rfl
  exact Reconciler.reconcile_of_unlisted hroutes

/-- A pass whose routes can be listed answers the sum of its account, leaves the stores as the
account does, and publishes the routes that it worked on. -/
theorem reconcile_of_ok {listed : List Route} (h : pass.listing = .ok listed) :
    ∃ log, world.reconcile synthesizer scope pass =
      ((.ok ((account synthesizer scope pass (Reconciler.kept listed) world.stores).1.summary scope
          (synthesizer.synthesize (Reconciler.kept listed)).errors), log),
        { stores := (account synthesizer scope pass (Reconciler.kept listed) world.stores).2
          snapshots := world.snapshots.put { routes := Reconciler.kept listed } }) := by
  have hroutes : (reconciler synthesizer scope pass).routes world = (.ok listed, world) := by
    rw [← h]
    rfl
  obtain ⟨p, hingresses, hfirst⟩ := phase_store pass.ingresses scope
    (synthesizer.synthesize (Reconciler.kept listed)).objects
    (servesFailed (synthesizer.synthesize (Reconciler.kept listed)).failedFqdns)
    (Reconciler.start synthesizer (Reconciler.kept listed)) world
  obtain ⟨q, hservices, hsecond⟩ := servicePhase_store pass.services scope synthesizer.labels
    (Reconciler.kept listed) p _
  have hpass := Reconciler.reconcile_of_listed hroutes hingresses hservices
  rw [hsecond, hfirst] at hpass
  exact ⟨q.log, hpass⟩

end World

end Ingress
