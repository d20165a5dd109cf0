import Ingress.Proofs.Store.Settle
import Ingress.Pass.Reconcile

/-!
# A pass, step by step

A pass lists the routes, brings ingress objects in line, then services, and publishes. These
lemmas put the states between the steps in its hands, so that what is known of each step adds up
to what is known of the pass.
-/

namespace Ingress.Reconciler

variable {σ K : Type} [Managed K] [DecidableEq K] {r : Reconciler (StateM σ) K} {s : σ}

/-- What a pass has said before it has done anything. -/
def start (synthesizer : Synthesizer K) (routes : List Route) : Progress where
  log := ⟨.debug, "Reconciling " ++ toString routes.length ++ " routes"⟩ ::
    (synthesizer.synthesize routes).errors.map fun e => ⟨.warn, e.message⟩

/-- Where routes cannot be listed, that is the answer, and nothing else is done. -/
theorem reconcile_of_unlisted {listed : σ} {error : StoreError}
    (hroutes : r.routes s = (.error error, listed)) :
    r.reconcile s = ((.error error, []), listed) := by
  unfold reconcile
  rw [bind_apply, hroutes]
  rfl

/-- Where routes can be listed, a pass goes on with them. -/
theorem reconcile_eq_reconcileListed {routes : List Route} {listed : σ}
    (hroutes : r.routes s = (.ok routes, listed)) :
    r.reconcile s =
      ((.ok (r.reconcileListed routes listed).1.summary, (r.reconcileListed routes listed).1.log),
        (r.reconcileListed routes listed).2) := by
  unfold reconcile
  rw [bind_apply, hroutes]
  rfl

/-- Of the listed routes only those that are not being deleted count. -/
theorem reconcileListed_congr {m : Type → Type} [Monad m] {r : Reconciler m K}
    {first second : List Route} (h : kept first = kept second) :
    r.reconcileListed first = r.reconcileListed second := by
  unfold reconcileListed
  rw [h]

/-- Where routes can be listed, a pass goes through its steps and answers a summary. -/
theorem reconcile_of_listed {routes : List Route} {listed applied finished : σ} {p q : Progress}
    (hroutes : r.routes s = (.ok routes, listed))
    (hingresses : r.reconcileIngresses (r.synthesizer.synthesize (kept routes))
      (start r.synthesizer (kept routes)) listed = (p, applied))
    (hservices : r.reconcileServices (kept routes) p applied = (q, finished)) :
    r.reconcile s =
      ((.ok { q.summary with groupErrors := (r.synthesizer.synthesize (kept routes)).errors },
        q.log), (r.publish (kept routes) finished).2) := by
  have hlisted : r.reconcileListed routes listed =
      ({ q with summary := { q.summary with
          groupErrors := (r.synthesizer.synthesize (kept routes)).errors } },
        (r.publish (kept routes) finished).2) := by
    change (r.reconcileIngresses _ (start r.synthesizer (kept routes)) >>= _) listed = _
    rw [bind_apply, hingresses]
    change (r.reconcileServices (kept routes) p >>= _) applied = _
    rw [bind_apply, hservices]
    rfl
  rw [reconcile_eq_reconcileListed hroutes, hlisted]

end Ingress.Reconciler
