import Ingress.Proofs.Watch.WatchedLoop
import Ingress.Watch.Feed

/-!
# Which events prompt a pass

An event asks for a pass once for every route that it is about. So an event about any route prompts
a pass, whatever the loop does in the meantime, and an event about none leaves everything as it is:
after a restart of the watch that finds no routes there is a token only if there was one before
(`WatchedLoop.handle_prompts_iff`).
-/

namespace Ingress

/-- Of the events only a restart that finds no routes is about none. -/
theorem WatchEvent.routes_eq_nil_iff {event : WatchEvent} :
    event.routes = [] ↔ event = .restarted [] := by
  cases event <;> simp [routes]

namespace WatchedLoop

/-- From one moment to a later one the loop has taken a token, for which it runs a pass, or there is
a token for it to take. -/
def Prompted (begun done : WatchedLoop) : Prop :=
  begun.taken < done.taken ∨ 0 < done.loop.channel.pending

/-- A pass is prompted where there have been more tokens than were taken at first. -/
theorem After.prompted_iff_taken_lt {new : Nat} {begun done : WatchedLoop}
    (h : After new begun done) : Prompted begun done ↔ begun.taken < done.tokens := by
  have htaken := h.taken_le
  unfold Prompted tokens
  omega

/-- Whatever has happened before, whatever the loop does while an event is handled and afterwards:
as long as it holds its end of the channel, the event has prompted a pass if and only if it was not
a restart that found no routes, or there was a token when it began. -/
theorem handle_prompts_iff (ahead : List (List LoopMove))
    (history : List (List LoopMove × WatchEvent)) (idle later : List LoopMove)
    (event : WatchEvent) :
    let begun := (run { ahead } history).moves idle
    let done := (begun.handle event).moves later
    done.Holds →
      (Prompted begun done ↔ event ≠ .restarted [] ∨ 0 < begun.loop.channel.pending) := by
  intro begun done hholds
  have hsound : begun.Sound :=
    (sound_run (w := { ahead }) (fun _ => ⟨rfl, Nat.one_pos⟩) history).of_after
      fun hbegun => ⟨0, after_moves _ idle hbegun⟩
  have hlater := after_moves (begun.handle event) later hholds
  obtain ⟨new, hafter, hnone, hsome⟩ := after_handle hsound event hlater.holds
  have htokens : done.tokens = begun.tokens + new :=
    hlater.tokens_eq.trans hafter.tokens_eq
  rw [(hafter.trans hlater).prompted_iff_taken_lt, ne_eq, ← WatchEvent.routes_eq_nil_iff]
  by_cases hroutes : event.routes = []
  · rw [htokens, hnone hroutes]
    unfold tokens
    simp only [hroutes, not_true_eq_false, false_or]
    omega
  · refine iff_of_true ?_ (.inl hroutes)
    rw [hlater.tokens_eq]
    exact hsome hroutes

/-- A route that is about to be the last one. -/
def lastRoute : Route where
  metadata := { name := some "last", ns := some "apps" }
  host := "last"
  domain := { name := "example.com" }

/-- The loop has made its first pass and a pass for the only route. That the route is gone prompts a
pass if the watch reports it. If the watch was lost meanwhile then the next list is empty, and
nothing is prompted. -/
theorem handle_prompts_iff_lastRoute :
    let begun := (run {}
      [([.begin 60000, .turn .resync], .applied lastRoute)]).moves [.turn .trigger]
    begun.turns = [.resync, .trigger] ∧
    Prompted begun (begun.handle (.deleted lastRoute)) ∧
    (WatchState.takePage [] { items := [], metadata := { resourceVersion := some "6" } }).1 =
      some (.event (.restarted [])) ∧
    ¬ Prompted begun (begun.handle (.restarted [])) := by
  intro begun
  have hdeleted := handle_prompts_iff [] [([.begin 60000, .turn .resync], .applied lastRoute)]
    [.turn .trigger] [] (.deleted lastRoute) (by decide)
  have hrestarted := handle_prompts_iff [] [([.begin 60000, .turn .resync], .applied lastRoute)]
    [.turn .trigger] [] (.restarted []) (by decide)
  refine ⟨by decide, hdeleted.mpr (.inl nofun), rfl, fun h => ?_⟩
  rcases hrestarted.mp h with hne | hpending
  · exact hne rfl
  · exact absurd hpending (by decide)

end WatchedLoop

end Ingress
