import Mathlib.Data.List.Induction
import Ingress.Pass.Cluster
import Ingress.Proofs.Watch.LoopRun
import Ingress.Proofs.Watch.WatchedLoop

/-!
# Coalescing loses no change

An update that finds a token in the channel adds none: the token that is there stands for it too.
That loses no change, whatever the order of events. As long as the loop holds its end of the
channel, there is a token exactly if a route has changed since the loop last took one
(`LoopRun.Sound`), and a token that was taken is good for a pass that has not asked for the routes
yet. `LoopRun.coalescing_loses_no_change` says so of every run, with what passes cost: as many of
them as there were ticks and tokens, and none once the loop has stopped.
-/

namespace Ingress

section Histories

variable {σ : Type}

/-- Whether an event asks for a pass or takes a token. -/
def LoopEvent.concernsTokens : LoopEvent σ → Bool
  | .update _ | .turn .trigger => true
  | _ => false

/-- The turns among events. -/
def turnsOf (events : List (LoopEvent σ)) : List Turn :=
  events.filterMap LoopEvent.turn?

/-- The routes that have changed among events. -/
def changedIn (events : List (LoopEvent σ)) : List Route :=
  events.filterMap LoopEvent.route?

/-- A route has changed since the loop last took a token, or at all if it took none. -/
def ChangedSince (events : List (LoopEvent σ)) : Prop :=
  ∃ before route after, events = before ++ .update route :: after ∧ .turn .trigger ∉ after

/-- Nothing has changed before the first event. -/
theorem not_changedSince_nil : ¬ ChangedSince ([] : List (LoopEvent σ)) := by
  rintro ⟨before, route, after, heq, _⟩
  exact List.append_ne_nil_of_right_ne_nil before (List.cons_ne_nil _ _) heq.symm

/-- An update is a change, and taking a token takes care of all changes. -/
theorem changedSince_concat {events : List (LoopEvent σ)} {event : LoopEvent σ} :
    ChangedSince (events ++ [event]) ↔
      (∃ route, event = .update route) ∨ (event ≠ .turn .trigger ∧ ChangedSince events) := by
  constructor
  · rintro ⟨before, route, after, heq, hafter⟩
    rcases List.eq_nil_or_concat after with rfl | ⟨init, last, rfl⟩
    · obtain ⟨_, rfl⟩ := List.append_singleton_inj.mp heq
      exact .inl ⟨route, rfl⟩
    · rw [List.concat_eq_append, ← List.cons_append, ← List.append_assoc] at heq
      obtain ⟨rfl, rfl⟩ := List.append_singleton_inj.mp heq
      rw [List.concat_eq_append, List.mem_append, List.mem_singleton, not_or] at hafter
      exact .inr ⟨fun hevent => hafter.2 hevent.symm, before, route, init, rfl, hafter.1⟩
  · rintro (⟨route, rfl⟩ | ⟨hevent, before, route, after, rfl, hafter⟩)
    · exact ⟨events, route, [], rfl, List.not_mem_nil⟩
    · refine ⟨before, route, after ++ [event], by simp, ?_⟩
      rw [List.mem_append, List.mem_singleton, not_or]
      exact ⟨hafter, fun htrigger => hevent htrigger.symm⟩

end Histories

namespace LoopRun

variable {σ K : Type} [Managed K] [DecidableEq K] {r : Reconciler (StateM σ) K}
variable {l l' : LoopRun σ} {event : LoopEvent σ} {events : List (LoopEvent σ)}

/-- The loop holds its end of the channel, which it drops when it stops. -/
def Holds (l : LoopRun σ) : Prop := l.state.phase ≠ .stopped

/-! ### What happens to tokens -/

/-- What an event has to do with the channel and with those who ask for passes. -/
inductive Touches (l : LoopRun σ) : LoopEvent σ → LoopRun σ → Prop where
  /-- An update asks for a pass and gets an answer. -/
  | asked {l' : LoopRun σ} (route : Route)
      (hchannel : l'.state.channel = (requestPassUpdate route l.state.channel).2)
      (hanswers : l'.answers = l.answers ++ [(requestPassUpdate route l.state.channel).1.1]) :
      Touches l (.update route) l'
  /-- The loop takes a token. -/
  | taken {l' : LoopRun σ} (hchannel : l.state.channel.receive? = some l'.state.channel)
      (hanswers : l'.answers = l.answers) : Touches l (.turn .trigger) l'
  /-- Nothing that concerns tokens. -/
  | spared {l' : LoopRun σ} {event : LoopEvent σ} (hspares : event.concernsTokens = false)
      (hpending : l'.state.channel.pending = l.state.channel.pending)
      (hcapacity : l'.state.channel.capacity = l.state.channel.capacity)
      (hreceiver : l'.state.channel.receiverOpen = l.state.channel.receiverOpen)
      (hanswers : l'.answers = l.answers) : Touches l event l'

/-- An event that leaves the channel alone spares tokens. -/
theorem Touches.of_eq (hspares : event.concernsTokens = false)
    (hchannel : l'.state.channel = l.state.channel) (hanswers : l'.answers = l.answers) :
    l.Touches event l' :=
  .spared hspares (by rw [hchannel]) (by rw [hchannel]) (by rw [hchannel]) hanswers

/-- A turn after which the loop has not stopped takes a token or leaves the channel alone. -/
theorem touches_turn {turn : Turn} (h : l.step? r (.turn turn) = some l') (hholds : l'.Holds) :
    l.Holds ∧ l.Touches (.turn turn) l' := by
  obtain ⟨_, hready, rfl⟩ := step?_turn_eq_some_iff.mp h
  unfold LoopState.isReady at hready
  split at hready
  · cases hready
  · cases hready
  · next ticker hphase =>
    refine ⟨by simp [Holds, hphase], ?_⟩
    cases turn with
    | shutdown => simp [Holds, LoopState.take, LoopState.stop, hphase] at hholds
    | exhausted => simp [Holds, LoopState.take, LoopState.stop, hphase] at hholds
    | resync =>
      refine .of_eq rfl ?_ rfl
      simp [LoopState.take, hphase]
    | trigger =>
      obtain ⟨channel, hreceive⟩ := Option.isSome_iff_exists.mp hready
      refine .taken ?_ rfl
      simp [LoopState.take, hphase, hreceive]

/-- Before an event after which the loop has not stopped it had not stopped either, and of the
events only updates and taking a token have to do with tokens. -/
theorem touches_step? (h : l.step? r event = some l') (hholds : l'.Holds) :
    l.Holds ∧ l.Touches event l' := by
  cases event with
  | wait milliseconds =>
    cases h
    exact ⟨hholds, .of_eq rfl rfl rfl⟩
  | askStop =>
    cases h
    exact ⟨hholds, .of_eq rfl rfl rfl⟩
  | closeTriggers =>
    cases h
    exact ⟨hholds, .spared rfl rfl rfl rfl rfl⟩
  | outside change =>
    cases h
    exact ⟨hholds, .of_eq rfl rfl rfl⟩
  | update route =>
    obtain ⟨_, rfl⟩ := step?_update_eq_some_iff.mp h
    exact ⟨hholds, .asked route rfl rfl⟩
  | turn turn => exact touches_turn h hholds
  | list =>
    obtain ⟨_, rfl⟩ := step?_list_eq_some_iff.mp h
    exact ⟨hholds, .of_eq rfl rfl rfl⟩
  | finish =>
    obtain ⟨_, _, rfl⟩ := step?_finish_eq_some_iff.mp h
    exact ⟨hholds, .of_eq rfl rfl rfl⟩
  | begin period =>
    cases h
    unfold Holds LoopState.start at hholds
    by_cases hphase : l.state.phase = .unstarted
    · refine ⟨by simp [Holds, hphase], ?_⟩
      by_cases hperiod : period = 0
      · simp [hphase, hperiod, LoopState.stop] at hholds
      · exact .of_eq rfl (by simp [LoopState.start, hphase, hperiod]) rfl
    · have hstart : l.state.start period = l.state := if_pos hphase
      rw [if_pos hphase] at hholds
      exact ⟨hholds, .of_eq rfl (by rw [hstart]) rfl⟩

/-- The channel of a loop that has not stopped, after some events. -/
structure Sound (l : LoopRun σ) (events : List (LoopEvent σ)) : Prop where
  /-- The loop takes tokens. -/
  receiverOpen : l.state.channel.receiverOpen = true
  /-- There is room for one token. -/
  capacity_eq : l.state.channel.capacity = 1
  /-- There is at most one. -/
  pending_le : l.state.channel.pending ≤ 1
  /-- There is one exactly if a route has changed since the loop last took one. -/
  pending_iff : l.state.channel.pending = 1 ↔ ChangedSince events
  /-- Every update has succeeded. -/
  answers_eq : l.answers = (changedIn events).map fun _ => .ok ()

/-- A loop that has done nothing is sound. -/
theorem sound_initial (world : σ) : Sound { world } [] where
  receiverOpen := rfl
  capacity_eq := rfl
  pending_le := Nat.zero_le 1
  pending_iff := iff_of_false nofun not_changedSince_nil
  answers_eq := rfl

/-- Whatever event comes next, a sound loop stays sound. -/
theorem Sound.touch (h : l.Sound events) (htouches : l.Touches event l') :
    l'.Sound (events ++ [event]) := by
  have hcapacity := h.capacity_eq
  have hpending := h.pending_le
  cases htouches with
  | asked route hchannel hanswers =>
    rw [requestPassUpdate_eq route h.receiverOpen] at hchannel hanswers
    have hone : (if l.state.channel.pending < l.state.channel.capacity
        then l.state.channel.pending + 1 else l.state.channel.pending) = 1 := by
      split <;> omega
    rw [hone] at hchannel
    constructor
    · rw [hchannel]
      exact h.receiverOpen
    · rw [hchannel]
      exact hcapacity
    · exact Nat.le_of_eq (congrArg TriggerChannel.pending hchannel)
    · rw [hchannel, changedSince_concat]
      exact iff_of_true rfl (.inl ⟨route, rfl⟩)
    · rw [hanswers, h.answers_eq, changedIn, changedIn, List.filterMap_append, List.map_append]
      rfl
  | taken hchannel hanswers =>
    unfold TriggerChannel.receive? at hchannel
    split at hchannel
    · cases hchannel
    · have hnone : l.state.channel.pending - 1 = 0 := by omega
      have hleft := (Option.some.inj hchannel).symm
      rw [hnone] at hleft
      constructor
      · rw [hleft]
        exact h.receiverOpen
      · rw [hleft]
        exact hcapacity
      · rw [hleft]
        exact Nat.zero_le 1
      · rw [hleft, changedSince_concat]
        refine iff_of_false nofun ?_
        rintro (⟨_, hupdate⟩ | ⟨hother, _⟩)
        · cases hupdate
        · exact hother rfl
      · rw [hanswers, h.answers_eq, changedIn, changedIn, List.filterMap_append]
        simp [LoopEvent.route?]
  | spared hspares hsame hcapacity' hreceiver hanswers =>
    constructor
    · rw [hreceiver]
      exact h.receiverOpen
    · rw [hcapacity']
      exact hcapacity
    · rw [hsame]
      exact hpending
    · rw [hsame, h.pending_iff, changedSince_concat]
      constructor
      · intro hchanged
        refine .inr ⟨?_, hchanged⟩
        rintro rfl
        cases hspares
      · rintro (⟨route, rfl⟩ | ⟨_, hchanged⟩)
        · cases hspares
        · exact hchanged
    · have hroute : event.route? = none := by
        cases event with
        | update route => cases hspares
        | _ => rfl
      rw [hanswers, h.answers_eq, changedIn, changedIn, List.filterMap_append,
        List.filterMap_cons_none hroute, List.filterMap_nil, List.append_nil]

/-- Every run from the beginning leaves a loop that has not stopped sound. -/
theorem sound_run? {world : σ} (h : run? r { world } events = some l) (hholds : l.Holds) :
    l.Sound events := by
  induction events using List.reverseRecOn generalizing l with
  | nil =>
    cases h
    exact sound_initial world
  | append_singleton init event ih =>
    obtain ⟨mid, hmid, hlast⟩ := run?_append.mp h
    obtain ⟨hmidHolds, htouches⟩ := touches_step? (run?_singleton.mp hlast) hholds
    exact (ih hmid hmidHolds).touch htouches

/-! ### What happens to passes -/

/-- Of passes, finished or not, there is one more after a tick or a token, and after nothing
else. -/
theorem passes_step? (h : l.step? r event = some l') :
    l'.passes.length + l'.stage.begun = l.passes.length + l.stage.begun +
      ((turnsOf [event]).count .resync + (turnsOf [event]).count .trigger) := by
  cases event with
  | update route =>
    obtain ⟨_, rfl⟩ := step?_update_eq_some_iff.mp h
    rfl
  | turn turn =>
    obtain ⟨hstage, _, rfl⟩ := step?_turn_eq_some_iff.mp h
    rw [hstage]
    cases turn <;> rfl
  | list =>
    obtain ⟨⟨turn, hstage⟩, rfl⟩ := step?_list_eq_some_iff.mp h
    rw [hstage]
    rfl
  | finish =>
    obtain ⟨answer, hstage, rfl⟩ := step?_finish_eq_some_iff.mp h
    rw [hstage, List.length_append]
    rfl
  | _ =>
    cases h
    rfl

/-- In every run there are as many passes as there were ticks and tokens. -/
theorem passes_run? {world : σ} (h : run? r { world } events = some l) :
    l.passes.length + l.stage.begun =
      (turnsOf events).count .resync + (turnsOf events).count .trigger := by
  induction events using List.reverseRecOn generalizing l with
  | nil =>
    cases h
    rfl
  | append_singleton init event ih =>
    obtain ⟨mid, hmid, hlast⟩ := run?_append.mp h
    have hturns : turnsOf (init ++ [event]) = turnsOf init ++ turnsOf [event] :=
      List.filterMap_append
    rw [passes_step? (run?_singleton.mp hlast), ih hmid, hturns, List.count_append,
      List.count_append]
    omega

/-- A pass that is due stays due until it asks for the routes. -/
theorem due_run? {turn : Turn} (hdue : l.stage = .due turn) (h : l.run? r events = some l')
    (hlist : .list ∉ events) : l'.stage = .due turn := by
  induction events generalizing l with
  | nil =>
    cases h
    exact hdue
  | cons event rest ih =>
    obtain ⟨next, hstep, hrest⟩ := run?_cons.mp h
    rw [List.mem_cons, not_or] at hlist
    refine ih ?_ hrest hlist.2
    cases event with
    | update route =>
      obtain ⟨_, rfl⟩ := step?_update_eq_some_iff.mp hstep
      exact hdue
    | turn other =>
      obtain ⟨hwaiting, _⟩ := step?_turn_eq_some_iff.mp hstep
      rw [hdue] at hwaiting
      cases hwaiting
    | list => exact absurd rfl hlist.1
    | finish =>
      obtain ⟨_, hworking, _⟩ := step?_finish_eq_some_iff.mp hstep
      rw [hdue] at hworking
      cases hworking
    | _ =>
      cases hstep
      exact hdue

/-- The loop has stopped, and no pass is left to finish. -/
structure Over (l : LoopRun σ) : Prop where
  /-- It has stopped. -/
  phase_eq : l.state.phase = .stopped
  /-- It is not in the middle of a pass. -/
  stage_eq : l.stage = .waiting

/-- A turn that runs no pass is the end. -/
theorem over_of_turn {turn : Turn} (h : l.step? r (.turn turn) = some l')
    (hturn : turn.runsPass = false) : l'.Over := by
  obtain ⟨_, hready, rfl⟩ := step?_turn_eq_some_iff.mp h
  unfold LoopState.isReady at hready
  split at hready
  · cases hready
  · cases hready
  · next ticker hphase =>
    cases turn with
    | shutdown => exact ⟨by simp [LoopState.take, LoopState.stop, hphase], rfl⟩
    | exhausted => exact ⟨by simp [LoopState.take, LoopState.stop, hphase], rfl⟩
    | resync => cases hturn
    | trigger => cases hturn

/-- After the end the loop does nothing. -/
theorem Over.step? (hover : l.Over) (h : l.step? r event = some l') :
    event.ofLoop = false ∧ l'.Over := by
  cases event with
  | update route =>
    obtain ⟨_, rfl⟩ := step?_update_eq_some_iff.mp h
    exact ⟨rfl, hover.phase_eq, hover.stage_eq⟩
  | turn turn =>
    obtain ⟨_, hready, _⟩ := step?_turn_eq_some_iff.mp h
    simp [LoopState.isReady, hover.phase_eq] at hready
  | list =>
    obtain ⟨⟨turn, hdue⟩, _⟩ := step?_list_eq_some_iff.mp h
    rw [hover.stage_eq] at hdue
    cases hdue
  | finish =>
    obtain ⟨_, hworking, _⟩ := step?_finish_eq_some_iff.mp h
    rw [hover.stage_eq] at hworking
    cases hworking
  | begin period =>
    cases h
    have hstart : l.state.start period = l.state := if_pos (by simp [hover.phase_eq])
    exact ⟨rfl, by rw [hstart, hover.phase_eq], hover.stage_eq⟩
  | _ =>
    cases h
    exact ⟨rfl, hover.phase_eq, hover.stage_eq⟩

/-- After the end the loop never does anything again. -/
theorem Over.run? (hover : l.Over) (h : l.run? r events = some l') :
    ∀ event ∈ events, event.ofLoop = false := by
  induction events generalizing l with
  | nil => exact List.forall_mem_nil _
  | cons event rest ih =>
    obtain ⟨next, hstep, hrest⟩ := run?_cons.mp h
    obtain ⟨hevent, hnext⟩ := hover.step? hstep
    exact List.forall_mem_cons.mpr ⟨hevent, ih hnext hrest⟩

/-! ### Runs from the beginning -/

/-- A change that no pass has seen: until a pass asks for the routes after an update, there is a
token in the channel, or the loop is about to ask for them with a token that it has taken after the
update. -/
theorem heeded {world : σ} (h : run? r { world } events = some l) (hholds : l.Holds)
    {before after : List (LoopEvent σ)} {route : Route}
    (hevents : events = before ++ .update route :: after) (hlist : .list ∉ after) :
    l.state.channel.pending = 1 ∨ (.turn .trigger ∈ after ∧ l.stage = .due .trigger) := by
  have hsound := sound_run? h hholds
  by_cases htrigger : .turn .trigger ∈ after
  · refine .inr ⟨htrigger, ?_⟩
    obtain ⟨early, late, rfl⟩ := List.append_of_mem htrigger
    rw [hevents, ← List.cons_append, ← List.append_assoc] at h
    obtain ⟨mid, _, hrest⟩ := run?_append.mp h
    obtain ⟨next, hturn, hlate⟩ := run?_cons.mp hrest
    obtain ⟨_, _, rfl⟩ := step?_turn_eq_some_iff.mp hturn
    have hlate' : .list ∉ late := fun hmem =>
      hlist (List.mem_append_right early (List.mem_cons_of_mem _ hmem))
    exact due_run? rfl hlate hlate'
  · exact .inl (hsound.pending_iff.mpr ⟨before, route, after, hevents, htrigger⟩)

/-- What a run has come to as long as the loop holds its end of the channel. -/
structure Coalesces (l : LoopRun σ) (events : List (LoopEvent σ)) : Prop where
  /-- There is at most one token. -/
  pending_le : l.state.channel.pending ≤ 1
  /-- There is one exactly if a route has changed since the loop last took one. -/
  pending_iff : l.state.channel.pending = 1 ↔ ChangedSince events
  /-- Until a pass asks for the routes after an update, there is a token, or the loop is about to
  ask for them with a token that it has taken after the update. -/
  heeds : ∀ before route after, events = before ++ .update route :: after → .list ∉ after →
    l.state.channel.pending = 1 ∨ (.turn .trigger ∈ after ∧ l.stage = .due .trigger)
  /-- Every update has succeeded. -/
  answers_eq : l.answers = (changedIn events).map fun _ => .ok ()

/-- In whatever order routes change, time goes by, others write, and the loop is started, takes
turns, lists the routes, finishes passes with whatever result and is asked to stop: as long as it
holds its end of the channel, no change is lost to coalescing. There are as many passes, the one
that is under way included, as there were ticks and tokens taken, and after a turn that stops the
loop there are no more turns and no more passes. -/
theorem coalescing_loses_no_change (r : Reconciler (StateM σ) K) (world : σ)
    {events : List (LoopEvent σ)} {l : LoopRun σ} (hrun : run? r { world } events = some l) :
    (l.Holds → l.Coalesces events) ∧
    l.passes.length + l.stage.begun =
      (turnsOf events).count .resync + (turnsOf events).count .trigger ∧
    ∀ before turn after, events = before ++ .turn turn :: after → turn.runsPass = false →
      ∀ event ∈ after, event.ofLoop = false := by
  refine ⟨fun hholds => ?_, passes_run? hrun, ?_⟩
  · have hsound := sound_run? hrun hholds
    exact {
      pending_le := hsound.pending_le
      pending_iff := hsound.pending_iff
      heeds := fun before route after hevents hlist => heeded hrun hholds hevents hlist
      answers_eq := hsound.answers_eq }
  · intro before turn after hevents hturn
    rw [hevents] at hrun
    obtain ⟨mid, _, hrest⟩ := run?_append.mp hrun
    obtain ⟨next, hstep, hafter⟩ := run?_cons.mp hrest
    exact (over_of_turn hstep hturn).run? hafter

/-- A route that changes all the time. -/
def restlessRoute : Route where
  metadata := { name := some "restless", ns := some "apps" }
  host := "restless"
  domain := { name := "example.com" }

/-- A cluster whose routes cannot be listed the first time. -/
def sluggishCluster : Cluster HttpProxy where
  listing := { routes := [restlessRoute], failures := [.notFound "routes"] }

/-- A reconciler of proxies on a cluster. -/
def sluggishReconciler : Reconciler (StateM (Cluster HttpProxy)) HttpProxy :=
  Cluster.reconciler { renderer := HttpProxy.renderer none false, labels := ∅ } none

/-- The route changes before the first tick, while its pass fails, and after the token has been
taken. -/
def restlessEvents : List (LoopEvent (Cluster HttpProxy)) := [
  .begin 60000, .update restlessRoute, .turn .resync, .list, .update restlessRoute, .finish,
  .turn .trigger, .update restlessRoute]

/-- The three changes of the sample route cost one token that has been taken and one that has not,
and the pass that failed counts as much as the one that is due. -/
theorem coalescing_loses_no_change_restlessRoute :
    ∃ l, run? sluggishReconciler { world := sluggishCluster } restlessEvents = some l ∧
      l.Coalesces restlessEvents ∧ l.state.channel.pending = 1 ∧
      l.passes.length + l.stage.begun = 2 := by
  obtain ⟨l, hrun, hholds⟩ : ∃ l, run? sluggishReconciler { world := sluggishCluster }
      restlessEvents = some l ∧ l.Holds := ⟨_, rfl, nofun⟩
  obtain ⟨hcoalesces, hpasses, _⟩ :=
    coalescing_loses_no_change sluggishReconciler sluggishCluster hrun
  have hchanged : ChangedSince restlessEvents :=
    ⟨restlessEvents.take 7, restlessRoute, [], rfl, List.not_mem_nil⟩
  exact ⟨l, hrun, hcoalesces hholds, (hcoalesces hholds).pending_iff.mpr hchanged, hpasses⟩

end LoopRun

end Ingress
