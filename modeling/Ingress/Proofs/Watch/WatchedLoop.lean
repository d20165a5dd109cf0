import Ingress.Pass.Loop
import Ingress.Watch.Event

/-!
# The pass loop next to the watch service

The watch service handles its events while the pass loop goes its own way: between any two updates
of routes the loop may be started or asked to stop, time may go by, and the loop may take any turns
that are possible. A `WatchedLoop` has the loop, the turns that it has taken, and what it does
before each of the updates that are still to come, so that events are handled by the program's own
code.

Tokens are conserved (`WatchedLoop.After`): as long as the loop holds its end of the channel, what
it does takes tokens out and loses none, and after an update there have been more tokens than were
taken before it (`WatchedLoop.after_update`).
-/

namespace Ingress

/-- As long as somebody takes tokens, an update succeeds, and there is one more token if there is
room. -/
theorem requestPassUpdate_eq (route : Route) {channel : TriggerChannel}
    (hopen : channel.receiverOpen = true) :
    requestPassUpdate route channel = ((.ok (), [route.changedLine]), { channel with
      pending := if channel.pending < channel.capacity then channel.pending + 1
        else channel.pending }) := by
  obtain ⟨capacity, pending, senderOpen, receiverOpen⟩ := channel
  cases hopen
  unfold requestPassUpdate Route.requestPass TriggerChannel.request
  by_cases hroom : pending < capacity
  · simp only [hroom, Bool.not_true, Bool.false_eq_true, if_false, if_true]
    rfl
  · simp only [hroom, Bool.not_true, Bool.false_eq_true, if_false]
    rfl

/-- As long as somebody takes tokens, an update succeeds, and then there is a token. -/
theorem requestPassUpdate_eq_ok (route : Route) {channel : TriggerChannel}
    (hopen : channel.receiverOpen = true) (hcapacity : 0 < channel.capacity) :
    ∃ new, requestPassUpdate route channel =
        ((.ok (), [route.changedLine]), { channel with pending := channel.pending + new }) ∧
      0 < channel.pending + new := by
  rw [requestPassUpdate_eq route hopen]
  by_cases hroom : channel.pending < channel.capacity
  · rw [if_pos hroom]
    exact ⟨1, rfl, Nat.succ_pos _⟩
  · rw [if_neg hroom]
    exact ⟨0, rfl, Nat.lt_of_lt_of_le hcapacity (Nat.not_lt.mp hroom)⟩

/-- What may happen to the pass loop while the watch service goes on. -/
inductive LoopMove where
  /-- It is started with a resync interval. -/
  | begin (period : Nat)
  /-- Time goes by. -/
  | wait (milliseconds : Nat)
  /-- It is asked to stop. -/
  | askStop
  /-- It takes a turn, if that is possible. -/
  | turn (turn : Turn)
  deriving DecidableEq

/-- The pass loop as the watch service goes on. -/
structure WatchedLoop where
  /-- The loop and its channel. -/
  loop : LoopState := {}
  /-- The turns that it has taken, the first one first. -/
  turns : List Turn := []
  /-- What it does before each of the coming updates. -/
  ahead : List (List LoopMove) := []
  deriving DecidableEq

namespace WatchedLoop

/-- The loop holds its end of the channel, which it drops when it stops. -/
def Holds (w : WatchedLoop) : Prop := w.loop.phase ≠ .stopped

instance (w : WatchedLoop) : Decidable w.Holds := inferInstanceAs (Decidable (_ ≠ _))

/-- How many tokens the loop has taken, each of them for a pass. -/
def taken (w : WatchedLoop) : Nat := w.turns.count .trigger

/-- How many tokens there have been: those that were taken and those in the channel. -/
def tokens (w : WatchedLoop) : Nat := w.taken + w.loop.channel.pending

/-- What a move changes. -/
def move (w : WatchedLoop) : LoopMove → WatchedLoop
  | .begin period => { w with loop := w.loop.start period }
  | .wait milliseconds => { w with loop := { w.loop with now := w.loop.now + milliseconds } }
  | .askStop => { w with loop := { w.loop with shutdown := true } }
  | .turn turn =>
    if w.loop.isReady turn then { w with loop := w.loop.take turn, turns := w.turns ++ [turn] }
    else w

/-- What moves change, one after the other. -/
def moves (w : WatchedLoop) (moves : List LoopMove) : WatchedLoop :=
  moves.foldl move w

/-- The moves that come before the next update. -/
def interlude (w : WatchedLoop) : WatchedLoop :=
  { w with ahead := w.ahead.tail }.moves (w.ahead.headD [])

/-- The update that asks for a pass, after the moves that come before it. -/
def update : RouteUpdate (StateM WatchedLoop) := fun route w =>
  let (result, channel) := requestPassUpdate route w.interlude.loop.channel
  (result, { w.interlude with loop := { w.interlude.loop with channel } })

/-- What updates change, one after the other. -/
def updates (w : WatchedLoop) (routes : List Route) : WatchedLoop :=
  routes.foldl (fun w route => (update route w).2) w

/-- The watch service handles an event. -/
def handle (w : WatchedLoop) (event : WatchEvent) : WatchedLoop :=
  (event.handle update w).2

/-- The watch service handles events, with moves before each of them. -/
def run (w : WatchedLoop) (history : List (List LoopMove × WatchEvent)) : WatchedLoop :=
  history.foldl (fun w (before, event) => (w.moves before).handle event) w

/-! ### What an event comes to -/

/-- Routes are updated one after the other. -/
theorem snd_updateAll (routes : List Route) (w : WatchedLoop) :
    (updateAll update routes w).2 = w.updates routes := by
  induction routes generalizing w with
  | nil => rfl
  | cons route rest ih => exact ih (update route w).2

/-- An event is handled as the updates of its routes. -/
theorem handle_eq_updates (w : WatchedLoop) (event : WatchEvent) :
    w.handle event = w.updates event.routes :=
  snd_updateAll event.routes w

/-! ### What happens to tokens -/

/-- One moment and a later one, at which the loop still holds its end of the channel. -/
structure After (new : Nat) (first second : WatchedLoop) : Prop where
  /-- The loop has held its end of the channel at the first moment. -/
  holds : first.Holds
  /-- What was taken stays taken. -/
  taken_le : first.taken ≤ second.taken
  /-- Of the tokens none is lost, and so many are new. -/
  tokens_eq : second.tokens = first.tokens + new
  /-- Whether somebody takes tokens has not changed. -/
  receiverOpen_eq : second.loop.channel.receiverOpen = first.loop.channel.receiverOpen
  /-- How many tokens the channel can hold has not changed. -/
  capacity_eq : second.loop.channel.capacity = first.loop.channel.capacity

theorem After.trans {m n : Nat} {first second third : WatchedLoop} (h : After m first second)
    (h' : After n second third) : After (m + n) first third where
  holds := h.holds
  taken_le := Nat.le_trans h.taken_le h'.taken_le
  tokens_eq := by rw [h'.tokens_eq, h.tokens_eq, Nat.add_assoc]
  receiverOpen_eq := h'.receiverOpen_eq.trans h.receiverOpen_eq
  capacity_eq := h'.capacity_eq.trans h.capacity_eq

/-- Where nothing happens to the channel and no token is taken, nothing happens to tokens. -/
theorem After.of_eq {first second : WatchedLoop} (hholds : first.Holds)
    (htaken : second.taken = first.taken) (hchannel : second.loop.channel = first.loop.channel) :
    After 0 first second where
  holds := hholds
  taken_le := Nat.le_of_eq htaken.symm
  tokens_eq := by
    unfold tokens
    rw [htaken, hchannel, Nat.add_zero]
  receiverOpen_eq := by rw [hchannel]
  capacity_eq := by rw [hchannel]

/-- Where a token is taken, none is lost. -/
theorem After.of_receive {first second : WatchedLoop} (hholds : first.Holds)
    (htaken : second.taken = first.taken + 1)
    (hchannel : first.loop.channel.receive? = some second.loop.channel) :
    After 0 first second := by
  unfold TriggerChannel.receive? at hchannel
  split at hchannel
  · cases hchannel
  · next hpending =>
    have hsecond := (Option.some.inj hchannel).symm
    constructor
    · exact hholds
    · omega
    · unfold tokens
      rw [htaken, hsecond]
      dsimp only
      omega
    · rw [hsecond]
    · rw [hsecond]

/-- A turn after which the loop has not stopped takes a token or leaves the channel alone. -/
theorem after_turn (w : WatchedLoop) (turn : Turn) (h : (w.move (.turn turn)).Holds) :
    After 0 w (w.move (.turn turn)) := by
  unfold move at h ⊢
  dsimp only at h ⊢
  split at h
  · next hready =>
    rw [if_pos hready]
    unfold LoopState.isReady at hready
    split at hready
    · cases hready
    · cases hready
    · next ticker hphase =>
      have hholds : w.Holds := by simp [Holds, hphase]
      cases turn with
      | shutdown => simp [Holds, LoopState.take, LoopState.stop, hphase] at h
      | exhausted => simp [Holds, LoopState.take, LoopState.stop, hphase] at h
      | resync =>
        refine .of_eq hholds ?_ ?_
        · simp [taken]
        · simp [LoopState.take, hphase]
      | trigger =>
        obtain ⟨channel, hreceive⟩ := Option.isSome_iff_exists.mp hready
        refine .of_receive hholds ?_ ?_
        · simp [taken]
        · simp [LoopState.take, hphase, hreceive]
  · next hready =>
    rw [if_neg hready]
    exact .of_eq h rfl rfl

/-- A move after which the loop has not stopped brings no tokens and loses none. -/
theorem after_move (w : WatchedLoop) (next : LoopMove) (h : (w.move next).Holds) :
    After 0 w (w.move next) := by
  cases next with
  | wait milliseconds => exact .of_eq h rfl rfl
  | askStop => exact .of_eq h rfl rfl
  | turn turn => exact w.after_turn turn h
  | begin period =>
    unfold move LoopState.start at h ⊢
    dsimp only at h ⊢
    split at h
    · next hphase =>
      rw [if_pos hphase]
      exact .of_eq h rfl rfl
    · next hphase =>
      rw [if_neg hphase]
      have hholds : w.Holds := by simp [Holds, Decidable.not_not.mp hphase]
      split at h
      · simp [Holds, LoopState.stop] at h
      · next hperiod =>
        rw [if_neg hperiod]
        exact .of_eq hholds rfl rfl

/-- Moves after which the loop has not stopped bring no tokens and lose none. -/
theorem after_moves (w : WatchedLoop) (next : List LoopMove) (h : (w.moves next).Holds) :
    After 0 w (w.moves next) := by
  induction next generalizing w with
  | nil => exact .of_eq h rfl rfl
  | cons first rest ih =>
    have hrest := ih (w.move first) h
    exact (w.after_move first hrest.holds).trans hrest

/-- The moves before an update, after which the loop has not stopped, bring no tokens and lose
none. -/
theorem after_interlude (w : WatchedLoop) (h : w.interlude.Holds) : After 0 w w.interlude :=
  have hmoves := after_moves { w with ahead := w.ahead.tail } _ h
  ⟨hmoves.holds, hmoves.taken_le, hmoves.tokens_eq, hmoves.receiverOpen_eq, hmoves.capacity_eq⟩

/-- The loop, as long as it holds its end of the channel, can be asked for passes. -/
def Sound (w : WatchedLoop) : Prop :=
  w.Holds → w.loop.channel.receiverOpen = true ∧ 0 < w.loop.channel.capacity

/-- A sound loop stays sound. -/
theorem Sound.of_after {first second : WatchedLoop} (hsound : first.Sound)
    (h : second.Holds → ∃ new, After new first second) : second.Sound := by
  intro hholds
  obtain ⟨new, hafter⟩ := h hholds
  rw [hafter.receiverOpen_eq, hafter.capacity_eq]
  exact hsound hafter.holds

/-- So many more tokens in the channel. -/
def put (w : WatchedLoop) (new : Nat) : WatchedLoop :=
  let channel := { w.loop.channel with pending := w.loop.channel.pending + new }
  { w with loop := { w.loop with channel } }

/-- Tokens that are put into the channel are new. -/
theorem after_put {w : WatchedLoop} (hholds : w.Holds) (new : Nat) : After new w (w.put new) where
  holds := hholds
  taken_le := Nat.le_refl _
  tokens_eq := (Nat.add_assoc _ _ _).symm
  receiverOpen_eq := rfl
  capacity_eq := rfl

/-- After an update there have been more tokens than were taken before it. -/
theorem after_update {w : WatchedLoop} (hsound : w.Sound) (route : Route)
    (h : (update route w).2.Holds) :
    ∃ new, After new w (update route w).2 ∧ w.taken < (update route w).2.tokens := by
  -- The update does not touch the phase of the loop.
  have hholds : w.interlude.Holds := h
  have hinterlude := w.after_interlude hholds
  obtain ⟨hopen, hcapacity⟩ := hsound.of_after (fun _ => ⟨0, hinterlude⟩) hholds
  obtain ⟨new, hrequest, hpending⟩ := requestPassUpdate_eq_ok route hopen hcapacity
  have hupdate : (update route w).2 = w.interlude.put new := by
    unfold update
    rw [hrequest]
    rfl
  have hlt : w.taken < (w.interlude.put new).tokens :=
    Nat.lt_of_le_of_lt hinterlude.taken_le (Nat.lt_add_of_pos_right hpending)
  rw [hupdate]
  exact ⟨0 + new, hinterlude.trans (after_put hholds new), hlt⟩

/-- After updates tokens are conserved, and if there was one then there have been more tokens than
were taken before. -/
theorem after_updates {w : WatchedLoop} (hsound : w.Sound) (routes : List Route)
    (h : (w.updates routes).Holds) :
    ∃ new, After new w (w.updates routes) ∧ (routes = [] → new = 0) ∧
      (routes ≠ [] → w.taken < (w.updates routes).tokens) := by
  induction routes generalizing w with
  | nil => exact ⟨0, .of_eq h rfl rfl, fun _ => rfl, fun hne => absurd rfl hne⟩
  | cons route rest ih =>
    have hnext : (update route w).2.Sound := hsound.of_after fun hholds =>
      (after_update hsound route hholds).imp fun _ => And.left
    obtain ⟨later, hlater, _, _⟩ := ih hnext h
    obtain ⟨new, hafter, hlt⟩ := after_update hsound route hlater.holds
    refine ⟨new + later, hafter.trans hlater, nofun, fun _ => ?_⟩
    calc w.taken
      _ < (update route w).2.tokens := hlt
      _ ≤ (update route w).2.tokens + later := Nat.le_add_right _ _
      _ = (w.updates (route :: rest)).tokens := hlater.tokens_eq.symm

/-- After an event tokens are conserved, and if it was about a route then there have been more
tokens than were taken before. -/
theorem after_handle {w : WatchedLoop} (hsound : w.Sound) (event : WatchEvent)
    (h : (w.handle event).Holds) :
    ∃ new, After new w (w.handle event) ∧ (event.routes = [] → new = 0) ∧
      (event.routes ≠ [] → w.taken < (w.handle event).tokens) := by
  rw [handle_eq_updates] at h ⊢
  exact after_updates hsound event.routes h

/-- Whatever has happened, the loop can be asked for passes as long as it holds its end of the
channel. -/
theorem sound_run {w : WatchedLoop} (hsound : w.Sound)
    (history : List (List LoopMove × WatchEvent)) : (w.run history).Sound := by
  induction history generalizing w with
  | nil => exact hsound
  | cons entry rest ih =>
    obtain ⟨before, event⟩ := entry
    have hbefore : (w.moves before).Sound :=
      hsound.of_after fun hholds => ⟨0, w.after_moves before hholds⟩
    exact ih (hbefore.of_after fun hholds =>
      (after_handle hbefore event hholds).imp fun _ => And.left)

end WatchedLoop

end Ingress
