import Ingress.Proofs.Pass.Ledger
import Ingress.Proofs.Pass.Racer

/-!
# No update is lost

Throughout a race the ledger is in order, and what a call has read last is in it (`Sound`). So a
replacement that is accepted, being of the version that its call has read last, overwrites the very
object that the call has read (`run_loses_no_update`).
-/

namespace Ingress

namespace Race

variable {K : Type} [Managed K] [DecidableEq K]

/-- What holds of the members of a list and of one more holds where that one takes a place. -/
theorem forall_mem_set {α : Type} {items : List α} {index : Nat} {item : α} {property : α → Prop}
    (hitems : ∀ other ∈ items, property other) (hitem : property item) :
    ∀ other ∈ items.set index item, property other := by
  intro other hother
  rcases List.mem_or_eq_of_mem_set hother with hold | rfl
  · exact hitems other hold
  · exact hitem

/-- What holds at every point of a race. -/
structure Sound (race : Race K) : Prop where
  /-- The ledger is in order. -/
  ledger : Ledger race.store race.ledger
  /-- Every call is on its track. -/
  onTrack : ∀ racer ∈ race.racers, racer.OnTrack
  /-- What a call has read was stored by a write. -/
  seen : ∀ racer ∈ race.racers, ∀ live, racer.seen = some live →
    live ∈ race.ledger.map LedgerEntry.stored
  /-- Before versions wrap around, what was replaced is what the call had read last. -/
  fresh : race.ledger.length < UInt64.size → ∀ entry ∈ race.ledger, entry.verb = .replace →
    ∃ live, entry.found = some live ∧ entry.seen = some live

/-- A race starts out sound. -/
theorem sound_start (desired : List K) : Sound (start desired) where
  ledger := .empty
  onTrack racer hracer := by
    obtain ⟨object, -, rfl⟩ := List.mem_map.mp hracer
    exact Racer.onTrack_start object
  seen racer hracer live hlive := by
    obtain ⟨object, -, rfl⟩ := List.mem_map.mp hracer
    cases hlive
  fresh _ entry hentry := nomatch hentry

/-- A deletion keeps a race sound. -/
theorem Sound.delete {race : Race K} (h : Sound race) (key : ObjectKey) :
    Sound { race with store := race.store.delete key } where
  ledger := h.ledger.delete key
  onTrack := h.onTrack
  seen := h.seen
  fresh := h.fresh

variable [ManagedView K] [LawfulManaged K]

/-- The move of a call keeps a race sound. -/
theorem Sound.turned {race after : Race K} (h : Sound race) {index : Nat} {racer : Racer K}
    (hracer : racer ∈ race.racers) (hturned : Turned race index racer after) : Sound after := by
  cases hturned with
  | idle => exact h
  | @kept next hnext hseen =>
    refine ⟨h.ledger, forall_mem_set h.onTrack hnext, forall_mem_set h.seen ?_, h.fresh⟩
    intro live hlive
    rcases hseen live hlive with hold | ⟨key, hread⟩
    · exact h.seen racer hracer live hold
    · exact h.ledger.live key live hread
  | @wrote next hnext hseen key object entry hstored hentry =>
    have hmore : ∀ other ∈ race.racers, ∀ live, other.seen = some live →
        live ∈ (race.ledger ++ [entry]).map LedgerEntry.stored := by
      intro other hother live hlive
      rw [List.map_append]
      exact List.mem_append_left _ (h.seen other hother live hlive)
    refine ⟨h.ledger.write key hstored, forall_mem_set h.onTrack hnext,
      forall_mem_set hmore fun live hlive => hmore racer hracer live (hseen ▸ hlive), ?_⟩
    intro hbound other hother hreplace
    have hlength : race.ledger.length < UInt64.size := by
      rw [List.length_append] at hbound
      omega
    rcases List.mem_append.mp hother with hold | hnew
    · exact h.fresh hlength other hold hreplace
    · obtain rfl := List.mem_singleton.mp hnew
      -- The version that was compared stands for one object in the ledger.
      obtain ⟨found, live, hfound, hentryFound, hracerSeen, hentrySeen, hversion⟩ :=
        hentry hreplace
      have hsame : found = live := h.ledger.eq_of_version_eq hlength
        (h.ledger.live key found hfound) (h.seen racer hracer live hracerSeen) hversion
      exact ⟨live, hsame ▸ hentryFound, hentrySeen⟩

/-- A move keeps a race sound. -/
theorem Sound.step {race : Race K} (h : Sound race) (move : Move) : Sound (race.step move) := by
  cases move with
  | delete key => exact h.delete key
  | call index =>
    unfold Race.step
    dsimp only
    split
    · next racer hracer =>
      have hmem : racer ∈ race.racers := List.mem_of_getElem? hracer
      exact h.turned hmem (Race.turned race index (h.onTrack racer hmem))
    · exact h

/-- Every race is sound at every point. -/
theorem sound_run (desired : List K) (schedule : List Move) : Sound (run desired schedule) := by
  induction schedule using List.reverseRecOn with
  | nil => exact sound_start desired
  | append_singleton before move ih =>
    unfold run
    rw [List.foldl_concat]
    exact ih.step move

/-- No write of a race is lost: a replacement that is accepted overwrites what its call has read
last. No version is stamped twice. A call whose object has a namespace is over after four moves,
and ends in an outcome, a conflict or an object that is gone, never in one that exists already. -/
theorem run_loses_no_update (desired : List K) (schedule : List Move)
    (hstamps : (run desired schedule).ledger.length < UInt64.size) :
    (∀ entry ∈ (run desired schedule).ledger, entry.verb = .replace →
      ∃ live, entry.found = some live ∧ entry.seen = some live) ∧
    ((run desired schedule).ledger.map LedgerEntry.version).Nodup ∧
    ∀ index object, desired[index]? = some object → Resource.ns object ≠ none →
      ∃ racer, (run desired schedule).racers[index]? = some racer ∧ racer.desired = object ∧
        (∀ result, racer.rest = .done result →
          (∃ outcome, result = .ok outcome) ∨
            ∃ subject, result = .error (.conflict subject) ∨ result = .error (.notFound subject)) ∧
        (4 ≤ schedule.count (.call index) → ∃ result, racer.rest = .done result) := by
  have hsound := sound_run desired schedule
  refine ⟨hsound.fresh hstamps, hsound.ledger.nodup hstamps, fun index object hobject hns => ?_⟩
  obtain ⟨racer, hracer, hdesired, hends⟩ := racers_run desired schedule hobject
  have htrack : racer.OnTrack := hsound.onTrack racer (List.mem_of_getElem? hracer)
  refine ⟨racer, hracer, hdesired, fun result hrest => ?_, fun hmoves => ?_⟩
  · exact htrack.endsWell (hdesired ▸ hns) hrest
  · rw [Nat.sub_eq_zero_of_le hmoves] at hends
    exact hends.exists_done

/-- A service of one name on a port. -/
def sampleService (port : Int32) : Service where
  metadata := { name := some "web", ns := some "apps" }
  spec := some { ports := some [{ port }] }

/-- Four calls for one service, each on another port. -/
def sampleDesired : List Service :=
  [sampleService 80, sampleService 81, sampleService 82, sampleService 83]

/-- The second call loses the creation to the first and replaces what that made. The third has read
what the first made, which is deleted and made anew by the fourth before the third replaces it. -/
def sampleSchedule : List Move :=
  [.call 0, .call 1, .call 0, .call 1, .call 1, .call 2, .call 1, .delete ⟨"apps", "web"⟩,
    .call 3, .call 3, .call 2]

/-- In the sample the second call replaces what it has read and is over, and the third replaces
nothing. -/
theorem run_sampleSchedule_loses_no_update :
    (run sampleDesired sampleSchedule).ledger.map LedgerEntry.verb =
      [.create, .replace, .create] ∧
    (∀ entry ∈ (run sampleDesired sampleSchedule).ledger, entry.verb = .replace →
      ∃ live, entry.found = some live ∧ entry.seen = some live) ∧
    ((run sampleDesired sampleSchedule).ledger.map LedgerEntry.version).Nodup ∧
    ∃ racer, (run sampleDesired sampleSchedule).racers[1]? = some racer ∧
      ∃ result, racer.rest = .done result := by
  have hlength : (run sampleDesired sampleSchedule).ledger.length < UInt64.size := by decide +kernel
  obtain ⟨hfresh, hnodup, hends⟩ := run_loses_no_update sampleDesired sampleSchedule hlength
  obtain ⟨racer, hracer, -, -, hover⟩ := hends 1 (sampleService 81) rfl (by decide)
  exact ⟨rfl, hfresh, hnodup, racer, hracer, hover (by decide)⟩

end Race

end Ingress
