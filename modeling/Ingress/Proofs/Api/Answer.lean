import Ingress.Api.Router
import Ingress.Proofs.Resource.Metadata

/-!
# What is answered from the latest snapshot

Two requests are answered from the latest snapshot: one that reads the routes and one that posts
labels. `Request.ReadsRoutes` and `Request.Posts` say what makes a request one of them, as the
endpoints look at it; then the answer depends on nothing else, and it is the error of a controller
that has not listed the routes yet exactly where there is no snapshot. Any labels can be posted, as
long as the body that holds them is not too large (`posts_posting`).
-/

namespace Ingress.Api

/-- A request that reads the routes. -/
structure Request.ReadsRoutes (r : Request) : Prop where
  /-- It is a reading request. -/
  method_eq : r.method = "GET"
  /-- It asks for the routes. -/
  path_eq : r.path = "/routes"

/-- The plain request for the routes. -/
def Request.reading : Request where
  method := "GET"
  target := "/routes"

/-- It reads the routes. -/
theorem readsRoutes_reading : Request.reading.ReadsRoutes where
  method_eq := rfl
  path_eq := by
    change String.ofList ((withoutServer "/routes".toList).takeWhile fun c => !endsPath c) =
      "/routes"
    decide

/-- A request that posts labels. -/
structure Request.Posts (r : Request) (labels : Labels) : Prop where
  /-- It is a post. -/
  method_eq : r.method = "POST"
  /-- It asks for the objects. -/
  path_eq : r.path = "/sync"
  /-- Its body is said to be JSON. -/
  isJson : (r.contentType.bind fun t => MediaType.ofText? t.toList).any MediaType.isJson = true
  /-- Its body is not too large. -/
  size_le : r.body.utf8ByteSize ≤ maxBodyBytes
  /-- Its body holds the labels. -/
  body_eq : syncLabels r.body = .ok labels

/-- A body that holds labels. -/
def syncBody (labels : Labels) : Json :=
  labelPath.foldr (fun name inner => .object [(name, inner)]) labels.toJson

/-- The labels in such a body are read back. -/
theorem recovers_syncBody (labels : Labels) : syncShape.Recovers (syncBody labels) labels := by
  unfold syncShape syncBody
  induction labelPath with
  | nil => exact (Labels.recovers labels).nullable.map (·.getD ∅)
  | cons name rest ih =>
    have hnodup : ([(name, some (rest.foldr (fun name inner => Json.object [(name, inner)])
        labels.toJson))].map Prod.fst).Nodup := by simp
    exact Json.Shape.recovers_record name hnodup (List.Subset.refl [name])
      (Json.Fields.recovers_written (Json.holds_written hnodup List.mem_cons_self) ih)

/-- A post of labels. -/
def Request.posting (labels : Labels) : Request where
  method := "POST"
  target := "/sync"
  contentType := some "application/json"
  body := (syncBody labels).compact

/-- A character of a token is alphanumeric, or one of a list. -/
theorem isTokenCharacter_eq : isTokenCharacter =
    fun c => c.isAlphanum || decide (c ∈ "!#$%&'*+-.^_|~".toList) || c.toNat = 0x60 := by
  funext c
  rw [isTokenCharacter, String.contains_char_eq]

/-- A post of labels is one that is answered, unless it is too large. -/
theorem posts_posting {labels : Labels}
    (h : (Request.posting labels).body.utf8ByteSize ≤ maxBodyBytes) :
    (Request.posting labels).Posts labels where
  method_eq := rfl
  path_eq := by
    change String.ofList ((withoutServer "/sync".toList).takeWhile fun c => !endsPath c) = "/sync"
    decide
  isJson := by
    change ((some "application/json").bind fun t => MediaType.ofText? t.toList).any
      MediaType.isJson = true
    unfold MediaType.ofText?
    rw [isTokenCharacter_eq]
    decide +kernel
  size_le := h
  body_eq := by
    unfold Request.posting syncLabels
    rw [(recovers_syncBody labels).ofText_compact]
    rfl

/-- No labels can be posted. -/
theorem posts_posting_empty : (Request.posting ∅).Posts ∅ := by
  refine posts_posting ?_
  simp only [Request.posting, syncBody, labelPath, List.foldr, Labels.toJson, Json.compact,
    Json.tokens, Json.fieldTokens, Json.quoted_eq]
  decide +kernel

variable {K : Type} [Resource K] {s : State K} {r : Request}

/-- A request that reads the routes is answered with them. -/
theorem answer_of_readsRoutes (h : r.ReadsRoutes) : answer s r = answerRoutes s := by
  unfold answer
  rw [h.path_eq]
  unfold answerGet
  rw [h.method_eq]
  rfl

/-- A request that posts labels is answered with the objects that have them. -/
theorem answer_of_posts {labels : Labels} (h : r.Posts labels) :
    answer s r = answerSync s labels := by
  unfold answer
  rw [h.path_eq]
  change (if r.method = "POST" then answerPost s r else _) = _
  rw [if_pos h.method_eq]
  unfold answerPost
  rw [h.isJson, if_neg (by decide), if_neg (Nat.not_lt.mpr h.size_le), h.body_eq]

omit [Resource K] in
/-- What is answered from the latest snapshot is the error of a controller that has none exactly
where there is none. -/
theorem fromSnapshot_eq_uninitialized_iff {reply : List Route → Reply}
    (hreply : ∀ routes, ∃ body, (reply routes).1 = .ok body) :
    (fromSnapshot s reply).1 = ApiError.uninitialized.response ↔ s.snapshots.current = none := by
  unfold fromSnapshot SnapshotRepo.get
  cases s.snapshots.current with
  | none => exact iff_of_true rfl rfl
  | some snapshot =>
    obtain ⟨body, hbody⟩ := hreply snapshot.routes
    refine iff_of_false ?_ nofun
    rw [hbody]
    exact nofun

/-- A request that reads the routes meets the error where there is no snapshot. -/
theorem readsRoutes_uninitialized_iff (h : r.ReadsRoutes) :
    (answer s r).1 = ApiError.uninitialized.response ↔ s.snapshots.current = none := by
  rw [answer_of_readsRoutes h]
  exact fromSnapshot_eq_uninitialized_iff fun _ => ⟨_, rfl⟩

/-- A request that posts labels meets the error where there is no snapshot. -/
theorem posts_uninitialized_iff {labels : Labels} (h : r.Posts labels) :
    (answer s r).1 = ApiError.uninitialized.response ↔ s.snapshots.current = none := by
  rw [answer_of_posts h]
  exact fromSnapshot_eq_uninitialized_iff fun _ => ⟨_, rfl⟩

end Ingress.Api
