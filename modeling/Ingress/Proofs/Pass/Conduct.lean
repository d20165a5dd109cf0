import Ingress.Proofs.Pass.Ownership
import Ingress.Proofs.Store.Record

/-!
# Bringing an object about on any store

Nothing is known of the store here: it answers as it likes. What is known is how it is asked.
`Follows` says which operation may come next, by the answers so far, and `Reports` what is reported
once there is nothing left to ask. Both hold of every run of the script of bringing an object about
(`conducts_createOrUpdateIn`), so they hold on every store (`createOrUpdate_conducted`), a store of
replies that a cluster gives included. All errors are passed on but one: a creation that another
writer won is not reported, and if the object that the other writer created is as desired, success
is reported though nothing was written.
-/

namespace Ingress

/-- An operation that changes the store. -/
def StoreOperation.isWrite {K : Type} : StoreOperation K → Bool
  | .create _ | .replace _ | .delete _ _ => true
  | .get _ _ | .list _ _ => false

/-- The last of the operations that change the store. -/
def lastWrite? {K : Type} (calls : List (AnsweredOperation K)) : Option (AnsweredOperation K) :=
  calls.reverse.find? fun call => call.operation.isWrite

/-- The last write is the last operation if that is a write, else the last write before. -/
theorem lastWrite?_concat (before : List (AnsweredOperation K)) (call : AnsweredOperation K) :
    lastWrite? (before ++ [call]) =
      if call.operation.isWrite then some call else lastWrite? before := by
  unfold lastWrite?
  rw [List.reverse_concat, List.find?_cons]
  split <;> simp_all

/-- The creation of a desired object that another writer won. -/
def AnsweredOperation.LosesCreation {K : Type} (desired : K) (call : AnsweredOperation K) : Prop :=
  ∃ subject, call = ⟨.create desired, .error (.alreadyExists subject)⟩

section Conduct

variable {K : Type} [Managed K] [ManagedView K] {ns : String} {desired : K}
  {calls history : List (AnsweredOperation K)} {result : Except StoreError Outcome}

/-- What is reported when there is nothing left to ask. -/
inductive Reports (ns : String) (desired : K) :
    List (AnsweredOperation K) → Except StoreError Outcome → Prop where
  /-- The object was created. -/
  | created {before : List (AnsweredOperation K)} {stored : K} :
    Reports ns desired (before ++ [⟨.create desired, .ok stored⟩]) (.ok .created)
  /-- The object that was read is as desired. -/
  | unchanged {before : List (AnsweredOperation K)} {live : K}
    (hagrees : Managed.Agrees live desired) :
    Reports ns desired (before ++ [⟨.get ns (Resource.name desired), .ok (some live)⟩])
      (.ok .unchanged)
  /-- The object was replaced. -/
  | updated {before : List (AnsweredOperation K)} {body stored : K} :
    Reports ns desired (before ++ [⟨.replace body, .ok stored⟩]) (.ok .updated)
  /-- The object that another writer created is gone. -/
  | gone (before : List (AnsweredOperation K)) {call : AnsweredOperation K} {error : StoreError}
    (hlost : call.LosesCreation desired)
    (hconflict : error = .conflict (ns ++ "/" ++ Resource.name desired))
    (hretryable : error.retryable) :
    Reports ns desired (before ++ [call] ++ [⟨.get ns (Resource.name desired), .ok none⟩])
      (.error error)
  /-- An operation has failed. -/
  | failed {before : List (AnsweredOperation K)} {call : AnsweredOperation K} {error : StoreError}
    (hanswer : call.answer = .error error) (hother : ¬call.LosesCreation desired) :
    Reports ns desired (before ++ [call]) (.error error)

/-- If the last operation has failed, its error is reported. -/
theorem Reports.eq_error {before : List (AnsweredOperation K)} {call : AnsweredOperation K}
    (h : Reports ns desired (before ++ [call]) result) {error : StoreError}
    (hanswer : call.answer = .error error) : result = .error error := by
  have hlast : (before ++ [call]).getLast? = some call := List.getLast?_concat
  generalize before ++ [call] = history at h hlast
  cases h <;> rw [List.getLast?_concat] at hlast <;> obtain rfl := Option.some.inj hlast
  case failed hsame _ =>
    cases hsame.symm.trans hanswer
    rfl
  all_goals cases hanswer

variable [ForeignPart K]

/-- A live object in which the desired one was written over all that this program owns, and nothing
else. -/
structure Overwrites (live desired body : K) : Prop where
  /-- Labels, annotations and owners are the desired ones; all other metadata, the version that was
  read and the uid among them, are those of the live object. -/
  metadata_eq : Resource.metadata body = { Resource.metadata live with
    labels := (Resource.metadata desired).labels
    annotations := (Resource.metadata desired).annotations
    ownerReferences := (Resource.metadata desired).ownerReferences }
  /-- It asks for what is desired. -/
  asks : ManagedView.AsksSame body desired
  /-- What this program does not write is that of the live object, the status included. -/
  foreign_eq : ForeignPart.foreign body = ForeignPart.foreign live

/-- Bringing a live object in line writes the desired one over what this program owns. -/
theorem overwrites_conform [LawfulManaged K] (live desired : K) :
    Overwrites live desired (Managed.conform live desired) where
  metadata_eq := LawfulManaged.metadata_conform live desired
  asks := ((LawfulManaged.conform_eq_self_iff _ _).mp
    (LawfulManaged.conform_conform live desired)).asks
  foreign_eq := ForeignPart.foreign_conform live desired

/-- The operations that may follow those that were made, by their answers. -/
inductive Follows (ns : String) (desired : K) :
    List (AnsweredOperation K) → StoreOperation K → Prop where
  /-- First the object is read. -/
  | get : Follows ns desired [] (.get ns (Resource.name desired))
  /-- It is created if it was not there. -/
  | create : Follows ns desired [⟨.get ns (Resource.name desired), .ok none⟩] (.create desired)
  /-- It is read again if another writer has created it first. -/
  | getAgain (subject : String) :
    Follows ns desired
      [⟨.get ns (Resource.name desired), .ok none⟩,
        ⟨.create desired, .error (.alreadyExists subject)⟩]
      (.get ns (Resource.name desired))
  /-- It is replaced if it was just read and differs from what it has to be. -/
  | replace {before : List (AnsweredOperation K)} {live body : K} (hdiffers : body ≠ live)
    (hbody : Overwrites live desired body) :
    Follows ns desired (before ++ [⟨.get ns (Resource.name desired), .ok (some live)⟩])
      (.replace body)

/-- Every operation is one that may follow those before. -/
def Asked (ns : String) (desired : K) (calls : List (AnsweredOperation K)) : Prop :=
  ∀ before call after, calls = before ++ call :: after → Follows ns desired before call.operation

/-- How a desired object is brought about: what was asked, and what is reported in the end. -/
structure Conducted (desired : K) (calls : List (AnsweredOperation K))
    (result : Except StoreError Outcome) : Prop where
  /-- An object without a namespace is refused before anything is asked. -/
  refused : Resource.ns desired = none →
    calls = [] ∧ result = .error (.missingNamespace (Resource.name desired))
  /-- Every operation is one that may follow those before. -/
  asked : ∀ ns, Resource.ns desired = some ns → Asked ns desired calls
  /-- What is reported is what the operations come to. -/
  reports : ∀ ns, Resource.ns desired = some ns → Reports ns desired calls result
  /-- Nothing follows a replacement, so that there is one at most. -/
  replace_last : ∀ before body answer after,
    calls = before ++ ⟨.replace body, answer⟩ :: after → after = []
  /-- All errors are reported as they are, apart from that of a creation that another writer won. -/
  errors : ∀ call ∈ calls, ∀ error, call.answer = .error error →
    result = .error error ∨ call.LosesCreation desired
  /-- Where success is reported, the last write has succeeded, or was a creation that another writer
  won, and the object was left as the other writer created it. -/
  success : ∀ outcome, result = .ok outcome → ∀ call, lastWrite? calls = some call →
    call.answer.isOk ∨ outcome = .unchanged ∧ call.LosesCreation desired

/-- Nothing has been asked yet. -/
theorem asked_nil : Asked ns desired [] := by
  intro before call after h
  exact absurd h.symm (List.append_ne_nil_of_right_ne_nil before (List.cons_ne_nil call after))

/-- One more operation may be asked that follows those before. -/
theorem Asked.snoc {call : AnsweredOperation K} (h : Asked ns desired calls)
    (hcall : Follows ns desired calls call.operation) : Asked ns desired (calls ++ [call]) := by
  intro before other after hsplit
  -- Either the new operation is meant, or it is the last of those that come after.
  rcases List.eq_nil_or_concat after with rfl | ⟨rest, last, rfl⟩
  · obtain ⟨rfl, hlast⟩ := List.append_inj' hsplit rfl
    obtain rfl := List.singleton_inj.mp hlast
    exact hcall
  · rw [List.concat_eq_append, ← List.cons_append, ← List.append_assoc] at hsplit
    exact h before other rest (List.append_inj' hsplit rfl).1

/-- What an operation follows was answered with an object or none, or is a creation that another
writer won. -/
theorem Follows.last_cases {before : List (AnsweredOperation K)} {last : AnsweredOperation K}
    {operation : StoreOperation K} (h : Follows ns desired (before ++ [last]) operation) :
    (∃ live?, last = ⟨.get ns (Resource.name desired), .ok live?⟩) ∨ last.LosesCreation desired := by
  have hlast : (before ++ [last]).getLast? = some last := List.getLast?_concat
  generalize before ++ [last] = history at h hlast
  cases h with
  | get => cases hlast
  | create => exact .inl ⟨_, (Option.some.inj hlast).symm⟩
  | getAgain subject => exact .inr ⟨subject, (Option.some.inj hlast).symm⟩
  | replace =>
    rw [List.getLast?_concat] at hlast
    exact .inl ⟨_, (Option.some.inj hlast).symm⟩

/-- Nothing follows a replacement. -/
theorem Asked.replace_last (h : Asked ns desired calls) {before after : List (AnsweredOperation K)}
    {body : K} {answer : Except StoreError K}
    (hsplit : calls = before ++ ⟨.replace body, answer⟩ :: after) : after = [] := by
  cases after with
  | nil => rfl
  | cons next rest =>
    have hnext := h (before ++ [⟨.replace body, answer⟩]) next rest (by simpa using hsplit)
    rcases hnext.last_cases with ⟨_, hread⟩ | ⟨_, hcreation⟩
    · cases hread
    · cases hcreation

/-- All errors are reported but that of a creation that another writer won. -/
theorem Asked.error_cases (h : Asked ns desired calls) (hreports : Reports ns desired calls result)
    {call : AnsweredOperation K} (hcall : call ∈ calls) {error : StoreError}
    (hanswer : call.answer = .error error) :
    result = .error error ∨ call.LosesCreation desired := by
  obtain ⟨before, after, rfl⟩ := List.append_of_mem hcall
  cases after with
  | nil => exact .inl (hreports.eq_error hanswer)
  | cons next rest =>
    have hnext := h (before ++ [call]) next rest (by simp)
    rcases hnext.last_cases with ⟨_, rfl⟩ | hlost
    · cases hanswer
    · exact .inr hlost

/-- Where success is reported, the last write has succeeded, or it was the creation that another
writer won. -/
theorem Asked.lastWrite_cases (h : Asked ns desired calls) {outcome : Outcome}
    (hreports : Reports ns desired calls (.ok outcome)) {call : AnsweredOperation K}
    (hwrite : lastWrite? calls = some call) :
    call.answer.isOk ∨ outcome = .unchanged ∧ call.LosesCreation desired := by
  cases hreports with
  | created =>
    rw [lastWrite?_concat] at hwrite
    obtain rfl := Option.some.inj hwrite
    exact .inl rfl
  | updated =>
    rw [lastWrite?_concat] at hwrite
    obtain rfl := Option.some.inj hwrite
    exact .inl rfl
  | @unchanged before live _ =>
    rw [lastWrite?_concat] at hwrite
    -- The object was read before anything was written, or after the creation was lost.
    have hread := h before _ [] rfl
    cases hread with
    | get => cases hwrite
    | getAgain subject => exact .inr ⟨rfl, subject, (Option.some.inj hwrite).symm⟩

/-- What a script does after the operations that were made, it does as it should. -/
def Conducts (ns : String) (desired : K) (history : List (AnsweredOperation K))
    (script : Script K (Except StoreError Outcome)) : Prop :=
  ∀ calls result, script.Runs calls result →
    Asked ns desired (history ++ calls) ∧ Reports ns desired (history ++ calls) result

/-- A script may be done that reports what the operations come to. -/
theorem Conducts.done (hasked : Asked ns desired history)
    (hreports : Reports ns desired history result) : Conducts ns desired history (.done result) := by
  rintro _ _ ⟨⟩
  rw [List.append_nil]
  exact ⟨hasked, hreports⟩

/-- A script may make an operation that follows those before, if it goes on as it should with every
answer. -/
theorem Conducts.ask (hasked : Asked ns desired history) {operation : StoreOperation K}
    (hfollows : Follows ns desired history operation)
    {next : Except StoreError operation.Answer → Script K (Except StoreError Outcome)}
    (hnext : ∀ answer, Asked ns desired (history ++ [⟨operation, answer⟩]) →
      Conducts ns desired (history ++ [⟨operation, answer⟩]) (next answer)) :
    Conducts ns desired history (.ask operation next) := by
  rintro _ result (_ | ⟨answer, hrest⟩)
  have hrun := hnext answer (hasked.snoc hfollows) _ _ hrest
  rwa [List.append_assoc] at hrun

variable [DecidableEq K] [LawfulManaged K]

/-- An object that was just read is updated as it should be. -/
theorem conducts_updateLive {before : List (AnsweredOperation K)} {live : K}
    (hasked : Asked ns desired
      (before ++ [⟨.get ns (Resource.name desired), .ok (some live)⟩])) :
    Conducts ns desired (before ++ [⟨.get ns (Resource.name desired), .ok (some live)⟩])
      (updateLive Script.store desired live) := by
  unfold updateLive
  dsimp only
  split
  · next hsame =>
    exact .done hasked (.unchanged ((LawfulManaged.conform_eq_self_iff _ _).mp hsame))
  · next hdiffers =>
    refine .ask hasked (.replace hdiffers (overwrites_conform live desired))
      fun answer hasked' => ?_
    cases answer with
    | ok stored => exact .done hasked' .updated
    | error error => exact .done hasked' (.failed rfl fun ⟨_, h⟩ => nomatch h)

/-- An object whose creation another writer won is updated as it should be. -/
theorem conducts_updateRaced (subject : String)
    (hasked : Asked ns desired [⟨.get ns (Resource.name desired), .ok none⟩,
      ⟨.create desired, .error (.alreadyExists subject)⟩]) :
    Conducts ns desired [⟨.get ns (Resource.name desired), .ok none⟩,
        ⟨.create desired, .error (.alreadyExists subject)⟩]
      (updateRaced Script.store ns desired) := by
  refine .ask hasked (.getAgain subject) fun answer hasked' => ?_
  match answer with
  | .ok (some live) => exact conducts_updateLive hasked'
  | .ok none =>
    exact .done hasked' (.gone [_] ⟨subject, rfl⟩ rfl rfl)
  | .error error => exact .done hasked' (.failed rfl fun ⟨_, h⟩ => nomatch h)

/-- A desired object of a namespace is brought about as it should be. -/
theorem conducts_createOrUpdateIn (ns : String) (desired : K) :
    Conducts ns desired [] (createOrUpdateIn Script.store ns desired) := by
  refine .ask asked_nil .get fun answer hasked => ?_
  match answer with
  | .ok (some live) => exact conducts_updateLive hasked
  | .error error => exact .done hasked (.failed rfl fun ⟨_, h⟩ => nomatch h)
  | .ok none =>
    refine .ask hasked .create fun answer hasked' => ?_
    match answer with
    | .ok stored => exact .done hasked' .created
    | .error (.alreadyExists subject) => exact conducts_updateRaced subject hasked'
    | .error (.conflict _) | .error (.notFound _) | .error (.missingNamespace _)
    | .error (.request _) => exact .done hasked' (.failed rfl fun ⟨_, h⟩ => nomatch h)

/-- Whatever is answered, a desired object is brought about as it should be. -/
theorem conducted_of_runs (h : (createOrUpdate Script.store desired).Runs calls result) :
    Conducted desired calls result := by
  unfold createOrUpdate at h
  cases hns : Resource.ns desired with
  | none =>
    rw [hns] at h
    cases h
    exact {
      refused := fun _ => ⟨rfl, rfl⟩
      asked := fun _ hsome => nomatch hns.symm.trans hsome
      reports := fun _ hsome => nomatch hns.symm.trans hsome
      replace_last := fun before _ _ _ hsplit => by simp at hsplit
      errors := nofun
      success := nofun }
  | some ns =>
    rw [hns] at h
    obtain ⟨hasked, hreports⟩ := conducts_createOrUpdateIn ns desired calls result h
    exact {
      refused := fun hnone => nomatch hns.symm.trans hnone
      asked := fun _ hsome => Option.some.inj (hns.symm.trans hsome) ▸ hasked
      reports := fun _ hsome => Option.some.inj (hns.symm.trans hsome) ▸ hreports
      replace_last := fun _ _ _ _ hsplit => hasked.replace_last hsplit
      errors := fun _ hcall _ hanswer => hasked.error_cases hreports hcall hanswer
      success := fun _ hok _ hwrite => hasked.lastWrite_cases (hok ▸ hreports) hwrite }

/-- On a store a desired object is brought about as it should be, and no differently if what is asked
is put on record. -/
def Store.Conducts {σ : Type} (store : Store (StateM σ) K) (desired : K) (state : σ) : Prop :=
  ∃ result after calls, createOrUpdate store desired state = (result, after) ∧
    createOrUpdate store.recorded desired (state, []) = (result, after, calls) ∧
    Conducted desired calls result

/-- On any store a desired object is brought about as it should be. -/
theorem Store.conducts {σ : Type} (store : Store (StateM σ) K) (desired : K) (state : σ) :
    store.Conducts desired state := by
  obtain ⟨calls, hrecorded, hruns⟩ :=
    Script.perform_recorded store (createOrUpdate Script.store desired) state []
  rw [Script.perform_createOrUpdate, Script.perform_createOrUpdate] at hrecorded
  exact ⟨_, _, calls, Script.perform_createOrUpdate store desired ▸ rfl, hrecorded,
    Script.perform_createOrUpdate store desired ▸ conducted_of_runs hruns⟩

end Conduct

/-- Whatever the kind of a managed object, whatever the store and its state, and whatever it answers:
a desired object is brought about with no other operations than may follow each other, and what is
reported is what they come to (`Conducted`). -/
theorem createOrUpdate_conducted :
    (∀ (σ : Type) (store : Store (StateM σ) VirtualService) (desired : VirtualService) (state : σ),
      store.Conducts desired state) ∧
    (∀ (σ : Type) (store : Store (StateM σ) HttpProxy) (desired : HttpProxy) (state : σ),
      store.Conducts desired state) ∧
    ∀ (σ : Type) (store : Store (StateM σ) Service) (desired : Service) (state : σ),
      store.Conducts desired state :=
  ⟨fun _ store desired state => store.conducts desired state,
    fun _ store desired state => store.conducts desired state,
    fun _ store desired state => store.conducts desired state⟩

/-- A service without labels. -/
def bareService : Service where
  metadata := { name := some "s-a", ns := some "apps" }
  spec := some {}

/-- A store that shows a service only once somebody has tried to create it. -/
def lateStore (service : Service) : Store (StateM Bool) Service where
  get _ _ := fun shown => (.ok (if shown then some service else none), shown)
  create _ := fun _ => (.error (.alreadyExists (Resource.name service)), true)
  replace object := fun shown => (.ok object, shown)
  delete _ _ := fun shown => (.ok (), shown)
  list _ _ := fun shown => (.ok [], shown)

/-- It is not so that the last write has succeeded wherever success is reported. -/
theorem createOrUpdate_succeeds_after_lost_creation :
    ¬ ∀ (σ : Type) (store : Store (StateM σ) Service) (desired : Service) (state after : σ)
        (outcome : Outcome) (calls : List (AnsweredOperation Service)),
      createOrUpdate store.recorded desired (state, []) = (.ok outcome, after, calls) →
      ∀ call, lastWrite? calls = some call → call.answer.isOk := by
  intro h
  have hlate : createOrUpdate (lateStore bareService).recorded bareService (false, []) =
      (.ok .unchanged, true, [
        ⟨.get "apps" "s-a", .ok none⟩,
        ⟨.create bareService, .error (.alreadyExists "s-a")⟩,
        ⟨.get "apps" "s-a", .ok (some bareService)⟩]) := by
    rfl
  cases h Bool (lateStore bareService) bareService false true .unchanged _ hlate _ rfl

end Ingress
