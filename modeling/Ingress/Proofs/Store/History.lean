import Ingress.Proofs.Pass.Ledger
import Ingress.Proofs.Store.Settle

/-!
# What a store in memory goes through

Operations are made one after another on a store in memory that was fresh. Each of them leaves the
store as it is, writes one object under its own key, or takes one away (`Access.Comes`). From this
follows what holds after any operations (`History.sound_run`): objects lie under their own keys, the
ledger of the writes is in order, and writes are counted. As long as versions do not wrap around,
the versions of live objects tell them apart, and every write stamps a greater one than all writes
before it (`History.run_orderly`).
-/

namespace Ingress

/-- An operation on a store in memory, with the store that it found. -/
structure Access (K : Type) where
  /-- The store before the operation. -/
  before : MemoryStore K
  /-- The operation. -/
  operation : StoreOperation K

namespace Access

section Basic

variable {K : Type} [Resource K]

/-- What the operation answers. -/
def answer (access : Access K) : Except StoreError access.operation.Answer :=
  (MemoryStore.store.perform access.operation access.before).1

/-- The store after the operation. -/
def after (access : Access K) : MemoryStore K :=
  (MemoryStore.store.perform access.operation access.before).2

/-- The key of the object that the operation is to write or to take away. -/
def key? (access : Access K) : Option ObjectKey :=
  match access.operation with
  | .create object | .replace object => some (Resource.key object)
  | .delete ns name => some ⟨ns, name⟩
  | .get _ _ | .list _ _ => none

/-- The entry of the object that the operation has created or replaced, if it has. There is no call
that has read anything. -/
def entries (access : Access K) : List (LedgerEntry K) :=
  Race.entries access.before none access.operation access.answer

/-- Whether the operation takes an object away that is there. -/
def removes (access : Access K) : Bool :=
  match access.operation with
  | .delete ns name => (access.before.get? ⟨ns, name⟩).isSome
  | _ => false

/-- An operation that writes nothing. -/
inductive Idle : Access K → Prop where
  /-- It fails. -/
  | failed {access : Access K} {error : StoreError} (h : access.answer = .error error) :
    Idle access
  /-- It reads an object. -/
  | get (before : MemoryStore K) (ns name : String) : Idle ⟨before, .get ns name⟩
  /-- It reads many objects. -/
  | list (before : MemoryStore K) (scope : Option String) (selector : String) :
    Idle ⟨before, .list scope selector⟩
  /-- What it is to take away is not there. -/
  | absent {before : MemoryStore K} {ns name : String} (h : before.get? ⟨ns, name⟩ = none) :
    Idle ⟨before, .delete ns name⟩

/-- An operation that the store refuses: a creation without a namespace or under a key that is
taken, and a replacement of what is not there or has another version. -/
def Refused (access : Access K) : Prop :=
  match access.operation with
  | .create object =>
    Resource.ns object = none ∨ access.before.get? (Resource.key object) ≠ none
  | .replace object => ∀ live, access.before.get? (Resource.key object) = some live →
    (Resource.metadata live).resourceVersion ≠ (Resource.metadata object).resourceVersion
  | .get _ _ | .delete _ _ | .list _ _ => False

/-- All that an operation can come to. -/
inductive Comes (access : Access K) : Prop where
  /-- The store is as it was. -/
  | kept (hidle : access.Idle) (hafter : access.after = access.before)
    (hentries : access.entries = []) (hremoves : access.removes = false)
  /-- An object is written under its own key. -/
  | wrote (object : K) (entry : LedgerEntry K) (hkey : access.key? = some (Resource.key object))
    (hafter : access.after = access.before.write (Resource.key object) object)
    (hanswer : ∀ error, access.answer ≠ .error error) (hentries : access.entries = [entry])
    (hstored : entry.stored = access.before.stamped object) (hremoves : access.removes = false)
  /-- An object is taken away. -/
  | removed (key : ObjectKey) (hkey : access.key? = some key)
    (hafter : access.after = access.before.delete key)
    (hwrites : access.after.writeCount = access.before.writeCount + 1)
    (hanswer : ∀ error, access.answer ≠ .error error) (hentries : access.entries = [])
    (hremoves : access.removes = true)

/-- An operation fails exactly if the store refuses it. -/
theorem answer_eq_error_iff (access : Access K) :
    (∃ error, access.answer = .error error) ↔ access.Refused := by
  obtain ⟨before, operation⟩ := access
  cases operation with
  | get | delete | list => exact iff_of_false nofun id
  | create object =>
    change (∃ error, (before.create object).1 = .error error) ↔ _
    unfold MemoryStore.create
    split
    · next hns => exact iff_of_true ⟨_, rfl⟩ (Or.inl hns)
    · next ns hns =>
      dsimp only
      split
      · next live hlive =>
        exact iff_of_true ⟨_, rfl⟩ (Or.inr fun hfree => nomatch hfree.symm.trans hlive)
      · next hfree =>
        refine iff_of_false nofun ?_
        rintro (hnone | htaken)
        · cases hns.symm.trans hnone
        · exact htaken hfree
  | replace object =>
    change (∃ error, (before.replace object).1 = .error error) ↔ _
    unfold MemoryStore.replace
    dsimp only
    split
    · next hgone => exact iff_of_true ⟨_, rfl⟩ fun live hlive => nomatch hgone.symm.trans hlive
    · next live hlive =>
      split
      · next hversion =>
        refine iff_of_true ⟨_, rfl⟩ fun other hother => ?_
        cases hlive.symm.trans hother
        exact hversion
      · next hversion => exact iff_of_false nofun fun hrefused => hversion (hrefused live hlive)

/-- An operation that fails leaves the store as it is. -/
theorem comes_of_refused {access : Access K} (error : StoreError)
    (h : MemoryStore.store.perform access.operation access.before =
      (.error error, access.before)) : access.Comes := by
  have hanswer : access.answer = .error error := congrArg Prod.fst h
  have hentries : access.entries = [] := by
    unfold entries
    rw [hanswer]
    cases access.operation <;> rfl
  refine .kept (.failed hanswer) (congrArg Prod.snd h) hentries ?_
  obtain ⟨before, operation⟩ := access
  cases operation with
  | delete ns name => cases hanswer
  | get _ _ | create _ | replace _ | list _ _ => rfl

/-- A deletion takes an object away, if it is there. -/
theorem comes_delete (before : MemoryStore K) (ns name : String) :
    Comes ⟨before, .delete ns name⟩ := by
  cases hlive : before.get? ⟨ns, name⟩ with
  | none =>
    exact .kept (.absent hlive) (MemoryStore.delete_of_get?_eq_none hlive) rfl
      (congrArg Option.isSome hlive)
  | some live =>
    have hwrites : (before.delete ⟨ns, name⟩).writeCount = before.writeCount + 1 :=
      MemoryStore.writeCount_delete (hlive ▸ Option.some_ne_none live)
    exact .removed ⟨ns, name⟩ rfl rfl hwrites nofun rfl (congrArg Option.isSome hlive)

/-- A replacement is refused, or it writes the object. -/
theorem comes_replace (before : MemoryStore K) (object : K) :
    Comes ⟨before, .replace object⟩ := by
  rcases before.replace_cases object with ⟨error, hrefused, _⟩ | ⟨_, _, _, hreplace⟩
  · exact comes_of_refused error hrefused
  · have hanswer : answer ⟨before, .replace object⟩ = .ok (before.stamped object) :=
      congrArg Prod.fst hreplace
    refine .wrote object ⟨.replace, before.get? (Resource.key object), none, _⟩ rfl
      (congrArg Prod.snd hreplace) ?_ ?_ rfl rfl
    · rw [hanswer]
      exact nofun
    · unfold entries
      rw [hanswer]
      rfl

end Basic

variable {K : Type} [Managed K] [ManagedView K] [LawfulManaged K]

/-- A creation is refused, or it writes the object with an identifier. -/
theorem comes_create (before : MemoryStore K) (object : K) :
    Comes ⟨before, .create object⟩ := by
  rcases before.create_cases object with ⟨error, hrefused⟩ | ⟨_, hcreate⟩
  · exact comes_of_refused error hrefused
  · have hkey : Resource.key (MemoryStore.identified object) = Resource.key object :=
      MemoryStore.key_identified object
    have hanswer : answer ⟨before, .create object⟩ =
        .ok (before.stamped (MemoryStore.identified object)) := congrArg Prod.fst hcreate
    refine .wrote (MemoryStore.identified object)
      ⟨.create, before.get? (Resource.key object), none, _⟩
      (congrArg some hkey.symm) ?_ ?_ ?_ rfl rfl
    · exact (congrArg Prod.snd hcreate).trans (by rw [hkey])
    · rw [hanswer]
      exact nofun
    · unfold entries
      rw [hanswer]
      rfl

/-- Every operation comes to one of these. -/
theorem comes (access : Access K) : access.Comes := by
  obtain ⟨before, operation⟩ := access
  cases operation with
  | get ns name => exact .kept (.get before ns name) rfl rfl rfl
  | create object => exact comes_create before object
  | replace object => exact comes_replace before object
  | delete ns name => exact comes_delete before ns name
  | list scope selector => exact .kept (.list before scope selector) rfl rfl rfl

/-- An operation that writes nothing leaves the store as it is. -/
theorem Idle.after_eq {access : Access K} (h : access.Idle) : access.after = access.before := by
  cases h with
  | failed herror =>
    cases access.comes with
    | kept _ hafter => exact hafter
    | wrote _ _ _ _ hanswer => exact absurd herror (hanswer _)
    | removed _ _ _ _ hanswer => exact absurd herror (hanswer _)
  | get | list => rfl
  | absent habsent => exact MemoryStore.delete_of_get?_eq_none habsent

/-- An operation changes no key but its own. -/
theorem get?_after_of_ne (access : Access K) {key : ObjectKey} (h : access.key? ≠ some key) :
    access.after.get? key = access.before.get? key := by
  cases access.comes with
  | kept _ hafter => rw [hafter]
  | wrote _ _ hkey hafter =>
    rw [hkey] at h
    rw [hafter, MemoryStore.get?_write, if_neg fun hsame => h (congrArg some hsame.symm)]
  | removed _ hkey hafter =>
    rw [hkey] at h
    rw [hafter, MemoryStore.get?_delete, if_neg fun hsame => h (congrArg some hsame.symm)]

/-- An operation that changes anything leaves under its key what it has stored, and nothing if it
has taken an object away. -/
theorem get?_after_of_key? (access : Access K) (hidle : ¬access.Idle) {key : ObjectKey}
    (h : access.key? = some key) :
    access.after.get? key = access.entries.head?.map LedgerEntry.stored := by
  cases access.comes with
  | kept hkept => exact absurd hkept hidle
  | wrote _ _ hkey hafter _ hentries hstored =>
    cases hkey.symm.trans h
    rw [hafter, MemoryStore.get?_write, if_pos rfl, hentries, ← hstored]
    rfl
  | removed _ hkey hafter _ _ hentries =>
    cases hkey.symm.trans h
    rw [hafter, MemoryStore.get?_delete, if_pos rfl, hentries]
    rfl

/-- An operation keeps objects under their own keys. -/
theorem keyed_after (access : Access K) (h : access.before.Keyed) : access.after.Keyed := by
  cases access.comes with
  | kept _ hafter => rwa [hafter]
  | wrote _ _ _ hafter =>
    rw [hafter]
    exact h.write rfl
  | removed _ _ hafter =>
    rw [hafter]
    exact h.delete _

/-- An operation keeps the ledger in order. -/
theorem ledger_after (access : Access K) {ledger : List (LedgerEntry K)}
    (h : Race.Ledger access.before ledger) :
    Race.Ledger access.after (ledger ++ access.entries) := by
  cases access.comes with
  | kept _ hafter hentries =>
    rw [hafter, hentries, List.append_nil]
    exact h
  | wrote _ _ _ hafter _ hentries hstored =>
    rw [hafter, hentries]
    exact h.write _ hstored
  | removed _ _ hafter _ _ hentries =>
    rw [hafter, hentries, List.append_nil]
    exact h.delete _

/-- What is written, and what is taken away, counts as one write. -/
theorem writeCount_after (access : Access K) :
    access.after.writeCount = access.before.writeCount +
      UInt64.ofNat (access.entries.length + [access].countP removes) := by
  cases access.comes with
  | kept _ hafter hentries hremoves =>
    rw [hafter, hentries, List.countP_singleton, hremoves]
    exact (UInt64.add_zero _).symm
  | wrote _ _ _ hafter _ hentries _ hremoves =>
    rw [hafter, hentries, List.countP_singleton, hremoves]
    rfl
  | removed _ _ _ hwrites _ hentries hremoves =>
    rw [hwrites, hentries, List.countP_singleton, hremoves]
    rfl

end Access

/-- A store in memory with the operations made on it since it was fresh, the first one first. -/
structure History (K : Type) where
  /-- The store. -/
  store : MemoryStore K := {}
  /-- The operations, each with the store that it found. -/
  accesses : List (Access K) := []

namespace History

section Steps

variable {K : Type} [Resource K]

/-- What an operation adds to a history. -/
def step (history : History K) (operation : StoreOperation K) : History K where
  store := (⟨history.store, operation⟩ : Access K).after
  accesses := history.accesses ++ [⟨history.store, operation⟩]

/-- The history of a fresh store, after operations in a row. -/
def run (operations : List (StoreOperation K)) : History K :=
  operations.foldl step {}

/-- The creations and replacements that have succeeded. -/
def ledger (history : History K) : List (LedgerEntry K) :=
  history.accesses.flatMap Access.entries

end Steps

variable {K : Type} [Managed K]

/-- What holds after any operations. -/
structure Sound (history : History K) : Prop where
  /-- Every object lies under its own key. -/
  keyed : history.store.Keyed
  /-- The ledger is in order. -/
  ledger : Race.Ledger history.store history.ledger
  /-- Every creation, replacement and deletion that has succeeded counts as a write. -/
  writes : history.store.writeCount =
    UInt64.ofNat (history.ledger.length + history.accesses.countP Access.removes)

/-- A fresh store is sound. -/
theorem sound_fresh : Sound ({} : History K) where
  keyed := MemoryStore.keyed_empty
  ledger := .empty
  writes := rfl

section Versions

variable {history : History K} (h : history.Sound)
  (hbound : history.ledger.length < UInt64.size)

include h hbound

/-- Before versions wrap around, a live object was stored by a write, and no other has stamped its
version. -/
theorem Sound.count_version {key : ObjectKey} {object : K}
    (hlive : history.store.get? key = some object) :
    ∃ entry ∈ history.ledger, entry.stored = object ∧
      (history.ledger.map LedgerEntry.version).count entry.version = 1 := by
  obtain ⟨entry, hentry, hstored⟩ := List.mem_map.mp (h.ledger.live key object hlive)
  exact ⟨entry, hentry, hstored,
    List.count_eq_one_of_mem (h.ledger.nodup hbound) (List.mem_map_of_mem hentry)⟩

/-- Before versions wrap around, live objects of one version are one object, and so are their
keys. -/
theorem Sound.key_eq_of_version_eq {key key' : ObjectKey} {object object' : K}
    (hlive : history.store.get? key = some object)
    (hlive' : history.store.get? key' = some object')
    (hversion : (Resource.metadata object).resourceVersion =
      (Resource.metadata object').resourceVersion) : key = key' := by
  have hsame : object = object' := h.ledger.eq_of_version_eq hbound
    (h.ledger.live key object hlive) (h.ledger.live key' object' hlive') hversion
  rw [← h.keyed key object hlive, ← h.keyed key' object' hlive', hsame]

/-- Before versions wrap around, the version of a live object is the number of a write. So it is
below the next one, also in words unless these have come round to 0. -/
theorem Sound.version_lt {key : ObjectKey} {object : K}
    (hlive : history.store.get? key = some object) :
    ∃ number : Nat, (Resource.metadata object).resourceVersion = some (toString number) ∧
      number < history.ledger.length + 1 ∧
      (history.store.version ≠ 0 → number < history.store.version.toNat) := by
  obtain ⟨entry, hentry, rfl⟩ := List.mem_map.mp (h.ledger.live key object hlive)
  obtain ⟨i, hi⟩ := List.getElem?_of_mem hentry
  have hlt : i < history.ledger.length := (List.getElem?_eq_some_iff.mp hi).1
  refine ⟨i + 1, h.ledger.version_of_getElem? hbound hi, by omega, fun hturned => ?_⟩
  have hfits : history.ledger.length + 1 < UInt64.size := by
    refine Nat.lt_of_le_of_ne hbound fun hlast => hturned ?_
    rw [h.ledger.version_eq, hlast]
    rfl
  rw [h.ledger.version_eq, UInt64.toNat_ofNat_of_lt' hfits]
  omega

/-- Before versions wrap around, every write stamps a version that is greater than all earlier
ones. -/
theorem Sound.pairwise_ledger :
    history.ledger.Pairwise fun earlier later =>
      ∃ number greater : Nat, earlier.version = some (toString number) ∧
        later.version = some (toString greater) ∧ number < greater := by
  refine List.pairwise_iff_getElem.mpr fun i j hi hj hlt => ⟨i + 1, j + 1, ?_, ?_, by omega⟩
  · exact h.ledger.version_of_getElem? hbound (List.getElem?_eq_getElem hi)
  · exact h.ledger.version_of_getElem? hbound (List.getElem?_eq_getElem hj)

end Versions

variable [ManagedView K] [LawfulManaged K]

/-- An operation keeps a history sound. -/
theorem Sound.step {history : History K} (h : history.Sound) (operation : StoreOperation K) :
    (history.step operation).Sound := by
  have hledger : (history.step operation).ledger =
      history.ledger ++ (⟨history.store, operation⟩ : Access K).entries := by
    unfold History.ledger History.step
    rw [List.flatMap_append, List.flatMap_singleton]
  refine ⟨Access.keyed_after _ h.keyed, ?_, ?_⟩
  · rw [hledger]
    exact Access.ledger_after ⟨history.store, operation⟩ h.ledger
  · rw [hledger, List.length_append]
    unfold History.step
    rw [Access.writeCount_after, List.countP_append, h.writes, ← UInt64.ofNat_add]
    congr 1
    omega

/-- Every history is sound. -/
theorem sound_run (operations : List (StoreOperation K)) : (run operations).Sound := by
  induction operations using List.reverseRecOn with
  | nil => exact sound_fresh
  | append_singleton before operation ih =>
    unfold run
    rw [List.foldl_concat]
    exact ih.step operation

/-- What a history shows as long as versions do not wrap around. -/
structure Orderly (history : History K) : Prop where
  /-- Every object lies under its own key. -/
  keyed : ∀ key object, history.store.get? key = some object → Resource.key object = key
  /-- A live object was stored by a write, and no other write has stamped its version. -/
  stamped : ∀ key object, history.store.get? key = some object →
    ∃ entry ∈ history.ledger, entry.stored = object ∧
      (history.ledger.map LedgerEntry.version).count entry.version = 1
  /-- No two live objects have one version. -/
  distinct : ∀ key key' object object', history.store.get? key = some object →
    history.store.get? key' = some object' →
    (Resource.metadata object).resourceVersion = (Resource.metadata object').resourceVersion →
    key = key'
  /-- The versions of live objects are below the next one. -/
  below : ∀ key object, history.store.get? key = some object →
    ∃ number : Nat, (Resource.metadata object).resourceVersion = some (toString number) ∧
      number < history.ledger.length + 1 ∧
      (history.store.version ≠ 0 → number < history.store.version.toNat)
  /-- The next version is one more than there are writes, and comes round to 0 after the last word
  that there is. -/
  next : history.store.version = UInt64.ofNat (history.ledger.length + 1)
  /-- Every write stamps a version that is greater than all earlier ones. -/
  rising : history.ledger.Pairwise fun earlier later =>
    ∃ number greater : Nat, earlier.version = some (toString number) ∧
      later.version = some (toString greater) ∧ number < greater
  /-- Creations and replacements that succeed count as writes, and so do deletions of what is
  there; the counter is a word, as the version is. -/
  writes : history.store.writeCount =
    UInt64.ofNat (history.ledger.length + history.accesses.countP Access.removes)
  /-- An operation fails exactly if the store refuses it. -/
  refused : ∀ access ∈ history.accesses,
    (∃ error, access.answer = .error error) ↔ access.Refused
  /-- An operation that fails, only reads or finds nothing to take away changes nothing. -/
  idle : ∀ access ∈ history.accesses, access.Idle → access.after = access.before
  /-- Any other leaves under its key what it has stored, and nothing if it took an object away. -/
  own : ∀ access ∈ history.accesses, ¬access.Idle → ∀ key, access.key? = some key →
    access.after.get? key = access.entries.head?.map LedgerEntry.stored
  /-- An operation changes no key but its own. -/
  others : ∀ access ∈ history.accesses, ∀ key, access.key? ≠ some key →
    access.after.get? key = access.before.get? key

/-- Whatever operations are made on a fresh store in memory, with fewer creations and replacements
that succeed than a word of 64 bits has values: its history is orderly. -/
theorem run_orderly (operations : List (StoreOperation K))
    (hbound : (run operations).ledger.length < UInt64.size) : (run operations).Orderly := by
  have hsound := sound_run operations
  exact {
    keyed := hsound.keyed
    stamped := fun _ _ hlive => hsound.count_version hbound hlive
    distinct := fun _ _ _ _ hlive hlive' => hsound.key_eq_of_version_eq hbound hlive hlive'
    below := fun _ _ hlive => hsound.version_lt hbound hlive
    next := hsound.ledger.version_eq
    rising := hsound.pairwise_ledger hbound
    writes := hsound.writes
    refused := fun access _ => access.answer_eq_error_iff
    idle := fun _ _ hidle => hidle.after_eq
    own := fun access _ hidle _ hkey => access.get?_after_of_key? hidle hkey
    others := fun access _ _ hkey => access.get?_after_of_ne hkey }

/-- A service of a name, with the version that it was read with. -/
def versionedService (name : String) (version : Option String) : Service where
  metadata := { name := some name, ns := some "apps", resourceVersion := version }

/-- Five operations that write, between others that read, come too late, lack a namespace or find
nothing to take away. -/
def busyOperations : List (StoreOperation Service) := [
  .create (versionedService "web" none), .create (versionedService "api" none),
  .create { metadata := { name := some "api" } }, .get "apps" "web",
  .replace (versionedService "web" (some "1")), .replace (versionedService "web" (some "1")),
  .create (versionedService "web" none), .delete "apps" "api", .delete "apps" "api",
  .list none "", .replace (versionedService "api" (some "2")),
  .create (versionedService "api" none)]

/-- The service that was taken away has another version when it is made anew. -/
theorem run_busyOperations_orderly :
    (run busyOperations).ledger.map LedgerEntry.version =
      [some "1", some "2", some "3", some "4"] ∧
    (run busyOperations).store.writeCount = 5 ∧ (run busyOperations).Orderly := by
  have hlength : (run busyOperations).ledger.length < UInt64.size := by decide +kernel
  exact ⟨by decide +kernel, by decide +kernel, run_orderly busyOperations hlength⟩

end History

end Ingress
