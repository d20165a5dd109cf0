import Ingress.Proofs.Pass.Ownership

/-!
# Bringing an object about on a live store

On a store that nobody else writes to, a desired object that has a namespace is brought about
without fail. Which of the three outcomes it is can be read off the store (`Outcome.Fits`): whether
the key is free, and whether the live object already agrees. `MemoryStore.BroughtAbout` says what
the store holds afterwards, and `createOrUpdate_brings_about` states both of every kind of objects
that a pass manages.
-/

namespace Ingress

section Fits

variable {K : Type} [Managed K] [ManagedView K]

/-- An outcome that fits what was live under the key of a desired object. -/
structure Outcome.Fits (outcome : Outcome) (former : Option K) (desired : K) : Prop where
  /-- It is created exactly if nothing was. -/
  created_iff : outcome = .created ↔ former = none
  /-- It is left unchanged exactly if an object was that agrees with it. -/
  unchanged_iff : outcome = .unchanged ↔
    ∃ live, former = some live ∧ Managed.Agrees live desired
  /-- It is updated exactly if an object was that does not. -/
  updated_iff : outcome = .updated ↔
    ∃ live, former = some live ∧ ¬Managed.Agrees live desired

variable {live desired : K}

/-- Creation fits a free key. -/
theorem Outcome.fits_created : Outcome.created.Fits none desired where
  created_iff := iff_of_true rfl rfl
  unchanged_iff := iff_of_false nofun fun ⟨_, hnone, _⟩ => nomatch hnone
  updated_iff := iff_of_false nofun fun ⟨_, hnone, _⟩ => nomatch hnone

/-- Leaving a live object alone fits one that agrees. -/
theorem Outcome.fits_unchanged (h : Managed.Agrees live desired) :
    Outcome.unchanged.Fits (some live) desired where
  created_iff := iff_of_false nofun nofun
  unchanged_iff := iff_of_true rfl ⟨live, rfl, h⟩
  updated_iff := iff_of_false nofun fun ⟨_, hlive, hdiffers⟩ =>
    hdiffers (Option.some.inj hlive ▸ h)

/-- An update fits a live object that does not agree. -/
theorem Outcome.fits_updated (h : ¬Managed.Agrees live desired) :
    Outcome.updated.Fits (some live) desired where
  created_iff := iff_of_false nofun nofun
  unchanged_iff := iff_of_false nofun fun ⟨_, hlive, hagrees⟩ =>
    h (Option.some.inj hlive ▸ hagrees)
  updated_iff := iff_of_true rfl ⟨live, rfl, h⟩

end Fits

namespace MemoryStore

section Kinds

variable {K : Type} [Managed K] [ManagedView K]

/-- What a store holds after a desired object has been brought about. -/
structure BroughtAbout [ForeignPart K] (before : MemoryStore K) (desired : K) (outcome : Outcome)
    (after : MemoryStore K) : Prop where
  /-- If the object was left unchanged, so was the store. -/
  untouched : outcome = .unchanged → after = before
  /-- Otherwise there was one write, whose version the live object has. -/
  written : outcome ≠ .unchanged →
    after.writeCount = before.writeCount + 1 ∧ after.version = before.version + 1 ∧
      ∃ live, after.get? (Resource.key desired) = some live ∧
        (Resource.metadata live).resourceVersion = some (toString before.version.toNat)
  /-- Under no other key is there anything but what was there. -/
  others (key : ObjectKey) : key ≠ Resource.key desired → after.get? key = before.get? key
  /-- The live object agrees with the desired one. -/
  agrees : ∃ live, after.get? (Resource.key desired) = some live ∧ Managed.Agrees live desired
  /-- An object that was there before has kept all that this program does not write. -/
  kept (former : K) : before.get? (Resource.key desired) = some former →
    ∃ live, after.get? (Resource.key desired) = some live ∧
      ForeignPart.foreign live = ForeignPart.foreign former

variable [LawfulManaged K]

/-- The object that a write has put under a key has the version of the write. -/
theorem resourceVersion_write (s : MemoryStore K) (key : ObjectKey) (object : K) :
    ∃ live, (s.write key object).get? key = some live ∧
      (Resource.metadata live).resourceVersion = some (toString s.version.toNat) := by
  refine ⟨s.stamped object, by rw [get?_write, if_pos rfl], ?_⟩
  unfold stamped
  rw [LawfulManaged.metadata_withMetadata]

variable [DecidableEq K]

/-- A desired object is brought about, with the outcome that fits, and once it has been, it is left
unchanged. -/
def BringsAbout [ForeignPart K] (s : MemoryStore K) (desired : K) : Prop :=
  ∃ outcome after, createOrUpdate store desired s = (.ok outcome, after) ∧
    outcome.Fits (s.get? (Resource.key desired)) desired ∧
    s.BroughtAbout desired outcome after ∧
    createOrUpdate store desired after = (.ok .unchanged, after)

variable {s : MemoryStore K} {desired : K} {ns : String}

/-- A live object that agrees with the desired one is left alone. -/
theorem createOrUpdate_of_agrees (hkeyed : s.Keyed) (hns : Resource.ns desired = some ns)
    {live : K} (hlive : s.get? (Resource.key desired) = some live)
    (hagrees : Managed.Agrees live desired) :
    createOrUpdate store desired s = (.ok .unchanged, s) := by
  rw [createOrUpdate_store hkeyed, settle_of_get?_eq_some hns hlive,
    if_pos ((LawfulManaged.conform_eq_self_iff _ _).mpr hagrees)]

/-- Bringing a desired object about leaves the store as it is or writes once, as the outcome says
that fits. -/
theorem settle_fits (s : MemoryStore K) (hns : Resource.ns desired = some ns) :
    ∃ outcome, (s.settle desired).1 = .ok outcome ∧
      outcome.Fits (s.get? (Resource.key desired)) desired ∧
      (outcome = .unchanged → (s.settle desired).2 = s) ∧
      (outcome ≠ .unchanged →
        ∃ object, (s.settle desired).2 = s.write (Resource.key desired) object) := by
  cases hlive : s.get? (Resource.key desired) with
  | none =>
    rw [settle_of_get?_eq_none hns hlive]
    exact ⟨_, rfl, Outcome.fits_created, nofun, fun _ => ⟨_, rfl⟩⟩
  | some live =>
    rw [settle_of_get?_eq_some hns hlive]
    split
    · next hsame =>
      have hagrees := (LawfulManaged.conform_eq_self_iff _ _).mp hsame
      exact ⟨_, rfl, Outcome.fits_unchanged hagrees, fun _ => rfl, fun hne => absurd rfl hne⟩
    · next hdiffers =>
      have hdisagrees := mt (LawfulManaged.conform_eq_self_iff _ _).mpr hdiffers
      exact ⟨_, rfl, Outcome.fits_updated hdisagrees, nofun, fun _ => ⟨_, rfl⟩⟩

/-- On a keyed store a desired object that has a namespace and agrees with itself is brought
about. -/
theorem bringsAbout [ForeignPart K] (hkeyed : s.Keyed) (hns : Resource.ns desired ≠ none)
    (hself : Managed.Agrees desired desired) : s.BringsAbout desired := by
  obtain ⟨ns, hns⟩ := Option.ne_none_iff_exists'.mp hns
  obtain ⟨outcome, houtcome, hfits, huntouched, hwritten⟩ := settle_fits s hns
  have hagrees : ∃ live, (s.settle desired).2.get? (Resource.key desired) = some live ∧
      Managed.Agrees live desired := by
    rcases settled_settle s hself with hnone | hlive
    · cases hnone.symm.trans hns
    · exact hlive
  refine ⟨outcome, (s.settle desired).2, ?_, hfits, ⟨huntouched, fun hne => ?_, ?_, hagrees, ?_⟩, ?_⟩
  · rw [createOrUpdate_store hkeyed, ← houtcome]
  · obtain ⟨object, hafter⟩ := hwritten hne
    rw [hafter]
    exact ⟨rfl, rfl, resourceVersion_write s _ object⟩
  · exact fun key hkey => get?_settle_of_ne hkey
  · exact fun former hformer => foreign_settle desired hformer
  · -- The second call meets the object that the first has left behind.
    obtain ⟨live, hlive, hlast⟩ := hagrees
    exact createOrUpdate_of_agrees (hkeyed.settle desired) hns hlive hlast

end Kinds

/-- Whatever the kind of a managed object and whatever a keyed store holds, a desired object that has
a namespace, and as a service a specification, is brought about when nobody else writes to the
store: created, updated or left unchanged as fits what is live under its key, with no more than one
write, under that key, which leaves to the cluster what is the cluster's, and with nothing left to
do. -/
theorem createOrUpdate_brings_about :
    (∀ (s : MemoryStore VirtualService) (desired : VirtualService), s.Keyed →
      Resource.ns desired ≠ none → s.BringsAbout desired) ∧
    (∀ (s : MemoryStore HttpProxy) (desired : HttpProxy), s.Keyed →
      Resource.ns desired ≠ none → s.BringsAbout desired) ∧
    ∀ (s : MemoryStore Service) (desired : Service), s.Keyed →
      Resource.ns desired ≠ none → desired.spec ≠ none → s.BringsAbout desired := by
  refine ⟨fun s desired hkeyed hns => ?_, fun s desired hkeyed hns => ?_,
    fun s desired hkeyed hns hspec => ?_⟩
  · exact bringsAbout hkeyed hns ⟨rfl, rfl, rfl, rfl⟩
  · exact bringsAbout hkeyed hns ⟨rfl, rfl, rfl, rfl⟩
  · obtain ⟨spec, hspec⟩ := Option.ne_none_iff_exists'.mp hspec
    refine bringsAbout hkeyed hns ⟨rfl, rfl, rfl, spec, hspec, ?_, ?_⟩ <;> rw [hspec] <;> rfl

/-- A service that is desired under the name of one that the cluster has given an address. -/
def frontService : Service where
  metadata := { name := some "s-a", ns := some "apps", labels := some (managedLabels ∅) }
  spec := some { ports := some [{ port := 80 }] }

/-- The live service takes over what is desired and keeps what the cluster has given it. -/
theorem frontService_brought_about :
    let s := MemoryStore.insert {} Site.adoptedService
    ∃ after, createOrUpdate store frontService s = (.ok .updated, after) ∧
      after.writeCount = 1 ∧
      (∃ live, after.get? ⟨"apps", "s-a"⟩ = some live ∧ Managed.Agrees live frontService) ∧
      (∃ live, after.get? ⟨"apps", "s-a"⟩ = some live ∧
        live.status = some { loadBalancer := some {} } ∧
        live.metadata.uid = some "7f" ∧ (live.spec.getD {}).clusterIP = some "10.0.0.7") ∧
      createOrUpdate store frontService after = (.ok .unchanged, after) := by
  intro s
  have hkeyed : s.Keyed := keyed_empty.insert Site.adoptedService
  have hformer : s.get? (Resource.key frontService) = some Site.adoptedService := by
    rw [get?_insert, if_pos (by decide)]
  have hdiffers : ¬Managed.Agrees Site.adoptedService frontService :=
    fun hagrees => nomatch hagrees.labels
  obtain ⟨outcome, after, houtcome, hfits, hafter, hagain⟩ :=
    createOrUpdate_brings_about.2.2 s frontService hkeyed (by decide) (by decide)
  obtain rfl := hfits.updated_iff.mpr ⟨_, hformer, hdiffers⟩
  obtain ⟨live, hlive, hforeign⟩ := hafter.kept _ hformer
  refine ⟨after, houtcome, (hafter.written nofun).1, hafter.agrees, ⟨live, hlive, ?_⟩, hagain⟩
  refine ⟨congrArg Service.status hforeign, ?_, ?_⟩
  · exact congrArg (fun service => service.metadata.uid) hforeign
  · exact congrArg (fun service => service.spec.bind ServiceSpec.clusterIP) hforeign

end MemoryStore

end Ingress
