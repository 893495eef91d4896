import ClaimCheck.Proofs.Shelves

/-!
References that stores hand out, given back to them. A reference is honoured exactly if it is in
normal form, which it is unless trimming the key or the path left a blank at its ends.
-/
namespace ClaimCheck

variable {ρ τ : Type} {store : Store ρ τ} {shelf : Shelf ρ} {naming : Naming}

/-- A reference is honoured if it is not blank, fetches its bytes, and deletes its own object and
no other. -/
structure Store.Honours (store : Store ρ τ) (shelf : Shelf ρ) (scene : Scene ρ)
    (reference : String) (bytes : Bytes) : Prop where
  shown : Text.blank reference = false
  fetched : ∃ after, store.fetch (some reference) none scene = .ok bytes after
  deleted : ∃ after, store.delete (some reference) none scene = .ok () after ∧
    ∀ other, shelf.object after.rest other =
      if other = reference then none else shelf.object scene.rest other

theorem Store.WorksOn.honours_iff {scene : Scene ρ} {reference : String} {bytes : Bytes}
    {expires : Option Instant} (works : store.WorksOn shelf naming)
    (holds : shelf.Holds scene.rest reference bytes expires)
    (ahead : shelf.IsAhead scene.rest expires) :
    store.Honours shelf scene reference bytes ↔ Reference.normalize reference = .ok reference := by
  constructor
  · rintro ⟨-, -, after, deleted, removed⟩
    obtain ⟨named, accepted⟩ := works.named deleted
    have kept := (works.delete scene accepted).1 reference
    simp only [Action.sceneAfter, deleted] at kept
    have gone : shelf.object after.rest reference = none := by simp [removed]
    by_cases same : reference = named
    · rw [← same] at accepted
      exact Reference.accepted_some_iff.mp accepted
    · simp [gone, same, holds.1] at kept
  · intro normal
    have accepted := Reference.accepted_some_iff.mpr normal
    obtain ⟨others, succeeds⟩ := works.delete scene accepted
    obtain ⟨after, deleted⟩ := succeeds (by simp [holds.1])
    obtain ⟨_, fetched, -⟩ := works.fetch accepted holds ahead
    refine ⟨Reference.blank_of_normalize normal, ⟨_, fetched⟩, after, deleted, ?_⟩
    intro other
    simpa only [Action.sceneAfter, deleted] using others other

/-- Every upload that returns hands out a reference. Before it expires it is honoured, and in normal
form, exactly if the key is sound. -/
theorem upload_honours_iff (provided : Provided store shelf naming) {upload : Upload}
    {scene after : Scene ρ} {returned : Option String}
    (ran : store.upload upload scene = .ok returned after)
    (ahead : ∀ reference ∈ returned,
      shelf.IsAhead after.rest (shelf.expiry after.rest reference)) :
    ∃ key reference, Reference.accepted upload.key = .ok key ∧ returned = some reference ∧
      (store.Honours shelf after reference upload.source.remaining ↔ naming.isSound key = true) ∧
      (Reference.normalize reference = .ok reference ↔ naming.isSound key = true) := by
  have works := provided.worksOn
  obtain ⟨key, expires, accepted, rfl, holds, -⟩ := works.upload ran
  have ahead := ahead _ rfl
  rw [holds.2] at ahead
  obtain ⟨given, normal⟩ := Reference.exists_of_accepted accepted
  have sound := naming.normalize_reference_iff normal scene.ids
  exact ⟨key, _, accepted, rfl, (works.honours_iff holds ahead).trans sound, sound⟩

def keyUpload (key : String) : Upload := ⟨.ofBytes [120], some key, none, none, none⟩

/-- A bucket whose requests a caller tries to send elsewhere. -/
def bucketOptions (path : String) : CloudOptions (Table Bytes) :=
  ⟨"bucket", some path, false, true, true, none,
    some fun request => pure (request.apply (.withParam "Key" (.json (.text "other"))))⟩

def bucketStore (path : String) : Store (Table Bytes) (CloudStream Bytes) :=
  CloudStore.toStore ⟨Bucket.service,
    .ofTable (.ofBucket "bucket") fun arguments => (arguments.get? "IfNoneMatch").isSome,
    bucketOptions path⟩

theorem bucketStore_provided (path : String) :
    Provided (bucketStore path) (.ofObjects Table.get?) (.under (some path)) :=
  .bucket (bucketOptions path) (Client.ofTable_isMap _ _)

/-- A blank that trimming leaves within a reference does no harm. -/
theorem bucketStore_honours :
    ∃ after, (bucketStore " /p /").upload (keyUpload " a/") (.bare ∅) = .ok (some "p /a") after ∧
      (∀ reference ∈ some "p /a", Shelf.IsAhead (.ofObjects Table.get?) after.rest
        ((Shelf.ofObjects Table.get?).expiry after.rest reference)) ∧
      (bucketStore " /p /").Honours (.ofObjects Table.get?) after "p /a" [120] := by
  have ahead : ∀ state : Table Bytes, ∀ reference ∈ some "p /a",
      Shelf.IsAhead (.ofObjects Table.get?) state
        ((Shelf.ofObjects Table.get?).expiry state reference) := by
    intro state reference _ instant due
    cases due
  obtain ⟨after, ran⟩ : ∃ after, (bucketStore " /p /").upload (keyUpload " a/") (.bare ∅) =
      .ok (some "p /a") after := ⟨_, rfl⟩
  obtain ⟨key, reference, accepted, returned, honours, -⟩ :=
    upload_honours_iff (bucketStore_provided " /p /") ran (ahead _)
  refine ⟨after, ran, ahead _, ?_⟩
  cases accepted
  cases returned
  exact honours.mpr (by decide)

/-- Trimming separators can uncover a blank, and the reference that starts with it is not found. -/
theorem uncovered_blank_not_honoured :
    ∃ after, MemoryStore.store.upload (keyUpload "/ a") (.bare .vacant) =
        .ok (some " a/00000000000000000000000000000001") after ∧
      MemoryStore.store.fetch (some " a/00000000000000000000000000000001") none after =
        .error (.store (.notFound (some "a/00000000000000000000000000000001"))) after ∧
      ¬ MemoryStore.store.Honours MemoryStore.shelf after " a/00000000000000000000000000000001"
        [120] := by
  refine ⟨_, rfl, rfl, ?_⟩
  rintro ⟨-, ⟨after, fetched⟩, -⟩
  cases fetched

end ClaimCheck
