import ClaimCheck.Proofs.CloudOperations
import ClaimCheck.Proofs.Naming

/-!
What the stores have in common: each can be seen as a shelf of objects under references, which its
uploads, downloads and deletions change in the same way.
-/
namespace ClaimCheck

/-- What can be seen of a store: the bytes under each reference, when they expire, and what the
clock of the store shows, if it has one. -/
structure Shelf (ρ : Type) where
  object : ρ → String → Option Bytes
  expiry : ρ → String → Option Instant
  clock : ρ → Option Instant

namespace Shelf

variable {ρ : Type}

/-- A shelf on which nothing expires. -/
def ofObjects (objects : ρ → String → Option Bytes) : Shelf ρ :=
  ⟨objects, fun _ _ => none, fun _ => none⟩

def Holds (shelf : Shelf ρ) (state : ρ) (reference : String) (bytes : Bytes)
    (expires : Option Instant) : Prop :=
  shelf.object state reference = some bytes ∧ shelf.expiry state reference = expires

/-- Whether a time of expiry, if there is one, lies ahead. -/
def IsAhead (shelf : Shelf ρ) (state : ρ) (expires : Option Instant) : Prop :=
  ∀ instant ∈ expires, ∃ now ∈ shelf.clock state, now.micros < instant.micros

end Shelf

/-- A store that works on a shelf, and makes its references by a rule. -/
structure Store.WorksOn {ρ τ : Type} (store : Store ρ τ) (shelf : Shelf ρ) (naming : Naming) :
    Prop where
  /-- An upload that returns has stored its payload, which expires when it was to, if ever. -/
  upload : ∀ {upload : Upload} {scene after : Scene ρ} {returned : Option String},
    store.upload upload scene = .ok returned after →
    ∃ key expires, Reference.accepted upload.key = .ok key ∧
      returned = some (naming.reference scene.ids key) ∧
      shelf.Holds after.rest (naming.reference scene.ids key) upload.source.remaining expires ∧
      ∀ instant ∈ expires, upload.expires? = some instant
  /-- What is there and has not expired is fetched whole, and stays. -/
  fetch : ∀ {given : Option String} {reference : String} {bytes : Bytes}
      {expires : Option Instant} {scene : Scene ρ},
    Reference.accepted given = .ok reference →
    shelf.Holds scene.rest reference bytes expires → shelf.IsAhead scene.rest expires →
    ∃ after, store.fetch given none scene = .ok bytes after ∧
      shelf.Holds after.rest reference bytes expires
  /-- A deletion removes one object, and succeeds if there is one. -/
  delete : ∀ {given : Option String} {reference : String} (scene : Scene ρ),
    Reference.accepted given = .ok reference →
    (∀ other, shelf.object ((store.delete given none).sceneAfter scene).rest other =
      if other = reference then none else shelf.object scene.rest other) ∧
    (shelf.object scene.rest reference ≠ none →
      ∃ after, store.delete given none scene = .ok () after)
  /-- Only what can be normalized can be deleted. -/
  named : ∀ {given : Option String} {scene after : Scene ρ},
    store.delete given none scene = .ok () after →
    ∃ reference, Reference.accepted given = .ok reference

namespace MemoryStore

def shelf : Shelf MemoryStore where
  object store reference := (store.entries.get? reference).map Entry.data
  expiry store reference := (store.entries.get? reference).bind Entry.expires
  clock store := store.clock.instant?

private theorem shelf_holds_iff {state : MemoryStore} {reference : String} {bytes : Bytes}
    {expires : Option Instant} :
    shelf.Holds state reference bytes expires ↔
      state.entries.get? reference = some ⟨bytes, expires⟩ := by
  cases found : state.entries.get? reference with
  | none => simp [Shelf.Holds, shelf, found]
  | some entry => obtain ⟨data, due⟩ := entry; simp [Shelf.Holds, shelf, found]

private theorem readAt_of_isAhead (entry : Entry) {state : MemoryStore}
    (ahead : shelf.IsAhead state entry.expires) : entry.readAt state.clock = .ok true := by
  obtain ⟨data, expires⟩ := entry
  cases expires with
  | none => rfl
  | some instant =>
    obtain ⟨now, shown, before⟩ := ahead instant rfl
    have reading : state.clock.instant? = some now := shown
    have early : instant.notAfter now = false := by simpa [Instant.notAfter] using before
    simp [Entry.readAt, reading, early]

/-- An upload that returns has stored its payload, with the time of its expiry. -/
theorem upload_eq_ok {upload : Upload} {scene after : Scene MemoryStore} {returned : Option String}
    (ran : MemoryStore.upload upload scene = .ok returned after) :
    ∃ key, Reference.accepted upload.key = .ok key ∧
      returned = some (referenceFor key scene) ∧
      after.rest = scene.rest.put (referenceFor key scene)
        ⟨upload.source.remaining, upload.expires?⟩ := by
  rw [upload_run] at ran
  cases accepted : accepts upload (scene.isCancelled upload.signal) with
  | error failure => simp [accepted] at ran
  | ok key =>
    cases due : upload.expiry with
    | error failure => simp [accepted, store?, due] at ran
    | ok expires =>
      simp only [accepted, store?, due] at ran
      cases ran
      exact ⟨key, accepted_of_accepts accepted, rfl, by rw [Upload.expires?_of_expiry due]; rfl⟩

/-- What is there and has not expired is fetched whole, and nothing changes. -/
theorem fetch_held {given : Option String} {reference : String} {entry : Entry}
    {signal : Option Signal} {scene : Scene MemoryStore}
    (accepted : Reference.accepted given = .ok reference)
    (free : scene.isCancelled signal = false)
    (found : scene.rest.entries.get? reference = some entry)
    (ahead : shelf.IsAhead scene.rest entry.expires) :
    store.fetch given signal scene = .ok entry.data scene := by
  have opened : MemoryStore.download given signal scene = .ok (.ofBytes entry.data) scene := by
    simp [download_run, accepted, free, open?, found, readAt_of_isAhead entry ahead]
  change (MemoryStore.download given signal >>= fun stream => ByteStream.reader.drain.within stream)
    scene = _
  rw [Action.bind_of_ok opened, ByteStream.reads_ofBytes]

theorem fetch_lasting {given : Option String} {reference : String} {bytes : Bytes}
    {signal : Option Signal} {scene : Scene MemoryStore}
    (accepted : Reference.accepted given = .ok reference)
    (free : scene.isCancelled signal = false)
    (found : scene.rest.entries.get? reference = some ⟨bytes, none⟩) :
    store.fetch given signal scene = .ok bytes scene :=
  fetch_held accepted free found (by rintro _ ⟨⟩)

theorem worksOn : store.WorksOn shelf .numbered where
  upload ran := by
    obtain ⟨key, accepted, returned, stored⟩ := upload_eq_ok ran
    refine ⟨key, _, accepted, returned, shelf_holds_iff.mpr ?_, fun _ due => due⟩
    rw [stored]
    exact get?_put_self _ _ _
  fetch {given reference bytes expires scene} accepted holds ahead := by
    have fetched := fetch_held accepted scene.isCancelled_none (shelf_holds_iff.mp holds) ahead
    exact ⟨scene, fetched, holds⟩
  delete {given reference} scene accepted := by
    have ran : store.delete given none scene =
        .ok () (scene.withRest (scene.rest.drop reference)) := by
      simp [store, delete_run, accepted]
    constructor
    · intro other
      simp only [Action.sceneAfter, ran, Scene.withRest_rest, shelf, drop, Table.get?_erase]
      split <;> rfl
    · intro _
      exact ⟨_, ran⟩
  named {given scene after} ran := by
    have ran : MemoryStore.delete given none scene = .ok () after := ran
    rw [delete_run] at ran
    cases accepted : Reference.accepted given with
    | error failure => simp [accepted] at ran
    | ok reference => exact ⟨reference, rfl⟩

end MemoryStore

namespace CloudStore

variable {ρ β : Type} {store : CloudStore ρ β} {reading : CallReading}
  {objects : ρ → String → Option Bytes} {left : β → Bytes}

theorem worksOn (speaks : store.service.Speaks store.options.container reading)
    (isMap : store.client.IsMap reading objects left) :
    store.toStore.WorksOn (.ofObjects objects) (.under store.options.path) where
  upload ran := by
    obtain ⟨key, accepted, returned, stored⟩ := upload_eq_ok speaks isMap ran
    exact ⟨key, none, accepted, returned, ⟨stored, rfl⟩, by simp⟩
  fetch accepted holds _ := by
    obtain ⟨after, fetched, same⟩ := fetch_held speaks isMap accepted holds.1
    exact ⟨after, fetched, ⟨(congrFun same _).trans holds.1, holds.2⟩⟩
  delete scene accepted := delete_named speaks isMap accepted scene
  named ran := by
    obtain ⟨reference, _, accepted, -⟩ := Action.bind_eq_ok.mp ran
    rw [Reference.given_run] at accepted
    exact ⟨reference, (Action.ofExcept_eq_ok.mp accepted).1⟩

end CloudStore

/-- The stores that there are: the one in memory, and those in a bucket or a container, whatever
their options, behind a client that keeps a map. -/
inductive Provided : {ρ τ : Type} → Store ρ τ → Shelf ρ → Naming → Prop
  | memory : Provided MemoryStore.store MemoryStore.shelf .numbered
  | bucket {ρ β : Type} {client : Client ρ β} {objects : ρ → String → Option Bytes}
      {left : β → Bytes} (options : CloudOptions ρ)
      (isMap : client.IsMap (.ofBucket options.container) objects left) :
      Provided (CloudStore.toStore ⟨Bucket.service, client, options⟩) (.ofObjects objects)
        (.under options.path)
  | container {ρ β : Type} {client : Client ρ β} {objects : ρ → String → Option Bytes}
      {left : β → Bytes} (options : CloudOptions ρ)
      (isMap : client.IsMap .ofContainer objects left) :
      Provided (CloudStore.toStore ⟨Container.service, client, options⟩) (.ofObjects objects)
        (.under options.path)

theorem Provided.worksOn {ρ τ : Type} {store : Store ρ τ} {shelf : Shelf ρ} {naming : Naming}
    (provided : Provided store shelf naming) : store.WorksOn shelf naming := by
  cases provided with
  | memory => exact MemoryStore.worksOn
  | bucket options isMap => exact CloudStore.worksOn (Bucket.speaks options.container) isMap
  | container options isMap => exact CloudStore.worksOn (Container.speaks options.container) isMap

end ClaimCheck
