import ClaimCheck.Proofs.ActionOutcome
import ClaimCheck.Proofs.Naming
import ClaimCheck.Store.Memory

/-!
What each operation of the store in memory comes to, in one equation: which check fails first, and
what becomes of the scene.
-/
namespace ClaimCheck

namespace Reference

/-- The normal form of a reference that a caller gives, or what is wrong with it. -/
def accepted (reference : Option String) : Except Failure String :=
  match reference with
  | none => .error (.misuse .noReference)
  | some reference =>
    match normalize reference with
    | .ok bare => .ok bare
    | .error error => .error (.store error)

theorem given_run (reference : Option String) (scene : Scene ρ) :
    given reference scene = Action.ofExcept (accepted reference) scene := by
  cases reference with
  | none => rfl
  | some reference =>
    cases normal : normalize reference <;> simp [given, accepted, normal]

theorem accepted_some_iff {reference normal : String} :
    accepted (some reference) = .ok normal ↔ normalize reference = .ok normal := by
  cases found : normalize reference <;> simp [accepted, found]

theorem exists_of_accepted {reference : Option String} {normal : String}
    (taken : accepted reference = .ok normal) : ∃ given, normalize given = .ok normal := by
  cases reference with
  | none => cases taken
  | some given => exact ⟨given, accepted_some_iff.mp taken⟩

end Reference

theorem Moment.instant_run (moment : Moment) (scene : Scene ρ) :
    moment.instant scene =
      match moment.instant? with
      | some instant => .ok instant scene
      | none => .error .outOfRange scene := by
  cases found : moment.instant? <;> simp [Moment.instant, found]

/-- The time of expiry of an upload as an instant, which it may fail to be. -/
def Upload.expiry (upload : Upload) : Except Failure (Option Instant) :=
  match upload.expiresAt with
  | none => .ok none
  | some moment =>
    match moment.instant? with
    | some instant => .ok (some instant)
    | none => .error .outOfRange

/-- Whether a clock has reached a time of expiry, if there is one. -/
def Moment.hasReached (clock : Moment) (expires : Option Instant) : Bool :=
  match expires, clock.instant? with
  | some expires, some now => expires.notAfter now
  | _, _ => false

def Upload.expires? (upload : Upload) : Option Instant :=
  upload.expiresAt.bind Moment.instant?

theorem Upload.expires?_of_expiry {upload : Upload} {expires : Option Instant}
    (due : upload.expiry = .ok expires) : upload.expires? = expires := by
  cases given : upload.expiresAt with
  | none => simpa [Upload.expiry, Upload.expires?, given] using due
  | some moment =>
    cases instant : moment.instant? with
    | none => simp [Upload.expiry, given, instant] at due
    | some now => simpa [Upload.expiry, Upload.expires?, given, instant] using due

/-- The scene after an identifier was taken. -/
def Scene.drawn (scene : Scene ρ) : Scene ρ :=
  { scene with ids := scene.ids.next.2 }

namespace MemoryStore

/-- A store with nothing in it. -/
def vacant : MemoryStore := ⟨∅, ⟨5, none, by decide⟩⟩

def put (reference : String) (entry : Entry) (store : MemoryStore) : MemoryStore :=
  { store with entries := store.entries.set reference entry }

theorem get?_put_self (reference : String) (entry : Entry) (store : MemoryStore) :
    (store.put reference entry).entries.get? reference = some entry :=
  (Table.get?_set _ _ _ _).trans (if_pos rfl)

def drop (reference : String) (store : MemoryStore) : MemoryStore :=
  { store with entries := store.entries.erase reference }

/-- The checks of an upload in their order, and the normal form of its key. -/
def accepts (upload : Upload) (cancelled : Bool) : Except Failure String :=
  match upload.source.ensureReadable, ensureSizeHint upload.sizeHint with
  | .error failure, _ => .error failure
  | .ok _, .error failure => .error failure
  | .ok _, .ok _ => if cancelled then .error .cancelledByCaller else Reference.accepted upload.key

theorem accepted_of_accepts {upload : Upload} {cancelled : Bool} {key : String}
    (accepted : accepts upload cancelled = .ok key) : Reference.accepted upload.key = .ok key := by
  simp only [accepts] at accepted
  split at accepted
  · cases accepted
  · cases accepted
  · cases cancelled
    · exact accepted
    · cases accepted

/-- The reference that an upload under a key is about to get. -/
def referenceFor (key : String) (scene : Scene MemoryStore) : String :=
  key ++ "/" ++ scene.ids.next.1

/-- A reference names itself if its key does not start with a blank. -/
theorem normalize_referenceFor {reference : Option String} {key : String}
    (taken : Reference.accepted reference = .ok key) (visible : Text.startsBlank key = false)
    (scene : Scene MemoryStore) :
    Reference.normalize (referenceFor key scene) = .ok (referenceFor key scene) := by
  obtain ⟨given, normal⟩ := Reference.exists_of_accepted taken
  have sound : Naming.isSound .numbered key = true := by simp [Naming.isSound, visible]
  exact (Naming.normalize_reference_iff .numbered normal scene.ids).mpr sound

/-- What an upload does once its checks are passed. -/
def store? (upload : Upload) (key : String) (scene : Scene MemoryStore) :
    EStateM.Result Failure (Scene MemoryStore) (Option String) :=
  match upload.expiry with
  | .error failure => .error failure scene.drawn
  | .ok expires =>
    .ok (some (referenceFor key scene))
      (scene.drawn.withRest
        (scene.rest.put (referenceFor key scene) ⟨upload.source.remaining, expires⟩))

theorem upload_run (upload : Upload) (scene : Scene MemoryStore) :
    MemoryStore.upload upload scene =
      match accepts upload (scene.isCancelled upload.signal) with
      | .error failure => .error failure scene
      | .ok key => store? upload key scene := by
  simp only [MemoryStore.upload, Action.bind_run, Action.ensureNotCancelled_run,
    Reference.given_run, accepts]
  cases upload.source.ensureReadable with
  | error failure => simp
  | ok =>
    cases ensureSizeHint upload.sizeHint with
    | error failure => simp
    | ok =>
      cases raised : scene.isCancelled upload.signal with
      | true => simp [raised]
      | false =>
        cases Reference.accepted upload.key with
        | error failure => simp [raised]
        | ok key =>
          cases due : upload.expiresAt with
          | none =>
            simp only [Action.ofExcept_ok, raised]
            simp [Action.bind_run, store?, Upload.expiry, due]
            exact ⟨rfl, rfl⟩
          | some moment =>
            simp only [Action.ofExcept_ok, raised]
            cases instant : moment.instant? with
            | none => simp [Action.bind_run, Moment.instant_run, store?, Upload.expiry, due, instant,
                Scene.drawn]
            | some instant =>
              simp [Action.bind_run, Moment.instant_run, store?, Upload.expiry, due, instant]
              exact ⟨rfl, rfl⟩

theorem upload_of_unaccepted {upload : Upload} {scene : Scene MemoryStore} {failure : Failure}
    (unaccepted : accepts upload (scene.isCancelled upload.signal) = .error failure) :
    MemoryStore.upload upload scene = .error failure scene := by
  rw [upload_run, unaccepted]

/-- What an entry that was found gives at a reading of the clock. -/
def Entry.readAt (entry : Entry) (clock : Moment) : Except Failure Bool :=
  match entry.expires with
  | none => .ok true
  | some expires =>
    match clock.instant? with
    | none => .error .outOfRange
    | some now => .ok (!expires.notAfter now)

theorem readAt_of_readable (entry : Entry) {clock : Moment} (readable : clock.instant?.isSome) :
    entry.readAt clock = .ok (!clock.hasReached entry.expires) := by
  obtain ⟨now, instant⟩ := Option.isSome_iff_exists.mp readable
  cases due : entry.expires <;> simp [Entry.readAt, Moment.hasReached, due, instant]

theorem hasReached_of_readAt {entry : Entry} {clock : Moment}
    (reading : entry.readAt clock = .ok false) : clock.hasReached entry.expires = true := by
  cases due : entry.expires with
  | none => simp [Entry.readAt, due] at reading
  | some expires =>
    cases instant : clock.instant? with
    | none => simp [Entry.readAt, due, instant] at reading
    | some now => simpa [Entry.readAt, Moment.hasReached, due, instant] using reading

def expired (reference : String) : Failure :=
  .store (.notFound reference s!"Payload reference '{reference}' has expired.")

/-- What a download does once its reference is accepted. -/
def open? (reference : String) (scene : Scene MemoryStore) :
    EStateM.Result Failure (Scene MemoryStore) ByteStream :=
  match scene.rest.entries.get? reference with
  | none => .error (.store (.notFound reference)) scene
  | some entry =>
    match entry.readAt scene.rest.clock with
    | .error failure => .error failure scene
    | .ok true => .ok (.ofBytes entry.data) scene
    | .ok false => .error (expired reference) (scene.withRest (scene.rest.drop reference))

theorem download_run (reference : Option String) (signal : Option Signal)
    (scene : Scene MemoryStore) :
    MemoryStore.download reference signal scene =
      match Reference.accepted reference with
      | .error failure => .error failure scene
      | .ok reference =>
        if scene.isCancelled signal then .error .cancelledByCaller scene
        else open? reference scene := by
  simp only [MemoryStore.download, Action.bind_run, Action.ensureNotCancelled_run,
    Reference.given_run]
  cases Reference.accepted reference with
  | error failure => simp
  | ok reference =>
    cases raised : scene.isCancelled signal with
    | true => simp [raised]
    | false =>
      simp [raised, open?]
      cases found : scene.rest.entries.get? reference with
      | none => rfl
      | some entry =>
        cases due : entry.expires with
        | none => simp [Entry.readAt, due]
        | some expires =>
          cases instant : scene.rest.clock.instant? with
          | none => simp [Action.bind_run, Moment.instant_run, Entry.readAt, due, instant]
          | some now =>
            cases late : expires.notAfter now <;>
              simp [Action.bind_run, Moment.instant_run, Entry.readAt, Entry.isExpired, due,
                instant, late, expired, drop]
            rfl

theorem delete_run (reference : Option String) (signal : Option Signal)
    (scene : Scene MemoryStore) :
    MemoryStore.delete reference signal scene =
      match Reference.accepted reference with
      | .error failure => .error failure scene
      | .ok reference =>
        if scene.isCancelled signal then .error .cancelledByCaller scene
        else .ok () (scene.withRest (scene.rest.drop reference)) := by
  simp only [MemoryStore.delete, Action.bind_run, Action.ensureNotCancelled_run,
    Reference.given_run]
  cases Reference.accepted reference with
  | error failure => simp
  | ok reference =>
    cases raised : scene.isCancelled signal <;> simp [raised]
    rfl

end MemoryStore
end ClaimCheck
