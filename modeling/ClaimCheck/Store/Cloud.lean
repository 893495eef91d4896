import ClaimCheck.Cancellation
import ClaimCheck.Payload.Upload
import ClaimCheck.Store.Basic

/-!
Stores behind the client of a cloud service. What the two services have in common is here: the order
of checks, the request, and what every failure means in the vocabulary of stores. What they
differ in is one record.
-/
namespace ClaimCheck

/-- What a call was for. -/
inductive Purpose
  | uploading
  | downloading
  | deleting
  | reading
  deriving DecidableEq, Repr

def Purpose.word : Purpose → String
  | .uploading => "uploading"
  | .downloading => "downloading"
  | .deleting => "deleting"
  | .reading => "reading"

/-- What an error of a client means. -/
inductive Meaning
  | accessDenied
  | alreadyExists
  | conditionalConflict
  | notFound
  | unavailable
  | containerMissing
  | unclassified
  /-- What was to be deleted is not there. -/
  | alreadyGone
  /-- No error of this service. -/
  | foreign
  /-- Finding out ends in another error. -/
  | unread (fault : Fault)
  deriving DecidableEq, Repr

/-- What is raised in the place of an error that becomes no store error. -/
def Meaning.escaping (meaning : Meaning) (failure : Failure) : Failure :=
  match meaning with
  | .unread fault => .fault fault
  | _ => failure

/-- Statuses of an access that is not allowed. -/
def isAccessDenied (status : Option Int) : Bool :=
  status == some 401 || status == some 403

/-- Statuses worth another try: a timeout, too many requests, and every failure of the server. -/
def isTransient (status : Option Int) : Bool :=
  status == some 408 || status == some 429 || status.any fun n => 500 ≤ n && n ≤ 599

/-- The options of a cloud store, which keeps payloads in one container, possibly under a path. -/
structure CloudOptions (ρ : Type) where
  container : String
  path : Option String
  overwrite : Bool
  emitExpiresMarker : Bool
  supportsConditionalPut : Bool
  metadata : Option (Table String)
  customize : Option (Customization ρ)

/-- The client of a cloud service: calls by key and arguments, and the bodies that downloads open. A
size that is not given reads to the end, and `pieces` bounds the count of non-empty pieces left. -/
structure Client (ρ β : Type) where
  acquire : Action ρ Unit
  put : String → Arguments → Call ρ Unit
  get : String → Arguments → Call ρ β
  delete : String → Arguments → Call ρ Unit
  read : Option Nat → Call (β × ρ) Bytes
  close : Action (β × ρ) Unit
  pieces : β → Nat

/-- What sets one cloud service apart from another. -/
structure Service where
  /-- The name in messages of unavailability, and the shorter one in the others. -/
  title : String
  shortTitle : String
  containerTitle : String
  /-- Whether the length of a payload must be known, so that it may have to be read first. -/
  needsLength : Bool
  /-- What an upload must say of a prepared payload, apart from metadata. -/
  demand : (container key : String) → (overwrite : Bool) → Source → Option Int → Arguments
  /-- The arguments of a call, from the finished request. -/
  arguments : UploadRequest → Arguments
  tagMarker : Bool
  downloadArguments : (container key : String) → Arguments
  deleteArguments : (container key : String) → Arguments
  /-- The meaning of an error; `conditional` if the call was to store only where nothing is. -/
  meaning : (purpose : Purpose) → (conditional : Bool) → Fault → Meaning
  /-- How an unclassified error reads in a warning. -/
  describe : Fault → String

namespace Service

/-- What an upload must say, apart from metadata. -/
def required (service : Service) (container key : String) (overwrite : Bool) (source : Source)
    (sizeHint : Option Int) : Arguments :=
  let (body, length) := source.prepared service.needsLength sizeHint
  service.demand container key overwrite body length

def unavailable (service : Service) (purpose : Purpose) (reference : String) : StoreError :=
  .unavailable
    s!"{service.title} is unavailable while {purpose.word} payload reference '{reference}'."
    reference

def containerMissing (service : Service) (container : String) (purpose : Purpose)
    (reference : String) : StoreError :=
  .unavailable
    s!"{service.containerTitle} '{container}' was not found while {purpose.word} payload reference '{reference}'."
    reference

def unclassified (service : Service) (purpose : Purpose) (reference : String) : StoreError :=
  let word := if purpose = .reading then "read" else purpose.word
  .unclassified s!"{service.shortTitle} {word} failed for payload reference '{reference}'."
    reference

def accessDenied (purpose : Purpose) (reference : String) : StoreError :=
  match purpose with
  | .uploading | .deleting =>
    .accessDenied reference
      s!"Access denied while {purpose.word} payload reference '{reference}'."
  | _ => .accessDenied reference

/-- The store error that an error of the client becomes, if it becomes one. -/
def storeError? (service : Service) (container : String) (purpose : Purpose) (reference : String) :
    Meaning → Option StoreError
  | .accessDenied => some (accessDenied purpose reference)
  | .alreadyExists => some (.alreadyExists reference)
  | .conditionalConflict => some (.conditionalConflict reference)
  | .notFound => some (.notFound reference)
  | .unavailable => some (service.unavailable purpose reference)
  | .containerMissing => some (service.containerMissing container purpose reference)
  | .unclassified => some (service.unclassified purpose reference)
  | .alreadyGone => none
  | .foreign => none
  | .unread _ => none

def warning (service : Service) (purpose : Purpose) (reference : String) (fault : Fault) : String :=
  s!"Unclassified {service.shortTitle} error while {purpose.word} {reference}: {service.describe fault}"

end Service

/-- A payload being read: the client's body, and the reference and signal of its download. -/
structure CloudStream (β : Type) where
  body : β
  reference : String
  signal : Option Signal
  closed : Bool

/-- A store in a container of a cloud service. -/
structure CloudStore (ρ β : Type) where
  service : Service
  client : Client ρ β
  options : CloudOptions ρ

namespace CloudStore

variable {ρ β : Type}

def path (store : CloudStore ρ β) : Option String :=
  Reference.normalizePath store.options.path

/-- Whether uploads store only where nothing is. -/
def isConditional (store : CloudStore ρ β) : Bool :=
  !store.options.overwrite && store.options.supportsConditionalPut

/-- Run the call of an operation. A cancellation that is not the caller's own means that the service
is unavailable; every error of the service's client becomes a store error. -/
def attempt (store : CloudStore ρ β) (purpose : Purpose) (reference : String)
    (signal : Option Signal) (call : Action ρ α) (gone : Option α) : Action ρ α :=
  call.recover fun failure =>
    match failure with
    | .cancelled message => fun scene =>
      if scene.callerCancelled signal then .error failure scene
      else .error (.store
        ((store.service.unavailable purpose reference).withCause (.cancelled message))) scene
    | .fault fault => do
      let meaning := store.service.meaning purpose store.isConditional fault
      if meaning = .unclassified then
        Action.warn (store.service.warning purpose reference fault)
      match store.service.storeError? store.options.container purpose reference meaning, gone with
      | some error, _ => throw (.store (error.withCause (.fault fault)))
      | none, some value =>
        if meaning = .alreadyGone then return value else throw (meaning.escaping failure)
      | none, none => throw (meaning.escaping failure)
    | _ => throw failure

/-- A request that says what it must, with the marker of an expiry. -/
def requestOf (store : CloudStore ρ β) (required : Arguments) (expiresMarker : Option String) :
    Action ρ UploadRequest :=
  UploadRequest.build
    ⟨required, (Metadata.required store.options.metadata expiresMarker).map .text, expiresMarker,
      store.service.tagMarker⟩
    store.options.customize

/-- The request of an upload under a key, with the marker of its expiry. -/
def request (store : CloudStore ρ β) (reference : String) (upload : Upload)
    (expiresMarker : Option String) : Action ρ UploadRequest :=
  store.requestOf
    (store.service.required store.options.container reference store.options.overwrite
      upload.source upload.sizeHint)
    expiresMarker

/-- The checks that come before any call, in their order: the reference that they accept, and the
marker of its expiry. -/
def accept (store : CloudStore ρ β) (upload : Upload) : Action ρ (String × Option String) := do
  Action.ofExcept upload.source.ensureReadable
  Action.ofExcept (ensureSizeHint upload.sizeHint)
  Action.ensureNotCancelled upload.signal
  Action.ensure (store.options.overwrite || store.options.supportsConditionalPut)
    (.store .conditionalPutNotSupported)
  let key ← Reference.given upload.key
  let reference := Reference.under store.path key
  let marker ← match upload.expiresAt with
    | some moment =>
      if store.options.emitExpiresMarker then some <$> moment.expiresMarker else pure none
    | none => pure none
  return (reference, marker)

/-- An upload, with what each step on its payload comes with. -/
def uploadBy (store : CloudStore ρ β) (take : Source.Step → Action ρ Unit) (upload : Upload) :
    Action ρ (Option String) := do
  let (reference, marker) ← store.accept upload
  let (body, length) ← upload.source.prepareBy take store.service.needsLength upload.sizeHint
  let request ← store.requestOf
    (store.service.demand store.options.container reference store.options.overwrite body length)
    marker
  store.attempt .uploading reference upload.signal
    (do
      store.client.acquire
      (store.client.put reference (store.service.arguments request)).run upload.signal)
    none
  return reference

def upload (store : CloudStore ρ β) (upload : Upload) : Action ρ (Option String) :=
  store.uploadBy (fun _ => return ()) upload

/-- The payload is prepared between the checks and the request. -/
theorem upload_eq (store : CloudStore ρ β) (upload : Upload) :
    store.upload upload = (do
      let (reference, marker) ← store.accept upload
      let request ← store.request reference upload marker
      store.attempt .uploading reference upload.signal
        (do
          store.client.acquire
          (store.client.put reference (store.service.arguments request)).run upload.signal)
        none
      return (some reference)) := by
  simp only [CloudStore.upload, uploadBy, Source.prepareBy_silent, pure_bind]
  rfl

def download (store : CloudStore ρ β) (reference : Option String) (signal : Option Signal) :
    Action ρ (CloudStream β) := do
  let reference ← Reference.given reference
  Action.ensureNotCancelled signal
  let body ← store.attempt .downloading reference signal
    (do
      store.client.acquire
      (store.client.get reference
        (store.service.downloadArguments store.options.container reference)).run signal)
    none
  return ⟨body, reference, signal, false⟩

def delete (store : CloudStore ρ β) (reference : Option String) (signal : Option Signal) :
    Action ρ Unit := do
  let reference ← Reference.given reference
  Action.ensureNotCancelled signal
  store.attempt .deleting reference signal
    (do
      store.client.acquire
      (store.client.delete reference
        (store.service.deleteArguments store.options.container reference)).run signal)
    (some ())

/-- The body of a stream as part of the scene. -/
def bodyPart : Part (CloudStream β × ρ) (β × ρ) :=
  ⟨fun state => (state.1.body, state.2),
    fun inner state => ({ state.1 with body := inner.1 }, inner.2)⟩

/-- One read of a body. A cancellation is passed on whatever its origin. -/
def read (store : CloudStore ρ β) (size : Int) : Action (CloudStream β × ρ) Bytes := do
  let (stream, _) ← Action.inspect id
  Action.ensureNotCancelled stream.signal
  let asked := if size < 0 then none else some size.toNat
  Action.recover (((store.client.read asked).on bodyPart).run stream.signal) fun failure =>
    match failure with
    | .fault fault =>
      let meaning := store.service.meaning .reading store.isConditional fault
      match store.service.storeError? store.options.container .reading stream.reference meaning with
      | some error => throw (.store (error.withCause (.fault fault)))
      | none => throw failure
    | _ => throw failure

/-- A body is closed once, however often its stream is. -/
def close (store : CloudStore ρ β) : Action (CloudStream β × ρ) Unit := do
  let (stream, _) ← Action.inspect id
  if stream.closed then return ()
  else
    Action.update fun state => ({ state.1 with closed := true }, state.2)
    store.client.close.on bodyPart

def reader (store : CloudStore ρ β) : StreamReader ρ (CloudStream β) :=
  ⟨store.read, store.close, fun stream => store.client.pieces stream.body⟩

def toStore (store : CloudStore ρ β) : Store ρ (CloudStream β) :=
  ⟨store.upload, store.download, store.delete, store.reader⟩

end CloudStore
end ClaimCheck
