import ClaimCheck.Proofs.CloudOperations

/-!
The two services as cases of one kind, and uploads up to the point where they call the client: a
reference, and arguments in which everything that the store requires is still there.
-/
namespace ClaimCheck

/-- The cloud services that there are. -/
inductive Backend
  | objects
  | blobs
  deriving DecidableEq, Repr

namespace Backend

def service : Backend → Service
  | .objects => Bucket.service
  | .blobs => Container.service

/-- How the service reads the calls of a client for one of its containers. -/
def reading : Backend → (container : String) → CallReading
  | .objects, container => .ofBucket container
  | .blobs, _ => .ofContainer

theorem speaks (backend : Backend) (container : String) :
    backend.service.Speaks container (backend.reading container) := by
  cases backend with
  | objects => exact Bucket.speaks container
  | blobs => exact Container.speaks container

/-- Whether the arguments of a put ask to store only where nothing is. -/
def isConditional : Backend → Arguments → Bool
  | .objects, arguments => CallReading.text? arguments "IfNoneMatch" == some "*"
  | .blobs, arguments => arguments.get? "match_condition" matches some .ifMissing

/-- The names of the arguments that a service makes of metadata and tags. -/
def tableNames : Backend → List String
  | .objects => ["Metadata", "Tagging"]
  | .blobs => ["metadata", "tags"]

/-- No customization gets rid of what an upload must say. -/
theorem get?_sent (backend : Backend) (customized : UploadRequest) (required : Requirement)
    {name : String} {value : Argument} (plain : name ∉ backend.tableNames)
    (asked : required.params.get? name = some value) :
    (backend.service.arguments (customized.enforce required)).get? name = some value := by
  have enforced := UploadRequest.get?_enforce customized required asked
  cases backend with
  | objects =>
    obtain ⟨unnamed, untagged⟩ : name ≠ "Metadata" ∧ name ≠ "Tagging" := by
      simpa [tableNames] using plain
    exact (Bucket.get?_arguments _ unnamed untagged).trans enforced
  | blobs =>
    obtain ⟨unnamed, untagged⟩ : name ≠ "metadata" ∧ name ≠ "tags" := by
      simpa [tableNames] using plain
    exact (Container.get?_arguments _ unnamed untagged).trans enforced

/-- No customization gets rid of the condition of a careful upload. -/
theorem isConditional_enforce (backend : Backend) (customized : UploadRequest)
    (container key : String) (source : Source) (sizeHint : Option Int) (metadata : Table Json)
    (marker : Option String) (tagged : Bool) :
    backend.isConditional (backend.service.arguments (customized.enforce
      ⟨backend.service.required container key false source sizeHint, metadata, marker, tagged⟩)) =
        true := by
  have sent {name : String} {value : Argument} (plain : name ∉ backend.tableNames)
      (asked : (backend.service.required container key false source sizeHint).get? name =
        some value) :=
    backend.get?_sent customized ⟨backend.service.required container key false source sizeHint,
      metadata, marker, tagged⟩ plain asked
  cases backend with
  | objects =>
    have asked : (Bucket.service.required container key false source sizeHint).get? "IfNoneMatch" =
        some (.json (.text "*")) := by simp [Service.required, Bucket.service, Bucket.demand]
    have carried := sent (by decide) asked
    simp [isConditional, CallReading.text?, carried]
  | blobs =>
    have asked : (Container.service.required container key false source sizeHint).get?
        "match_condition" = some .ifMissing := by
      simp [Service.required, Container.service, Container.demand]
    have carried := sent (by decide) asked
    simp [isConditional, carried]

end Backend

namespace CloudStore

variable {ρ β : Type} {store : CloudStore ρ β} {scene after : Scene ρ} {upload : Upload}
  {reference : String} {arguments : Arguments}

/-- An upload up to its call: the reference, and the arguments of the put. -/
def opening (store : CloudStore ρ β) (upload : Upload) : Action ρ (String × Arguments) := do
  let (reference, marker) ← store.accept upload
  let request ← store.request reference upload marker
  return (reference, store.service.arguments request)

theorem upload_run (store : CloudStore ρ β) (upload : Upload) (scene : Scene ρ) :
    store.upload upload scene =
      match store.opening upload scene with
      | .error failure after => .error failure after
      | .ok (reference, arguments) middle =>
        ((fun _ => some reference) <$> store.attempt .uploading reference upload.signal
          (store.calling (store.client.put reference arguments) upload.signal) none) middle := by
  simp only [upload_eq, opening, Action.bind_run, calling, Action.map_run]
  cases store.accept upload scene with
  | error failure after => rfl
  | ok accepted after =>
    obtain ⟨reference, marker⟩ := accepted
    simp only
    cases store.request reference upload marker after with
    | error failure later => rfl
    | ok request later => rfl

/-- An upload that returns has called its client, and returns the reference of that call. -/
theorem attempt_of_upload_ok {returned : Option String}
    (ran : store.upload upload scene = .ok returned after) :
    ∃ reference arguments middle value,
      store.opening upload scene = .ok (reference, arguments) middle ∧
      returned = some reference ∧
      store.attempt .uploading reference upload.signal
        (store.calling (store.client.put reference arguments) upload.signal) none middle =
          .ok value after := by
  rw [upload_run] at ran
  cases opened : store.opening upload scene with
  | error failure last => simp [opened] at ran
  | ok asked middle =>
    obtain ⟨reference, arguments⟩ := asked
    simp only [opened, Action.map_run] at ran
    split at ran
    · next tried =>
      cases ran
      exact ⟨reference, arguments, middle, _, rfl, rfl, tried⟩
    · cases ran

/-- What an upload has made of its arguments when it calls the client. -/
theorem opening_eq_ok (opened : store.opening upload scene = .ok (reference, arguments) after) :
    ∃ key, Reference.accepted upload.key = .ok key ∧
      reference = Reference.under store.path key ∧
      ∃ (customized : UploadRequest) (metadata : Table Json) (marker : Option String),
        arguments = store.service.arguments (customized.enforce
          ⟨store.service.required store.options.container reference store.options.overwrite
            upload.source upload.sizeHint, metadata, marker, store.service.tagMarker⟩) := by
  obtain ⟨⟨named, marker⟩, _, accepted, opened⟩ := Action.bind_eq_ok.mp opened
  obtain ⟨request, _, built, opened⟩ := Action.bind_eq_ok.mp opened
  cases opened
  obtain ⟨key, proposed, same⟩ := accept_eq_ok accepted
  obtain ⟨customized, rfl⟩ := request_eq_ok built
  exact ⟨key, proposed, same, customized, _, _, rfl⟩

/-- A put asks for what its upload was given, under the reference. -/
theorem stored_opening {backend : Backend} {client : Client ρ β} {options : CloudOptions ρ}
    (opened : CloudStore.opening ⟨backend.service, client, options⟩ upload scene =
      .ok (reference, arguments) after) :
    (backend.reading options.container).stored? reference arguments =
      some (reference, upload.source.remaining) := by
  obtain ⟨_, -, -, customized, metadata, marker, rfl⟩ := opening_eq_ok opened
  exact (backend.speaks options.container).stored customized reference options.overwrite
    upload.source upload.sizeHint metadata marker backend.service.tagMarker

/-- A put of a store that does not overwrite is conditional. -/
theorem isConditional_opening {backend : Backend} {client : Client ρ β} {options : CloudOptions ρ}
    (careful : options.overwrite = false)
    (opened : CloudStore.opening ⟨backend.service, client, options⟩ upload scene =
      .ok (reference, arguments) after) :
    backend.isConditional arguments = true := by
  obtain ⟨_, -, -, customized, metadata, marker, rfl⟩ := opening_eq_ok opened
  simp only [careful]
  exact backend.isConditional_enforce customized options.container reference upload.source
    upload.sizeHint metadata marker backend.service.tagMarker

/-- A store that may neither overwrite nor ask for a condition takes no payload that passes the
checks before. -/
theorem opening_unsupported (careful : store.options.overwrite = false)
    (unsupported : store.options.supportsConditionalPut = false) (upload : Upload)
    (scene : Scene ρ) :
    store.opening upload scene =
      match upload.checked (scene.isCancelled upload.signal) with
      | .error failure => .error failure scene
      | .ok _ => .error (.store .conditionalPutNotSupported) scene := by
  have refused : store.options.ensureSupported =
      .error (.store .conditionalPutNotSupported) := by
    simp [CloudOptions.ensureSupported, careful, unsupported]
  rw [opening, Action.bind_run, accept_run, CloudOptions.accepts, refused]
  cases upload.checked (scene.isCancelled upload.signal) <;> rfl

end CloudStore
end ClaimCheck
