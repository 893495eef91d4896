import ClaimCheck.Proofs.ClaimHeaders
import ClaimCheck.Proofs.ClientCalls
import ClaimCheck.Proofs.FormText
import ClaimCheck.Proofs.RequestScripts
import ClaimCheck.Proofs.UploadChecks

/-!
The time of expiry as cloud stores record it. Every put of an upload says it in the metadata, and
where objects have tags, in a tag, whatever metadata are fixed and whatever a caller changes.
-/
namespace ClaimCheck

namespace Table

variable {α : Type}

private theorem lookup_entries (table : Table α) (name : String) :
    table.entries.lookup name = table.get? name := by
  obtain ⟨entries, nodup⟩ := table
  simp only [get?]
  induction entries with
  | nil => rfl
  | cons entry rest ih =>
    obtain ⟨own, value⟩ := entry
    have ih := ih (List.nodup_cons.mp nodup).2
    by_cases same : own = name
    · subst same
      simp
    · have other : (name == own) = false := beq_false_of_ne (Ne.symm same)
      simp [List.lookup_cons, other, same, ih]

theorem get?_map {β : Type} (change : α → β) (table : Table α) (name : String) :
    (table.map change).get? name = (table.get? name).map change := by
  simp only [Table.map, get?, List.find?_map, Function.comp_def, Option.map_map]

private theorem isEmpty_of_get? {table : Table α} {name : String} {value : α}
    (found : table.get? name = some value) : table.isEmpty = false := by
  obtain ⟨entries, nodup⟩ := table
  cases entries with
  | nil => cases found
  | cons => rfl

end Table

namespace Backend

/-- The argument that holds metadata. -/
def metadataName : Backend → String
  | .objects => "Metadata"
  | .blobs => "metadata"

/-- Whether the arguments of a put give a text as the time of expiry: in the metadata, and in the
tags of an object. -/
def SaysExpiry (backend : Backend) (arguments : Arguments) (text : String) : Prop :=
  (∃ members, arguments.get? backend.metadataName = some (.json (.object members)) ∧
    members.lookup expiresMarkerKey = some (.text text)) ∧
  (backend = .objects → ∃ form, arguments.get? "Tagging" = some (.json (.text form)) ∧
    Text.Form.Says form expiresMarkerKey text)

private theorem saysExpiry_arguments (backend : Backend) {request : UploadRequest} {text : String}
    (written : request.metadata.get? expiresMarkerKey = some (.text text))
    (tagged : backend.service.tagMarker = true →
      request.tags.get? expiresMarkerKey = some (.text text)) :
    backend.SaysExpiry (backend.service.arguments request) text := by
  have filled := Table.isEmpty_of_get? written
  have member := (request.metadata.lookup_entries expiresMarkerKey).trans written
  cases backend with
  | objects =>
    have marked := tagged rfl
    have tags := Table.isEmpty_of_get? marked
    have pair : (request.tags.map Json.display).entries.lookup expiresMarkerKey =
        some text := by
      rw [Table.lookup_entries, Table.get?_map, marked]
      rfl
    refine ⟨⟨request.metadata.entries, ?_, member⟩,
      fun _ => ⟨_, ?_, Text.Form.says_encode pair⟩⟩
    · simp [service, Bucket.service, Bucket.arguments, metadataName, filled, tags]
    · simp [service, Bucket.service, Bucket.arguments, tags]
  | blobs =>
    refine ⟨⟨request.metadata.entries, ?_, member⟩, fun same => by cases same⟩
    cases tags : request.tags.isEmpty <;>
      simp [service, Container.service, Container.arguments, metadataName, filled, tags]

end Backend

namespace CloudStore

variable {ρ β : Type} {backend : Backend} {client : Client ρ β} {options : CloudOptions ρ}
  {scene after : Scene ρ} {upload : Upload} {reference : String} {arguments : Arguments}

/-- An upload that comes to its call says when its payload expires, if the store is to say so. -/
theorem saysExpiry_opening {moment : Moment} {instant : Instant}
    (emits : options.emitExpiresMarker = true) (given : upload.expiresAt = some moment)
    (due : moment.instant? = some instant)
    (opened : CloudStore.opening ⟨backend.service, client, options⟩ upload scene =
      .ok (reference, arguments) after) : backend.SaysExpiry arguments instant.iso := by
  obtain ⟨⟨named, marker⟩, _, accepted, opened⟩ := Action.bind_eq_ok.mp opened
  obtain ⟨request, _, built, opened⟩ := Action.bind_eq_ok.mp opened
  cases opened
  obtain ⟨-, -, -, marking⟩ := CloudOptions.accepts_eq_ok (accepts_of_accept accepted)
  have marked : marker = some instant.iso := by
    simpa [CloudOptions.marker, given, emits, due, eq_comm] using marking
  obtain ⟨customized, rfl⟩ := request_eq_ok built
  apply backend.saysExpiry_arguments
  · simp [UploadRequest.get?_metadata_enforce, Requirement.metadataAt, marked]
  · intro tagged
    simp [UploadRequest.get?_tags_enforce, Requirement.tagAt, marked, tagged]

private theorem put_of_upload {store : CloudStore ρ β} {returned : Option String}
    (ran : store.upload upload scene = .ok returned after) :
    ∃ reference arguments, .put reference arguments ∈ store.uploadCalls upload scene := by
  obtain ⟨reference, arguments, middle, value, opened, -, tried⟩ := attempt_of_upload_ok ran
  obtain ⟨_, _, acquired, -⟩ := Action.bind_eq_ok.mp (attempt_eq_ok tried)
  refine ⟨reference, arguments, ?_⟩
  simp [uploadCalls, opened, putCalls, acquired]

private theorem putCalls_watched (store : CloudStore ρ β) (reference : String)
    (arguments : Arguments) (scene : Scene (List ClientCall × ρ)) :
    store.watched.putCalls reference arguments scene =
      store.putCalls reference arguments scene.outer := by
  have acquires : store.watched.client.acquire scene =
      (store.client.acquire.on .second)
        { scene with rest := (scene.rest.1 ++ [.acquire], scene.rest.2) } := rfl
  have same : ({ scene with rest := (scene.rest.1 ++ [.acquire], scene.rest.2) } :
    Scene (List ClientCall × ρ)).withRest scene.rest.2 = scene.outer := rfl
  simp only [putCalls, acquires, Action.on, Part.second, same]
  cases store.client.acquire scene.outer <;> rfl

private theorem uploadCalls_watched (store : CloudStore ρ β) (upload : Upload)
    (scene : Scene (List ClientCall × ρ)) :
    store.watched.uploadCalls upload scene = store.uploadCalls upload scene.outer := by
  have opens : store.watched.opening upload scene = (store.opening upload).on .second scene := by
    rw [opening_watched]
  have same : scene.withRest (Part.second.get scene.rest) = scene.outer := rfl
  simp only [uploadCalls, opens, Action.on, same]
  cases store.opening upload scene.outer with
  | error failure after => rfl
  | ok asked middle => exact putCalls_watched store asked.1 asked.2 _

end CloudStore

namespace Policy

variable {ρ τ : Type} {policy : Policy} {envelope : Envelope} {signal : Option Signal}

/-- An expiring body is sent on with the text of its time of expiry. -/
theorem prepare_expiring {store : Store ρ τ} {moment : Moment} {instant : Instant}
    {scene after : Scene ρ} {out : Envelope} (large : policy.threshold < envelope.body.length)
    (due : moment.instant? = some instant)
    (ran : policy.prepare (some store) (some envelope) (some moment) signal scene =
      .ok out after) :
    ∃ returned, store.upload (policy.offer envelope (some moment) signal) scene =
        .ok returned after ∧
      out.headers.get? Headers.expiresName = some instant.iso := by
  rw [prepare_eq store _ _ large] at ran
  obtain ⟨returned, middle, uploaded, ran⟩ := Action.bind_eq_ok.mp ran
  obtain ⟨concluded, rfl⟩ := Action.ofExcept_eq_ok.mp ran
  refine ⟨returned, uploaded, ?_⟩
  cases returned with
  | none => cases concluded
  | some reference =>
    have expiry : (policy.offer envelope (some moment) signal).expiry = .ok (some instant) := by
      simp [Upload.expiry, offer, due]
    simp only [Policy.concluded, expiry] at concluded
    split at concluded
    · cases concluded
    · cases concluded
      exact (policy.get?_claim envelope reference _ _).trans (if_pos (by decide))

/-- Every put that sending makes says the time of expiry, and an envelope that is sent on says it
too, after a put was made. -/
theorem records_expiry {β : Type} (backend : Backend) (client : Client ρ β)
    (options : CloudOptions ρ) (signal : Option Signal) {moment : Moment} {instant : Instant}
    (large : policy.threshold < envelope.body.length) (due : moment.instant? = some instant)
    (emits : options.emitExpiresMarker = true) (scene : Scene (List ClientCall × ρ)) :
    let store : CloudStore ρ β := ⟨backend.service, client, options⟩
    let prepared := policy.prepare (some store.watched.toStore) (some envelope) (some moment) signal
    ∃ calls, (prepared.sceneAfter scene).rest.1 = scene.rest.1 ++ calls ∧
      (∀ key arguments, .put key arguments ∈ calls → backend.SaysExpiry arguments instant.iso) ∧
      ∀ out after, prepared scene = .ok out after →
        out.headers.get? Headers.expiresName = some instant.iso ∧
          ∃ key arguments, .put key arguments ∈ calls := by
  intro store prepared
  let offer := policy.offer envelope (some moment) signal
  refine ⟨store.uploadCalls offer scene.outer, ?_, ?_, ?_⟩
  · have concluding (returned : Option String) :
        Action.Leaves Prod.fst (ρ := List ClientCall × ρ)
          (Action.ofExcept (policy.concluded envelope (some moment) signal returned)) :=
      Action.leaves_ofExcept _
    simp only [prepared, prepare_eq store.watched.toStore _ _ large]
    rw [← store.upload_watched_calls offer scene, Action.sceneAfter_bind]
    change _ = ((store.watched.toStore.upload offer).sceneAfter scene).rest.1
    simp only [Action.sceneAfter, offer]
    cases store.watched.toStore.upload (policy.offer envelope (some moment) signal) scene with
    | error failure after => rfl
    | ok returned after => exact concluding returned after
  · intro key arguments called
    simp only [CloudStore.uploadCalls, CloudStore.putCalls] at called
    cases opened : store.opening offer scene.outer with
    | error failure after => simp [opened] at called
    | ok asked middle =>
      obtain ⟨reference, own⟩ := asked
      simp only [opened] at called
      have same : arguments = own := by
        cases acquired : store.client.acquire middle <;> simp [acquired] at called
        exact called.2
      exact CloudStore.saysExpiry_opening emits rfl due (same ▸ opened)
  · intro out after ran
    obtain ⟨returned, uploaded, stated⟩ := prepare_expiring large due ran
    rw [← store.uploadCalls_watched offer scene]
    exact ⟨stated, CloudStore.put_of_upload uploaded⟩

end Policy
end ClaimCheck
