import ClaimCheck.Proofs.RecordedExpiry

/-!
The tags of objects. Tags travel as a form, and what is decoded from it is the tags of the finished
request, whatever texts they are; only where there are none, a parameter of the form's name goes out
as a caller set it.
-/
namespace ClaimCheck

private theorem Table.map_display_text (tags : Table String) :
    (tags.map Json.text).map Json.display = tags := by
  obtain ⟨entries, nodup⟩ := tags
  simp [Table.map, Function.comp_def, Json.display]

private theorem Table.isEmpty_map {α β : Type} (change : α → β) (table : Table α) :
    (table.map change).isEmpty = table.isEmpty :=
  List.isEmpty_map

/-- The form of the tags goes before a parameter of its name. -/
theorem Bucket.get?_tagging (request : UploadRequest) :
    (arguments request).get? "Tagging" =
      if request.tags.isEmpty then request.params.get? "Tagging"
      else some (.json (.text (Text.Form.encode (request.tags.map Json.display).entries))) := by
  simp only [arguments]
  split <;> split <;> simp

namespace CloudStore

variable {ρ β : Type} {store : CloudStore ρ β} {scene after : Scene ρ} {upload : Upload}
  {request : UploadRequest}

/-- An upload up to its finished request, which a caller may have changed. -/
def finished (store : CloudStore ρ β) (upload : Upload) : Action ρ UploadRequest := do
  let (reference, marker) ← store.accept upload
  store.request reference upload marker

private theorem opening_of_finished (finished : store.finished upload scene = .ok request after) :
    ∃ reference, store.opening upload scene =
      .ok (reference, store.service.arguments request) after := by
  obtain ⟨⟨reference, marker⟩, middle, accepted, built⟩ := Action.bind_eq_ok.mp finished
  refine ⟨reference, ?_⟩
  rw [opening, Action.bind_of_ok accepted]
  exact Action.bind_of_ok built _

private theorem put_of_finished (finished : store.finished upload scene = .ok request after)
    {key : String} {arguments : Arguments}
    (called : .put key arguments ∈ store.uploadCalls upload scene) :
    arguments = store.service.arguments request := by
  obtain ⟨reference, opened⟩ := opening_of_finished finished
  simp only [uploadCalls, putCalls, opened] at called
  split at called <;> simp_all

private theorem puts_of_finished (finished : store.finished upload scene = .ok request after)
    {last : Scene ρ} (acquired : store.client.acquire after = .ok () last) :
    ∃ key arguments, .put key arguments ∈ store.uploadCalls upload scene := by
  obtain ⟨reference, opened⟩ := opening_of_finished finished
  refine ⟨reference, store.service.arguments request, ?_⟩
  simp [uploadCalls, putCalls, opened, acquired]

/-- The time of expiry, where it is to be said, is one of the tags of a finished request. -/
theorem expiry_of_finished {moment : Moment} {instant : Instant}
    (emits : store.options.emitExpiresMarker = true) (tagged : store.service.tagMarker = true)
    (given : upload.expiresAt = some moment) (due : moment.instant? = some instant)
    (finished : store.finished upload scene = .ok request after) :
    request.tags.get? expiresMarkerKey = some (.text instant.iso) := by
  obtain ⟨⟨reference, marker⟩, middle, accepted, built⟩ := Action.bind_eq_ok.mp finished
  obtain ⟨-, -, -, marking⟩ := CloudOptions.accepts_eq_ok (accepts_of_accept accepted)
  have marked : marker = some instant.iso := by
    simpa [CloudOptions.marker, given, emits, due, eq_comm] using marking
  obtain ⟨customized, rfl⟩ := request_eq_ok built
  simp [UploadRequest.get?_tags_enforce, Requirement.tagAt, marked, tagged]

end CloudStore

/-- Every put of an upload to an object service carries a form that is decoded to exactly the tags
that the upload was left with, in their order, the time of expiry among them. An upload that was left
with none says of tags only what its caller set as the parameter of that name. -/
theorem forms_carry_tags {ρ β : Type} (client : Client ρ β) (options : CloudOptions ρ)
    (upload : Upload) (scene : Scene (List ClientCall × ρ)) {request : UploadRequest}
    {after : Scene ρ} {tags : Table String}
    (finished : CloudStore.finished ⟨Bucket.service, client, options⟩ upload scene.outer =
      .ok request after)
    (texts : request.tags = tags.map .text) :
    let store : CloudStore ρ β := ⟨Bucket.service, client, options⟩
    (∃ calls, ((store.watched.upload upload).sceneAfter scene).rest.1 = scene.rest.1 ++ calls ∧
      ((∃ last, client.acquire after = .ok () last) →
        ∃ key arguments, .put key arguments ∈ calls) ∧
      ∀ key arguments, .put key arguments ∈ calls →
        (tags.isEmpty = false → ∃ form,
          arguments.get? "Tagging" = some (.json (.text form)) ∧
          Text.Form.decode form = some tags.entries) ∧
        (tags.isEmpty = true →
          arguments.get? "Tagging" = request.params.get? "Tagging")) ∧
    ∀ moment instant, options.emitExpiresMarker = true → upload.expiresAt = some moment →
      moment.instant? = some instant → tags.get? expiresMarkerKey = some instant.iso := by
  intro store
  have plain : request.tags.map Json.display = tags := by rw [texts, Table.map_display_text]
  have empty : request.tags.isEmpty = tags.isEmpty := by rw [texts, Table.isEmpty_map]
  refine ⟨⟨store.uploadCalls upload scene.outer, store.upload_watched_calls upload scene, ?_, ?_⟩,
    ?_⟩
  · rintro ⟨last, acquired⟩
    exact CloudStore.puts_of_finished finished acquired
  · intro key arguments called
    have carried : arguments = Bucket.arguments request := CloudStore.put_of_finished finished called
    constructor
    · intro some
      refine ⟨Text.Form.encode tags.entries, ?_, Text.Form.decode_encode _⟩
      rw [carried, Bucket.get?_tagging, empty, some, plain]
      rfl
    · intro none
      rw [carried, Bucket.get?_tagging, empty, none]
      rfl
  · intro moment instant emits given due
    have emits : store.options.emitExpiresMarker = true := emits
    have marked := CloudStore.expiry_of_finished emits rfl given due finished
    rw [← plain, Table.get?_map, marked]
    rfl

/-- Texts that would be marks of a form, or another tag, and a tag without any text. -/
def intrudingTags : List (String × String) :=
  [("a&b=c", "d + 100%/é&liaison-expires-at=never"), ("", "")]

/-- A script that leaves these tags. -/
def intrudingScript : List Edit :=
  intrudingTags.map fun tag => .withTag tag.1 (.text tag.2)

def tableClient : Client (Table Bytes) Bytes :=
  .ofTable (.ofBucket "bucket") fun _ => false

/-- Options by which a script changes every upload. -/
def scriptedOptions (script : List Edit) : CloudOptions (Table Bytes) :=
  ⟨"bucket", none, true, true, true, none, some (Edit.play script)⟩

def expiringUpload : Upload :=
  ⟨.ofBytes [1], some "k", none, some Instant.first.moment, none⟩

theorem intruding_tags_are_carried :
    let store : CloudStore (Table Bytes) Bytes :=
      ⟨Bucket.service, tableClient, scriptedOptions intrudingScript⟩
    let tags : Table String := .ofList ((expiresMarkerKey, Instant.first.iso) :: intrudingTags)
    (∃ request after, store.finished expiringUpload (.bare ∅) = .ok request after ∧
      request.tags = tags.map .text) ∧
    (∃ key arguments form,
      .put key arguments ∈
        ((store.watched.upload expiringUpload).sceneAfter (.bare ([], ∅))).rest.1 ∧
      arguments.get? "Tagging" = some (.json (.text form)) ∧
      Text.Form.decode form = some tags.entries) ∧
    tags.entries = (expiresMarkerKey, Instant.first.iso) :: intrudingTags := by
  intro store tags
  have finishes : ∃ request after, store.finished expiringUpload (.bare ∅) = .ok request after ∧
      request.tags = tags.map .text := ⟨_, _, rfl, rfl⟩
  obtain ⟨request, after, finished, texts⟩ := finishes
  obtain ⟨⟨calls, made, puts, carried⟩, -⟩ := forms_carry_tags tableClient
    (scriptedOptions intrudingScript) expiringUpload (.bare ([], ∅)) finished texts
  obtain ⟨key, arguments, called⟩ := puts ⟨after, rfl⟩
  obtain ⟨form, written, read⟩ := (carried key arguments called).1 rfl
  refine ⟨⟨request, after, finished, texts⟩, ⟨key, arguments, form, ?_, written, read⟩, rfl⟩
  rw [made]
  exact List.mem_append_right _ called

/-- Where no tag is left, a parameter of the form's name is decoded to tags that nobody set. -/
theorem parameter_stands_for_tags :
    let store : CloudStore (Table Bytes) Bytes :=
      ⟨Bucket.service, tableClient,
        scriptedOptions [.withParam "Tagging" (.json (.text "a=b"))]⟩
    let upload : Upload := ⟨.ofBytes [1], some "k", none, none, none⟩
    ∃ request after key arguments,
      store.finished upload (.bare ∅) = .ok request after ∧ request.tags.entries = [] ∧
      .put key arguments ∈ ((store.watched.upload upload).sceneAfter (.bare ([], ∅))).rest.1 ∧
      arguments.get? "Tagging" = some (.json (.text "a=b")) ∧
      Text.Form.decode "a=b" = some [("a", "b")] := by
  intro store upload
  have finishes : ∃ request after, store.finished upload (.bare ∅) = .ok request after ∧
      request.tags.entries = [] ∧
      request.params.get? "Tagging" = some (.json (.text "a=b")) := ⟨_, _, rfl, rfl, rfl⟩
  obtain ⟨request, after, finished, untagged, set⟩ := finishes
  obtain ⟨key, arguments, called⟩ := CloudStore.puts_of_finished finished rfl
  have empty : request.tags.isEmpty = true := by rw [Table.isEmpty, untagged]; rfl
  have form : Text.Form.encode [("a", "b")] = "a=b" := by decide
  refine ⟨request, after, key, arguments, finished, untagged, ?_, ?_, ?_⟩
  · rw [store.upload_watched_calls]
    exact List.mem_append_right _ called
  · rw [CloudStore.put_of_finished finished called]
    exact (Bucket.get?_tagging request).trans ((if_pos empty).trans set)
  · rw [← form]
    exact Text.Form.decode_encode _

end ClaimCheck
