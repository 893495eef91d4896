import ClaimCheck.Proofs.ClientCalls
import ClaimCheck.Proofs.Shelves

/-!
Payloads that arrive whole. Whether a payload lies in memory or comes from a stream, and whatever can
be found out of its length, a store is handed the bytes that a read to its end gives.
-/
namespace ClaimCheck

namespace Source

variable {source : Source} {sizeHint : Option Int}

/-- Whether a length, if one is declared, is the number of bytes that a read to the end gives. -/
def IsHonest (source : Source) (sizeHint : Option Int) : Prop :=
  ∀ size ∈ sizeHint, size = source.remaining.length

private theorem length_of_measure {length : Nat} (measured : source.measure.1 = some length) :
    length = source.remaining.length := by
  obtain ⟨kind, data, position⟩ := source
  cases kind with
  | held => simpa [measure_eq, remaining, isHeld, eq_comm] using measured
  | seekable =>
    by_cases within : position ≤ data.length
    · have left : data.length - position = length := by
        simpa [measure_eq, isHeld, isSeekable, tell?, seek?, within] using measured
      simp [remaining, isHeld, left]
    · simp [measure_eq, isHeld, isSeekable, tell?, seek?, within] at measured
  | _ => simp [measure_eq, isHeld, isSeekable, tell?, seek?] at measured

/-- What is known of a length is the number of bytes that are left. -/
theorem IsHonest.contentLength (honest : source.IsHonest sizeHint) {length : Int}
    (known : source.contentLength sizeHint = some length) : length = source.remaining.length := by
  cases sizeHint with
  | some size =>
    cases known
    exact honest _ rfl
  | none =>
    obtain ⟨measured, found, rfl⟩ := Option.map_eq_some_iff.mp known
    exact congrArg Int.ofNat (length_of_measure found)

private theorem IsHonest.prepared_length (honest : source.IsHonest sizeHint) (needsLength : Bool) :
    (source.prepared needsLength sizeHint).2 = some (source.remaining.length : Int) ∨
      needsLength = false ∧ (source.prepared needsLength sizeHint).2 = none := by
  rw [prepared_eq]
  cases known : source.contentLength sizeHint with
  | some length => exact .inl (congrArg some (honest.contentLength known))
  | none =>
    cases needsLength with
    | true => exact .inl rfl
    | false => exact .inr ⟨rfl, rfl⟩

theorem IsHonest.ensureSizeHint (honest : source.IsHonest sizeHint) :
    ensureSizeHint sizeHint = .ok () := by
  cases sizeHint with
  | none => rfl
  | some size =>
    have natural : ¬ size < 0 := by
      rw [honest size rfl]
      omega
    simp [ClaimCheck.ensureSizeHint, natural]

end Source

namespace Backend

/-- The names under which a put carries its payload, and says how long it is. -/
def payloadName : Backend → String
  | .objects => "Body"
  | .blobs => "data"

def lengthName : Backend → String
  | .objects => "ContentLength"
  | .blobs => "length"

/-- A put that carries these bytes and says how many they are; only a blob's may leave that open. -/
structure Carries (backend : Backend) (arguments : Arguments) (bytes : Bytes) : Prop where
  payload : CallReading.payload? arguments backend.payloadName = some bytes
  length : arguments.get? backend.lengthName = some (.json (.int bytes.length)) ∨
    backend = .blobs ∧ arguments.get? backend.lengthName = some (.json .null)

variable {source : Source} {sizeHint : Option Int}

private theorem required_payload (backend : Backend) (container key : String) (overwrite : Bool)
    (source : Source) (sizeHint : Option Int) :
    ∃ body, (backend.service.required container key overwrite source sizeHint).get?
        backend.payloadName = some (.payload body) ∧ body.remaining = source.remaining := by
  refine ⟨(source.prepared backend.service.needsLength sizeHint).1, ?_,
    source.remaining_prepared _ sizeHint⟩
  cases backend with
  | objects =>
    cases overwrite <;>
      simp [service, Service.required, Bucket.service, Bucket.demand, payloadName, Table.ofList]
  | blobs =>
    cases overwrite <;>
      simp [service, Service.required, Container.service, Container.demand, payloadName,
        Table.ofList]

private theorem get?_lengthName (backend : Backend) (container key : String) (overwrite : Bool)
    (source : Source) (sizeHint : Option Int) :
    (backend.service.required container key overwrite source sizeHint).get? backend.lengthName =
      some (.ofLength (source.prepared backend.service.needsLength sizeHint).2) := by
  cases backend with
  | objects =>
    cases overwrite <;>
      simp [service, Service.required, Bucket.service, Bucket.demand, lengthName, Table.ofList]
  | blobs =>
    cases overwrite <;>
      simp [service, Service.required, Container.service, Container.demand, lengthName,
        Table.ofList]

private theorem required_length (backend : Backend) (container key : String) (overwrite : Bool)
    (honest : source.IsHonest sizeHint) :
    let required := backend.service.required container key overwrite source sizeHint
    required.get? backend.lengthName = some (.json (.int source.remaining.length)) ∨
      backend = .blobs ∧ required.get? backend.lengthName = some (.json .null) := by
  intro required
  have said := backend.get?_lengthName container key overwrite source sizeHint
  rcases honest.prepared_length backend.service.needsLength with counted | ⟨loose, unknown⟩
  · exact .inl (said.trans (by rw [counted]; rfl))
  · cases backend with
    | objects => cases loose
    | blobs => exact .inr ⟨rfl, said.trans (by rw [unknown]; rfl)⟩

/-- Whatever was changed in its request, a put carries the whole payload. -/
theorem carries (backend : Backend) (honest : source.IsHonest sizeHint)
    (customized : UploadRequest) (container key : String) (overwrite : Bool)
    (metadata : Table Json) (marker : Option String) (tagged : Bool) :
    backend.Carries (backend.service.arguments (customized.enforce
      ⟨backend.service.required container key overwrite source sizeHint, metadata, marker, tagged⟩))
      source.remaining := by
  have sent {name : String} {value : Argument} (plain : name ∉ backend.tableNames)
      (asked : (backend.service.required container key overwrite source sizeHint).get? name =
        some value) :=
    backend.get?_sent customized ⟨backend.service.required container key overwrite source sizeHint,
      metadata, marker, tagged⟩ plain asked
  obtain ⟨body, given, whole⟩ := backend.required_payload container key overwrite source sizeHint
  constructor
  · rw [CallReading.payload?, sent (by cases backend <;> decide) given]
    exact congrArg some whole
  · rcases backend.required_length container key overwrite honest with known | ⟨blob, unknown⟩
    · exact .inl (sent (by cases backend <;> decide) known)
    · exact .inr ⟨blob, sent (by cases backend <;> decide) unknown⟩

end Backend

/-- What an upload needs of its caller and its store, apart from a payload that can be read. -/
structure CloudOptions.Admits {ρ : Type} (options : CloudOptions ρ) (upload : Upload)
    (cancelled : Bool) : Prop where
  free : cancelled = false
  supported : options.ensureSupported = .ok ()
  named : ∃ key, Reference.accepted upload.key = .ok key
  dated : ∃ marker, options.marker upload = .ok marker
  customized : ∀ change ∈ options.customize, ∀ request scene, ∃ changed after,
    change request scene = .ok changed after

namespace CloudStore

variable {ρ β : Type} {upload : Upload}

private theorem request_returns (store : CloudStore ρ β) (reference : String) (upload : Upload)
    (marker : Option String)
    (customized : ∀ change ∈ store.options.customize, ∀ request scene, ∃ changed after,
      change request scene = .ok changed after) (scene : Scene ρ) :
    ∃ request after, store.request reference upload marker scene = .ok request after := by
  simp only [CloudStore.request, requestOf, UploadRequest.build]
  cases customize : store.options.customize with
  | none => exact ⟨_, _, rfl⟩
  | some change =>
    obtain ⟨changed, after, ran⟩ := customized change (by simp [customize])
      (UploadRequest.empty.enforce _) scene
    exact ⟨_, _, Action.bind_of_ok ran _⟩

private theorem opening_of_admits (store : CloudStore ρ β) (scene : Scene ρ)
    (readable : upload.source.ensureReadable = .ok ())
    (honest : upload.source.IsHonest upload.sizeHint)
    (admitted : store.options.Admits upload (scene.isCancelled upload.signal)) :
    ∃ asked after, store.opening upload scene = .ok asked after := by
  obtain ⟨key, named⟩ := admitted.named
  obtain ⟨marker, dated⟩ := admitted.dated
  have accepted : store.options.accepts upload (scene.isCancelled upload.signal) =
      .ok (Reference.under store.path key, marker) := by
    simp only [CloudOptions.accepts, Upload.checked, readable, honest.ensureSizeHint,
      admitted.free, admitted.supported, named, dated]
    rfl
  obtain ⟨request, after, built⟩ := store.request_returns (Reference.under store.path key) upload
    marker admitted.customized scene
  refine ⟨(Reference.under store.path key, store.service.arguments request), after, ?_⟩
  rw [opening, Action.bind_run, accept_run, accepted, Action.ofExcept_ok]
  exact Action.bind_of_ok built _

/-- The calls of an upload: the client, if it comes so far, and a put of the whole payload, if the
client is there. -/
theorem uploadCalls_carry (backend : Backend) (client : Client ρ β) (options : CloudOptions ρ)
    (honest : upload.source.IsHonest upload.sizeHint) (scene : Scene ρ) {key : String}
    {arguments : Arguments}
    (called : .put key arguments ∈ uploadCalls ⟨backend.service, client, options⟩ upload scene) :
    backend.Carries arguments upload.source.remaining := by
  simp only [uploadCalls] at called
  cases opened : opening ⟨backend.service, client, options⟩ upload scene with
  | error failure after => simp [opened] at called
  | ok asked after =>
    obtain ⟨reference, sent⟩ := asked
    have same : arguments = sent := by
      simp only [opened, putCalls] at called
      split at called <;> simp_all
    obtain ⟨_, -, -, customized, metadata, marker, rfl⟩ := opening_eq_ok opened
    rw [same]
    exact backend.carries honest customized options.container reference options.overwrite metadata
      marker backend.service.tagMarker

private theorem uploadCalls_of_ok {store : CloudStore ρ β}
    {scene after : Scene (List ClientCall × ρ)} {returned : Option String}
    (ran : store.watched.upload upload scene = .ok returned after) :
    ∃ key arguments, store.uploadCalls upload scene.outer = [.acquire, .put key arguments] := by
  obtain ⟨key, arguments, _, _, opened, -, tried⟩ := attempt_of_upload_ok ran
  rw [opening_watched, Action.on_eq_ok_iff] at opened
  obtain ⟨middle, opened, rfl⟩ := opened
  obtain ⟨_, _, acquired, -⟩ := Action.bind_eq_ok.mp (attempt_eq_ok tried)
  obtain ⟨_, _, noted, acquired⟩ := Action.bind_eq_ok.mp acquired
  cases noted
  obtain ⟨last, acquired, -⟩ := Action.on_eq_ok_iff.mp acquired
  refine ⟨key, arguments, ?_⟩
  have opens : store.opening upload scene.outer = .ok (key, arguments) middle := opened
  have there : store.client.acquire middle = .ok () last := acquired
  simp only [uploadCalls, putCalls, opens, there]

end CloudStore

/-- A payload that can be read, with an honest length or none, arrives whole. Finding out its length
moves nothing. The store in memory keeps every byte of it. -/
theorem payloads_arrive_whole {ρ β : Type} (upload : Upload)
    (readable : upload.source.ensureReadable = .ok ())
    (honest : upload.source.IsHonest upload.sizeHint) :
    upload.source.measure.2 = upload.source ∧
    (∀ scene : Scene MemoryStore,
      (∀ returned after, MemoryStore.upload upload scene = .ok returned after →
        ∃ reference entry, returned = some reference ∧
          after.rest.entries.get? reference = some entry ∧
          entry.data = upload.source.remaining) ∧
      (∀ key expires, scene.isCancelled upload.signal = false →
        Reference.accepted upload.key = .ok key → upload.expiry = .ok expires →
        ∃ returned after, MemoryStore.upload upload scene = .ok returned after)) ∧
    ∀ (backend : Backend) (client : Client ρ β) (options : CloudOptions ρ)
      (scene : Scene (List ClientCall × ρ)),
      let store : CloudStore ρ β := ⟨backend.service, client, options⟩
      ∃ calls, ((store.watched.upload upload).sceneAfter scene).rest.1 = scene.rest.1 ++ calls ∧
        (∀ key arguments, .put key arguments ∈ calls →
          backend.Carries arguments upload.source.remaining) ∧
        ((∃ returned after, store.watched.upload upload scene = .ok returned after) ∨
            (options.Admits upload (scene.isCancelled upload.signal) ∧
              ∀ scene, ∃ after, client.acquire scene = .ok () after) →
          ∃ key arguments, calls = [.acquire, .put key arguments]) := by
  refine ⟨upload.source.measure_source, ?_, ?_⟩
  · intro scene
    constructor
    · intro returned after ran
      obtain ⟨key, -, rfl, kept⟩ := MemoryStore.upload_eq_ok ran
      refine ⟨_, ⟨upload.source.remaining, upload.expires?⟩, rfl, ?_, rfl⟩
      rw [kept]
      exact MemoryStore.get?_put_self _ _ _
    · intro key expires free named due
      have accepted : MemoryStore.accepts upload (scene.isCancelled upload.signal) = .ok key := by
        simp [MemoryStore.accepts, readable, honest.ensureSizeHint, free, named]
      simp only [MemoryStore.upload_run, accepted, MemoryStore.store?, due]
      exact ⟨_, _, rfl⟩
  · intro backend client options scene store
    refine ⟨store.uploadCalls upload scene.outer, store.upload_watched_calls upload scene,
      fun key arguments => CloudStore.uploadCalls_carry backend client options honest _, ?_⟩
    rintro (⟨returned, after, ran⟩ | ⟨admitted, acquires⟩)
    · exact CloudStore.uploadCalls_of_ok ran
    · obtain ⟨⟨key, arguments⟩, middle, opened⟩ :=
        store.opening_of_admits scene.outer readable honest admitted
      obtain ⟨after, acquired⟩ := acquires middle
      have there : store.client.acquire middle = .ok () after := acquired
      exact ⟨key, arguments, by
        simp only [CloudStore.uploadCalls, CloudStore.putCalls, opened, there]⟩

/-- A stream that was read up to its second byte, and cannot tell how much is left. -/
def begunUpload : Upload := ⟨⟨.unseekable, [1, 2, 3], 1⟩, some "k", none, none, none⟩

def begunBucket : CloudStore (Table Bytes) Bytes :=
  ⟨Bucket.service, .ofTable (.ofBucket "bucket") fun _ => false,
    ⟨"bucket", none, true, true, true, none, none⟩⟩

theorem begun_stream_arrives_whole :
    begunUpload.source.ensureReadable = .ok () ∧
    begunUpload.source.IsHonest begunUpload.sizeHint ∧
    (∃ reference entry after,
      MemoryStore.upload begunUpload (.bare .vacant) = .ok (some reference) after ∧
      after.rest.entries.get? reference = some entry ∧ entry.data = [2, 3]) ∧
    ∃ key arguments,
      ((begunBucket.watched.upload begunUpload).sceneAfter (.bare ([], ∅))).rest.1 =
        [.acquire, .put key arguments] ∧
      Backend.objects.Carries arguments [2, 3] := by
  have readable : begunUpload.source.ensureReadable = .ok () := rfl
  have honest : begunUpload.source.IsHonest begunUpload.sizeHint := nofun
  obtain ⟨-, keeps, sends⟩ :=
    @payloads_arrive_whole (Table Bytes) Bytes begunUpload readable honest
  refine ⟨readable, honest, ?_, ?_⟩
  · obtain ⟨kept, returns⟩ := keeps (.bare .vacant)
    obtain ⟨returned, after, ran⟩ := returns "k" none rfl rfl rfl
    obtain ⟨reference, entry, rfl, held, whole⟩ := kept returned after ran
    exact ⟨reference, entry, after, ran, held, whole⟩
  · obtain ⟨calls, made, carried, complete⟩ :=
      sends .objects begunBucket.client begunBucket.options (.bare ([], ∅))
    obtain ⟨key, arguments, rfl⟩ := complete (.inl ⟨_, _, rfl⟩)
    exact ⟨key, arguments, made, carried key arguments (by simp)⟩

end ClaimCheck
