import ClaimCheck.Proofs.Backends
import ClaimCheck.Proofs.CallOutcome

/-!
The closed vocabulary of the cloud stores. Whatever a client does with the call of an operation, the
operation returns, or fails with a store error that names its reference and its cause, or passes a
cancellation on to the caller who asked for it.
-/
namespace ClaimCheck

/-- Errors of a connection, rather than of a service or of its client. -/
def Fault.Family.isTransport : Fault.Family → Bool
  | .objectTransport | .blobTransport | .system | .timeout => true
  | _ => false

/-- Whether a service answers that a blob is not there, in a container that is. -/
def Fault.isAbsence (fault : Fault) : Bool :=
  match fault.family with
  | .blobResponse status code => status == some 404 && !Container.isContainerMissing code
  | _ => false

namespace Cause

/-- The failure that a call ends in. -/
@[simp] def failure : Cause → Failure
  | .fault error => .fault error
  | .cancelled message => .cancelled message

def isCancelled : Cause → Bool
  | .cancelled _ => true
  | .fault _ => false

/-- Whether the service was not heard at all. -/
def isUnheard : Cause → Bool
  | .cancelled _ => true
  | .fault error => error.family.isTransport

end Cause

namespace Backend

/-- The errors that a service, its client and the system below them raise. -/
def isNative : Backend → Fault.Family → Bool
  | _, .system | _, .timeout => true
  | .objects, .objectResponse _ _ | .objects, .objectTransport | .objects, .objectTruncated
  | .objects, .objectClient => true
  | .blobs, .blobResponse _ _ | .blobs, .blobTransport | .blobs, .blobClient _ _ => true
  | _, _ => false

/-- What the calls of a client may end in, if they do not return. -/
def raises (backend : Backend) : Cause → Bool
  | .fault fault => backend.isNative fault.family
  | .cancelled _ => true

end Backend

/-- What a store error says of the cause that it was raised for. -/
structure StoreError.Reports (error : StoreError) (reference : String) (cause : Cause) : Prop where
  classed : error.general = false
  named : error.reference = some reference
  caused : error.cause = some cause
  retryable : error.isRetryable = true ↔ error.kind = .unavailable
  unavailable : cause.isUnheard = true → error.kind = .unavailable

/-- What an operation comes to after its call. -/
inductive Ends {ρ α γ : Type} (purpose : Purpose) (reference : String) (signal : Option Signal)
    (called : EStateM.Result Failure (Scene ρ) α) : EStateM.Result Failure (Scene ρ) γ → Prop
  | returned {value : α} {result : γ} {after : Scene ρ} (ran : called = .ok value after) :
      Ends purpose reference signal called (.ok result after)
  /-- What is not there counts as deleted. -/
  | gone {fault : Fault} {result : γ} {after : Scene ρ}
      (ran : called = .error (.fault fault) after) (deleting : purpose = .deleting)
      (absent : fault.isAbsence = true) :
      Ends purpose reference signal called (.ok result after)
  | failed {cause : Cause} {error : StoreError} {after last : Scene ρ}
      (ran : called = .error cause.failure after) (reports : error.Reports reference cause)
      (unasked : cause.isCancelled = true → after.callerCancelled signal = false) :
      Ends purpose reference signal called (.error (.store error) last)
  | cancelled {message : String} {after : Scene ρ}
      (ran : called = .error (.cancelled message) after)
      (asked : after.callerCancelled signal = true) :
      Ends purpose reference signal called (.error (.cancelled message) after)

theorem Ends.map {ρ α γ δ : Type} {purpose : Purpose} {reference : String}
    {signal : Option Signal} {called : EStateM.Result Failure (Scene ρ) α} {action : Action ρ γ}
    {scene : Scene ρ} (change : γ → δ)
    (ends : Ends purpose reference signal called (action scene)) :
    Ends purpose reference signal called ((change <$> action) scene) := by
  rw [Action.map_run]
  generalize action scene = result at ends
  cases ends with
  | returned ran => exact .returned ran
  | gone ran deleting absent => exact .gone ran deleting absent
  | failed ran reports unasked => exact .failed ran reports unasked
  | cancelled ran asked => exact .cancelled ran asked

namespace Meaning

/-- Whether an error of this meaning becomes a store error. -/
def isMapped : Meaning → Bool
  | .alreadyGone | .foreign | .unread _ => false
  | _ => true

private theorem isMapped_ite (condition : Prop) [Decidable condition] (left right : Meaning) :
    (if condition then left else right).isMapped =
      if condition then left.isMapped else right.isMapped :=
  apply_ite isMapped condition left right

end Meaning

namespace Service

private theorem storeError?_of_isMapped (service : Service) (container : String) (purpose : Purpose)
    (reference : String) {meaning : Meaning} (mapped : meaning.isMapped = true) :
    ∃ error, service.storeError? container purpose reference meaning = some error ∧
      error.general = false ∧ error.reference = some reference ∧
      (meaning = .unavailable → error.kind = .unavailable) := by
  cases meaning with
  | accessDenied => cases purpose <;> exact ⟨_, rfl, rfl, rfl, nofun⟩
  | unavailable => exact ⟨_, rfl, rfl, rfl, fun _ => rfl⟩
  | alreadyGone | foreign | unread => cases mapped
  | alreadyExists | conditionalConflict | notFound | containerMissing | unclassified =>
    exact ⟨_, rfl, rfl, rfl, nofun⟩

/-- An error that is mapped is reported, if failed connections are mapped to unavailability. -/
theorem storeError?_reports (service : Service) (container : String) (purpose : Purpose)
    (reference : String) {meaning : Meaning} {fault : Fault} (mapped : meaning.isMapped = true)
    (unheard : fault.family.isTransport = true → meaning = .unavailable) :
    ∃ error, service.storeError? container purpose reference meaning = some error ∧
      (error.withCause (.fault fault)).Reports reference (.fault fault) := by
  obtain ⟨error, found, classed, named, unavailable⟩ :=
    service.storeError?_of_isMapped container purpose reference mapped
  exact ⟨error, found, classed, named, rfl, beq_iff_eq, fun unserved =>
    unavailable (unheard unserved)⟩

end Service

namespace Backend

variable {backend : Backend} {purpose : Purpose} {conditional : Bool} {fault : Fault}

private theorem meaning_of_isTransport (native : backend.isNative fault.family = true)
    (transport : fault.family.isTransport = true) :
    backend.service.meaning purpose conditional fault = .unavailable := by
  cases backend <;> cases family : fault.family <;>
    simp_all [isNative, Fault.Family.isTransport, service, Bucket.service, Bucket.meaning,
      Container.service, Container.meaning]

/-- An answer of an object service is mapped, whatever its status and its code are. -/
theorem isMapped_objectResponse (calling : purpose ≠ .reading) (status : Option Int) (code : String)
    (answered : fault.family = .objectResponse status code) :
    (Bucket.meaning purpose conditional fault).isMapped = true := by
  cases purpose with
  | uploading =>
    simp only [Bucket.meaning, answered, Bucket.uploadMeaning, Meaning.isMapped_ite]
    simp [Meaning.isMapped]
  | downloading =>
    simp only [Bucket.meaning, answered, Bucket.downloadMeaning, Meaning.isMapped_ite]
    simp [Meaning.isMapped]
  | deleting =>
    simp only [Bucket.meaning, answered, Bucket.deleteMeaning, Meaning.isMapped_ite]
    simp [Meaning.isMapped]
  | reading => exact absurd rfl calling

/-- An answer of a blob service is mapped, unless what was to be deleted is not there. -/
theorem isMapped_blobResponse (conditional : Bool) (calling : purpose ≠ .reading)
    (status : Option Int) (code : Option String)
    (answered : fault.family = .blobResponse status code) :
    (Container.meaning purpose conditional fault).isMapped = true ∨
      Container.meaning purpose conditional fault = .alreadyGone ∧ purpose = .deleting ∧
        status = some 404 ∧ Container.isContainerMissing code = false := by
  cases purpose with
  | uploading =>
    left
    simp only [Container.meaning, answered, Container.uploadMeaning, Meaning.isMapped_ite]
    simp [Meaning.isMapped]
  | downloading =>
    left
    simp only [Container.meaning, answered, Container.downloadMeaning, Meaning.isMapped_ite]
    simp [Meaning.isMapped]
  | deleting =>
    simp only [Container.meaning, answered, Container.deleteMeaning]
    cases absent : status == some 404 && !Container.isContainerMissing code with
    | true =>
      obtain ⟨missing, there⟩ := (Bool.and_eq_true _ _).mp absent
      exact .inr ⟨rfl, trivial, beq_iff_eq.mp missing, by simpa using there⟩
    | false =>
      left
      simp only [Bool.false_eq_true, if_false, Meaning.isMapped_ite]
      simp [Meaning.isMapped]
  | reading => exact absurd rfl calling

private theorem isMapped_meaning (calling : purpose ≠ .reading)
    (native : backend.isNative fault.family = true) :
    (backend.service.meaning purpose conditional fault).isMapped = true ∨
      backend.service.meaning purpose conditional fault = .alreadyGone ∧ purpose = .deleting ∧
        fault.isAbsence = true := by
  cases backend with
  | objects =>
    left
    cases family : fault.family with
    | objectResponse status code => exact isMapped_objectResponse calling status code family
    | _ => simp_all [isNative, service, Bucket.service, Bucket.meaning, Meaning.isMapped]
  | blobs =>
    cases family : fault.family with
    | blobResponse status code =>
      rcases isMapped_blobResponse conditional calling status code family with
        mapped | ⟨meant, deleting, missing, there⟩
      · exact .inl mapped
      · exact .inr ⟨meant, deleting, by simp [Fault.isAbsence, family, missing, there]⟩
    | _ =>
      left
      simp_all [isNative, service, Container.service, Container.meaning, Meaning.isMapped]

end Backend

namespace CloudStore

variable {ρ β α γ : Type}

/-- A client that answers the call of an operation, by a value or in its own words, and leaves
nobody waiting forever. Only a bucket's client may have to be connected first. -/
structure Responds (client : Client ρ β) (backend : Backend) (call : Call ρ α)
    (signal : Option Signal) (scene : Scene ρ) : Prop where
  acquires : ∀ {failure after}, client.acquire scene = .error failure after →
    backend = .objects ∧ ∃ cause, backend.raises cause = true ∧ failure = cause.failure
  raises : ∀ {middle failure last}, client.acquire scene = .ok () middle →
    call.Gives middle (.error failure) last →
    ∃ cause, backend.raises cause = true ∧ failure = cause.failure
  settles : ∀ {middle}, client.acquire scene = .ok () middle → ¬ call.IsStuck signal middle

variable {backend : Backend} {client : Client ρ β} {options : CloudOptions ρ} {purpose : Purpose}
  {reference : String} {signal : Option Signal} {scene : Scene ρ}

private theorem calling_raises {call : Call ρ α} {failure : Failure} {after : Scene ρ}
    (responds : Responds client backend call signal scene)
    (ran : calling ⟨backend.service, client, options⟩ call signal scene = .error failure after) :
    ∃ cause, backend.raises cause = true ∧ failure = cause.failure := by
  cases acquired : client.acquire scene with
  | error own middle =>
    rw [calling, Action.bind_of_error acquired] at ran
    cases ran
    exact (responds.acquires acquired).2
  | ok _ middle =>
    rw [calling, Action.bind_of_ok acquired] at ran
    rcases Call.gives_of_run_error ran with gives | ⟨message, rfl⟩ | stuck
    · exact responds.raises acquired gives
    · exact ⟨.cancelled message, rfl, by simp⟩
    · exact absurd stuck (responds.settles acquired)

/-- What an operation makes of the end of its call. -/
theorem attempt_ends {call : Action ρ α} {gone : Option α} (calling : purpose ≠ .reading)
    (offered : purpose = .deleting → gone.isSome = true)
    (raised : ∀ {failure after}, call scene = .error failure after →
      ∃ cause, backend.raises cause = true ∧ failure = cause.failure) :
    Ends purpose reference signal (call scene)
      (attempt ⟨backend.service, client, options⟩ purpose reference signal call gone scene) := by
  rw [attempt_run]
  cases ran : call scene with
  | ok value after => exact .returned rfl
  | error failure after =>
    obtain ⟨cause, native, rfl⟩ := raised ran
    cases cause with
    | cancelled message =>
      simp only [Cause.failure, answer]
      cases own : after.callerCancelled signal with
      | true => exact .cancelled rfl own
      | false =>
        have reports : ((backend.service.unavailable purpose reference).withCause
            (.cancelled message)).Reports reference (.cancelled message) :=
          ⟨rfl, rfl, rfl, beq_iff_eq, fun _ => rfl⟩
        exact .failed rfl reports fun _ => own
    | fault fault =>
      simp only [Cause.failure, answer]
      generalize meant : backend.service.meaning purpose
        (isConditional ⟨backend.service, client, options⟩) fault = meaning
      rcases backend.isMapped_meaning calling native with mapped | ⟨gone, deleting, absent⟩
      · rw [meant] at mapped
        obtain ⟨error, found, reports⟩ := backend.service.storeError?_reports options.container
          purpose reference mapped fun transport =>
            meant.symm.trans (Backend.meaning_of_isTransport native transport)
        rw [found]
        have unasked : (Cause.fault fault).isCancelled = true →
            after.callerCancelled signal = false := by
          rintro ⟨⟩
        exact .failed rfl reports unasked
      · rw [meant] at gone
        subst gone
        obtain ⟨value, rfl⟩ := Option.isSome_iff_exists.mp (offered deleting)
        have kept : noted ⟨backend.service, client, options⟩ purpose reference (.fault fault)
            after = after := by simp [noted, meant]
        simp only [Service.storeError?, if_true, Action.ofExcept_ok, kept]
        exact .gone rfl deleting absent

/-- An operation whose checks are passed returns, or raises a store error that reports its cause
under its reference, or passes on a cancellation that its caller asked for. -/
theorem operations_end (backend : Backend) (client : Client ρ β) (options : CloudOptions ρ) :
    let store : CloudStore ρ β := ⟨backend.service, client, options⟩
    (∀ {upload : Upload} {scene middle : Scene ρ} {reference : String} {arguments : Arguments},
      store.opening upload scene = .ok (reference, arguments) middle →
      Responds client backend (client.put reference arguments) upload.signal middle →
      (∃ key, Reference.accepted upload.key = .ok key ∧
        reference = Reference.under store.path key) ∧
      Ends .uploading reference upload.signal
        (store.calling (client.put reference arguments) upload.signal middle)
        (store.upload upload scene)) ∧
    (∀ {given : Option String} {reference : String} {signal : Option Signal} {scene : Scene ρ},
      Reference.accepted given = .ok reference → scene.isCancelled signal = false →
      let call := client.get reference
        (backend.service.downloadArguments options.container reference)
      Responds client backend call signal scene →
      Ends .downloading reference signal (store.calling call signal scene)
        (store.download given signal scene)) ∧
    (∀ {given : Option String} {reference : String} {signal : Option Signal} {scene : Scene ρ},
      Reference.accepted given = .ok reference → scene.isCancelled signal = false →
      let call := client.delete reference
        (backend.service.deleteArguments options.container reference)
      Responds client backend call signal scene →
      Ends .deleting reference signal (store.calling call signal scene)
        (store.delete given signal scene)) := by
  refine ⟨?_, ?_, ?_⟩
  · intro upload scene middle reference arguments opened responds
    obtain ⟨key, accepted, named, -⟩ := opening_eq_ok opened
    refine ⟨⟨key, accepted, named⟩, ?_⟩
    rw [upload_run, opened]
    exact Ends.map _ (attempt_ends (by decide) (by simp) (calling_raises responds))
  · intro given reference signal scene accepted free call responds
    simp only [download_run, accepted, free, Bool.false_eq_true, if_false]
    exact Ends.map _ (attempt_ends (by decide) (by simp) (calling_raises responds))
  · intro given reference signal scene accepted free call responds
    simp only [delete_run, accepted, free, Bool.false_eq_true, if_false]
    exact attempt_ends (by decide) (fun _ => rfl) (calling_raises responds)

/-- A client whose service drops uploads, is too slow for its caller, and has lost its blobs. -/
def restless : Client Unit Unit where
  acquire := pure ()
  put _ _ := ⟨fun scene => (.ended (.error (.cancelled "")), scene)⟩
  get _ _ := ⟨fun scene => (.waiting (throw (.cancelled "")) id, scene.raise 0)⟩
  delete _ _ := ⟨fun scene => (.ended (.error (.fault
    ⟨"ResourceNotFoundError", .blobResponse (some 404) (some "BlobNotFound"), ""⟩)), scene)⟩
  read _ := ⟨fun scene => (.ended (.ok []), scene)⟩
  close := pure ()
  pieces _ := 0

def restlessStore : CloudStore Unit Unit :=
  ⟨Container.service, restless, ⟨"c", none, false, false, true, none, none⟩⟩

private theorem restless_responds {call : Call Unit α} {signal : Option Signal} {scene : Scene Unit}
    (raises : ∀ {failure last}, call.Gives scene (.error failure) last →
      ∃ cause, Backend.blobs.raises cause = true ∧ failure = cause.failure)
    (settles : ¬ call.IsStuck signal scene) : Responds restless .blobs call signal scene where
  acquires ran := by cases ran
  raises ran gives := by
    cases ran
    exact raises gives
  settles ran := by
    cases ran
    exact settles

/-- An upload that is dropped, a download that its caller gives up, a deletion of nothing. -/
theorem restless_operations_end :
    (∃ error after, restlessStore.upload ⟨.ofBytes [1], some "k", none, none, none⟩ (.bare ()) =
      .error (.store error) after ∧ error.Reports "k" (.cancelled "")) ∧
    (∃ after, restlessStore.download (some "k") (some 0) (.bare ()) =
      .error .cancelledByCaller after ∧ after.callerCancelled (some 0) = true) ∧
    ∃ after, restlessStore.delete (some "k") none (.bare ()) = .ok () after := by
  obtain ⟨uploads, downloads, deletes⟩ :=
    operations_end .blobs restless restlessStore.options
  have accepted : Reference.accepted (some "k") = .ok "k" := rfl
  refine ⟨?_, ?_, ?_⟩
  · obtain ⟨arguments, opened⟩ : ∃ arguments, restlessStore.opening
        ⟨.ofBytes [1], some "k", none, none, none⟩ (.bare ()) = .ok ("k", arguments) (.bare ()) :=
      ⟨_, rfl⟩
    have responds : Responds restless .blobs (restless.put "k" arguments) none (.bare ()) := by
      apply restless_responds
      · rintro failure last (⟨⟨⟩⟩ | ⟨_, _, _, ⟨⟩, -⟩)
        exact ⟨.cancelled "", rfl, rfl⟩
      · rintro ⟨_, _, _, ⟨⟩, -⟩
    obtain ⟨-, ends⟩ := uploads opened responds
    cases ends with
    | @failed cause _ _ _ ran reports _ =>
      cases cause with
      | cancelled message =>
        cases ran
        exact ⟨_, _, rfl, reports⟩
      | fault error => cases ran
  · have responds : Responds restless .blobs (restless.get "k" ∅) (some 0) (.bare ()) := by
      apply restless_responds
      · rintro failure last (⟨⟨⟩⟩ | ⟨_, _, _, ⟨⟩, ⟨⟩, -⟩)
      · rintro ⟨_, _, _, ⟨⟩, -, ⟨⟩⟩
    have ends := downloads accepted rfl responds
    cases ends with
    | cancelled _ asked => exact ⟨_, rfl, asked⟩
  · have responds : Responds restless .blobs (restless.delete "k"
        (Container.service.deleteArguments "c" "k")) none (.bare ()) := by
      apply restless_responds
      · rintro failure last (⟨⟨⟩⟩ | ⟨_, _, _, ⟨⟩, -⟩)
        exact ⟨.fault _, rfl, rfl⟩
      · rintro ⟨_, _, _, ⟨⟩, -⟩
    have ends := deletes accepted rfl responds
    cases ends with
    | returned ran => cases ran
    | gone => exact ⟨_, rfl⟩

end CloudStore
end ClaimCheck
