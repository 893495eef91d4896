import ClaimCheck.Proofs.Backends

/-!
The two services side by side. Apart from the codes that one of them singles out, they mean the same
kind of failure by the same status, whatever it is asked for; only a blob that is not there counts as
deleted.
-/
namespace ClaimCheck

/-- The kind of failure that a status alone stands for; `careful` if an upload may not overwrite. -/
def FailureKind.ofStatus (purpose : Purpose) (careful : Bool) (status : Option Int) : FailureKind :=
  match status with
  | none => .unclassified
  | some n =>
    if n = 401 ∨ n = 403 then .accessDenied
    else if n = 404 then if purpose = .downloading then .notFound else .unavailable
    else if n = 408 ∨ n = 429 ∨ 500 ≤ n ∧ n ≤ 599 then .unavailable
    else if purpose = .uploading ∧ careful then
      if n = 412 then .alreadyExists else if n = 409 then .conditionalConflict else .unclassified
    else .unclassified

@[simp] theorem FailureKind.ofStatus_none (purpose : Purpose) (careful : Bool) :
    FailureKind.ofStatus purpose careful none = .unclassified := rfl

@[simp] theorem isAccessDenied_none : isAccessDenied none = false := rfl

@[simp] theorem isTransient_none : isTransient none = false := rfl

private theorem isAccessDenied_some (n : Int) :
    isAccessDenied (some n) = true ↔ n = 401 ∨ n = 403 := by
  simp [isAccessDenied]

private theorem isTransient_some (n : Int) :
    isTransient (some n) = true ↔ n = 408 ∨ n = 429 ∨ 500 ≤ n ∧ n ≤ 599 := by
  simp [isTransient, or_assoc]

/-- The kind of the store error that an error of this meaning becomes, if it becomes one. -/
def Meaning.kind? : Meaning → Option FailureKind
  | .accessDenied => some .accessDenied
  | .alreadyExists => some .alreadyExists
  | .conditionalConflict => some .conditionalConflict
  | .notFound => some .notFound
  | .unavailable | .containerMissing => some .unavailable
  | .unclassified => some .unclassified
  | .alreadyGone | .foreign | .unread _ => none

namespace Service

private theorem map_kind_storeError? (service : Service) (container : String) (purpose : Purpose)
    (reference : String) (meaning : Meaning) :
    (service.storeError? container purpose reference meaning).map StoreError.kind =
      meaning.kind? := by
  cases meaning with
  | accessDenied => cases purpose <;> rfl
  | _ => rfl

end Service

namespace Bucket

/-- The codes by which a decision of an object service is made. -/
def singlesOut (code : String) : Bool :=
  isBucketMissing code || isKeyMissing code || code == "AccessDenied" ||
    code == "PreconditionFailed" || code == "ConditionalRequestConflict"

variable {code : String} {status : Option Int}

private theorem uploadMeaning_kind? (plain : singlesOut code = false) (careful : Bool)
    (status : Option Int) :
    (uploadMeaning careful status code).kind? = some (.ofStatus .uploading careful status) := by
  simp only [singlesOut, Bool.or_eq_false_iff] at plain
  obtain ⟨⟨⟨⟨bucket, -⟩, denied⟩, failed⟩, conflict⟩ := plain
  simp only [uploadMeaning, isDenied, bucket, denied, failed, conflict, Bool.or_false]
  cases status with
  | none => simp [Meaning.kind?]
  | some n =>
    cases careful <;>
      grind [isAccessDenied_some, isTransient_some, FailureKind.ofStatus, Meaning.kind?]

private theorem downloadMeaning_kind? (plain : singlesOut code = false) (careful : Bool)
    (status : Option Int) :
    (downloadMeaning status code).kind? = some (.ofStatus .downloading careful status) := by
  simp only [singlesOut, Bool.or_eq_false_iff] at plain
  obtain ⟨⟨⟨⟨bucket, key⟩, denied⟩, -⟩, -⟩ := plain
  simp only [downloadMeaning, isDenied, bucket, key, denied, Bool.or_false]
  cases status with
  | none => simp [Meaning.kind?]
  | some n => grind [isAccessDenied_some, isTransient_some, FailureKind.ofStatus, Meaning.kind?]

private theorem deleteMeaning_kind? (plain : singlesOut code = false) (careful : Bool)
    (status : Option Int) :
    (deleteMeaning status code).kind? = some (.ofStatus .deleting careful status) := by
  simp only [singlesOut, Bool.or_eq_false_iff] at plain
  obtain ⟨⟨⟨⟨bucket, -⟩, denied⟩, -⟩, -⟩ := plain
  simp only [deleteMeaning, isDenied, bucket, denied, Bool.or_false]
  cases status with
  | none => simp [Meaning.kind?]
  | some n => grind [isAccessDenied_some, isTransient_some, FailureKind.ofStatus, Meaning.kind?]

/-- An answer with an ordinary code means what its status stands for. -/
theorem meaning_kind? {purpose : Purpose} {fault : Fault} (careful : Bool)
    (calling : purpose ≠ .reading) (plain : singlesOut code = false)
    (answered : fault.family = .objectResponse status code) :
    (meaning purpose careful fault).kind? = some (.ofStatus purpose careful status) := by
  cases purpose with
  | uploading => simpa only [meaning, answered] using uploadMeaning_kind? plain careful status
  | downloading => simpa only [meaning, answered] using downloadMeaning_kind? plain careful status
  | deleting => simpa only [meaning, answered] using deleteMeaning_kind? plain careful status
  | reading => exact absurd rfl calling

private theorem meaning_bucketMissing {purpose : Purpose} {fault : Fault} (careful : Bool)
    (calling : purpose ≠ .reading)
    (answered : fault.family = .objectResponse (some 404) "NoSuchBucket") :
    meaning purpose careful fault = .containerMissing := by
  cases purpose with
  | uploading => simp only [meaning, answered]; cases careful <;> rfl
  | downloading => simp only [meaning, answered]; rfl
  | deleting => simp only [meaning, answered]; rfl
  | reading => exact absurd rfl calling

/-- A careful upload whose condition fails, unless access to the object is denied as well. -/
theorem meaning_failedCondition {fault : Fault} (allowed : code ≠ "AccessDenied")
    (answered : fault.family = .objectResponse (some 412) code) :
    meaning .uploading true fault = .alreadyExists := by
  simp [meaning, answered, uploadMeaning, isDenied, isAccessDenied, allowed]

end Bucket

namespace Container

/-- The codes by which a decision of a blob service is made. -/
def singlesOut (code : Option String) : Bool :=
  isContainerMissing code || code == some "BlobAlreadyExists"

variable {code : Option String} {status : Option Int}

private theorem uploadMeaning_kind? (plain : singlesOut code = false) (careful : Bool)
    (status : Option Int) :
    (uploadMeaning careful status code).kind? = some (.ofStatus .uploading careful status) := by
  simp only [singlesOut, Bool.or_eq_false_iff] at plain
  simp only [uploadMeaning, plain.2, Bool.and_false, Bool.or_false]
  cases status with
  | none => simp [Meaning.kind?]
  | some n =>
    cases careful <;>
      grind [isAccessDenied_some, isTransient_some, FailureKind.ofStatus, Meaning.kind?]

private theorem downloadMeaning_kind? (plain : singlesOut code = false) (careful : Bool)
    (status : Option Int) :
    (downloadMeaning status code).kind? = some (.ofStatus .downloading careful status) := by
  simp only [singlesOut, Bool.or_eq_false_iff] at plain
  simp only [downloadMeaning, plain.1, Bool.false_eq_true, if_false]
  cases status with
  | none => simp [Meaning.kind?]
  | some n => grind [isAccessDenied_some, isTransient_some, FailureKind.ofStatus, Meaning.kind?]

private theorem deleteMeaning_kind? (present : status ≠ some 404) (code : Option String)
    (careful : Bool) :
    (deleteMeaning status code).kind? = some (.ofStatus .deleting careful status) := by
  simp only [deleteMeaning, beq_false_of_ne present, Bool.false_and, Bool.false_eq_true, if_false]
  cases status with
  | none => simp [Meaning.kind?]
  | some n => grind [isAccessDenied_some, isTransient_some, FailureKind.ofStatus, Meaning.kind?]

/-- An answer with an ordinary code means what its status stands for, unless what is to be deleted
is not there. -/
theorem meaning_kind? {purpose : Purpose} {fault : Fault} (careful : Bool)
    (calling : purpose ≠ .reading) (plain : singlesOut code = false)
    (present : purpose = .deleting → status ≠ some 404)
    (answered : fault.family = .blobResponse status code) :
    (meaning purpose careful fault).kind? = some (.ofStatus purpose careful status) := by
  cases purpose with
  | uploading => simpa only [meaning, answered] using uploadMeaning_kind? plain careful status
  | downloading => simpa only [meaning, answered] using downloadMeaning_kind? plain careful status
  | deleting => simpa only [meaning, answered] using deleteMeaning_kind? (present rfl) code careful
  | reading => exact absurd rfl calling

private theorem meaning_gone {fault : Fault} (careful : Bool) (plain : singlesOut code = false)
    (answered : fault.family = .blobResponse (some 404) code) :
    meaning .deleting careful fault = .alreadyGone := by
  simp only [singlesOut, Bool.or_eq_false_iff] at plain
  simp [meaning, answered, deleteMeaning, plain.1]

private theorem meaning_containerMissing {purpose : Purpose} {fault : Fault} (careful : Bool)
    (calling : purpose ≠ .reading)
    (answered : fault.family = .blobResponse (some 404) (some "ContainerNotFound")) :
    meaning purpose careful fault = .containerMissing := by
  cases purpose with
  | uploading => simp only [meaning, answered]; cases careful <;> rfl
  | downloading => simp only [meaning, answered]; rfl
  | deleting => simp only [meaning, answered]; rfl
  | reading => exact absurd rfl calling

/-- A careful upload whose condition fails: a blob service has two answers to it. -/
theorem meaning_failedCondition {fault : Fault}
    (answered : (∃ code, fault.family = .blobResponse (some 412) code) ∨
      fault.family = .blobResponse (some 409) (some "BlobAlreadyExists")) :
    meaning .uploading true fault = .alreadyExists := by
  rcases answered with ⟨code, answered⟩ | answered <;>
    simp [meaning, answered, uploadMeaning, isAccessDenied]

end Container

namespace Action

variable {ρ σ α γ : Type}

/-- The failure that an action ends in, if it fails. -/
def failure? (action : Action ρ α) (scene : Scene ρ) : Option Failure :=
  match action scene with
  | .ok _ _ => none
  | .error failure _ => some failure

private theorem failure?_of_map {first : Action σ γ} {change : α → γ} {action : Action σ α}
    {scene middle : Scene σ} (ran : first scene = (change <$> action) middle) :
    first.failure? scene = action.failure? middle := by
  simp only [failure?, ran, map_run]
  cases action middle <;> rfl

end Action

namespace CloudStore

variable {ρ σ β γ α : Type}

/-- An operation whose checks are passed and whose call comes back with a fault: what it was for, and
the failure that its caller sees, if there is one. -/
inductive Meets (store : CloudStore ρ β) (fault : Fault) : Purpose → Option Failure → Prop
  | uploading {upload : Upload} {reference : String} {arguments : Arguments}
      {scene middle after : Scene ρ}
      (opened : store.opening upload scene = .ok (reference, arguments) middle)
      (called : store.calling (store.client.put reference arguments) upload.signal middle =
        .error (.fault fault) after) :
      Meets store fault .uploading ((store.upload upload).failure? scene)
  | downloading {given : Option String} {reference : String} {signal : Option Signal}
      {scene after : Scene ρ} (accepted : Reference.accepted given = .ok reference)
      (free : scene.isCancelled signal = false)
      (called : store.calling (store.client.get reference (store.service.downloadArguments
        store.options.container reference)) signal scene = .error (.fault fault) after) :
      Meets store fault .downloading ((store.download given signal).failure? scene)
  | deleting {given : Option String} {reference : String} {signal : Option Signal}
      {scene after : Scene ρ} (accepted : Reference.accepted given = .ok reference)
      (free : scene.isCancelled signal = false)
      (called : store.calling (store.client.delete reference (store.service.deleteArguments
        store.options.container reference)) signal scene = .error (.fault fault) after) :
      Meets store fault .deleting ((store.delete given signal).failure? scene)

variable {store : CloudStore ρ β} {fault : Fault} {purpose : Purpose} {outcome : Option Failure}
  {scene after : Scene ρ} {kind : FailureKind}

private theorem attempt_failure? {call : Action ρ α} (purpose : Purpose) (reference : String)
    (signal : Option Signal) (gone : Option α) (called : call scene = .error (.fault fault) after)
    (means : (store.service.meaning purpose store.isConditional fault).kind? = some kind) :
    ∃ error, (store.attempt purpose reference signal call gone).failure? scene =
      some (.store error) ∧ error.kind = kind := by
  rw [← store.service.map_kind_storeError? store.options.container purpose reference] at means
  obtain ⟨error, found, rfl⟩ := Option.map_eq_some_iff.mp means
  refine ⟨error.withCause (.fault fault), ?_, rfl⟩
  simp [Action.failure?, attempt_run, called, answer, found]

namespace Meets

/-- An operation that calls its client may store over what is there, or can ask not to. -/
theorem isConditional (meets : Meets store fault .uploading outcome) :
    store.isConditional = !store.options.overwrite := by
  cases meets with
  | uploading opened called =>
    cases careful : store.options.overwrite with
    | true => simp [CloudStore.isConditional, careful]
    | false =>
      cases supported : store.options.supportsConditionalPut with
      | true => simp [CloudStore.isConditional, careful, supported]
      | false =>
        rw [opening_unsupported careful supported] at opened
        split at opened <;> cases opened

/-- A fault that means a kind of failure is raised as a store error of that kind. -/
theorem raises (meets : Meets store fault purpose outcome)
    (means : (store.service.meaning purpose store.isConditional fault).kind? = some kind) :
    ∃ error, outcome = some (.store error) ∧ error.kind = kind := by
  cases meets with
  | @uploading upload _ _ scene _ _ opened called =>
    have ran := store.upload_run upload scene
    simp only [opened] at ran
    rw [Action.failure?_of_map ran]
    exact attempt_failure? .uploading _ _ none called means
  | @downloading given _ signal scene _ accepted free called =>
    have ran := store.download_run given signal scene
    simp only [accepted, free, Bool.false_eq_true, if_false] at ran
    rw [Action.failure?_of_map ran]
    exact attempt_failure? .downloading _ _ none called means
  | deleting accepted free called =>
    simp only [Action.failure?, delete_run, accepted, free, Bool.false_eq_true, if_false]
    exact attempt_failure? .deleting _ _ (some ()) called means

/-- A deletion of what is gone returns. -/
theorem returns (meets : Meets store fault .deleting outcome)
    (means : store.service.meaning .deleting store.isConditional fault = .alreadyGone) :
    outcome = none := by
  cases meets with
  | deleting accepted free called =>
    simp [Action.failure?, delete_run, accepted, free, attempt_run, called, answer, means,
      Service.storeError?]

private theorem ne_reading (meets : Meets store fault purpose outcome) : purpose ≠ .reading := by
  rintro rfl
  cases meets

private theorem ofStatus_isConditional (meets : Meets store fault purpose outcome)
    (status : Option Int) :
    FailureKind.ofStatus purpose store.isConditional status =
      .ofStatus purpose (!store.options.overwrite) status := by
  cases purpose with
  | uploading => rw [meets.isConditional]
  | downloading => cases status <;> simp [FailureKind.ofStatus]
  | deleting => cases status <;> simp [FailureKind.ofStatus]
  | reading => exact absurd rfl meets.ne_reading

end Meets

section

variable {objects : Client ρ β} {blobs : Client σ γ} {options : CloudOptions ρ}
  {options' : CloudOptions σ} {fault fault' : Fault} {outcome' : Option Failure}

/-- What the callers of two operations see when each of them raises a store error of one kind. -/
def BothRaise (outcome outcome' : Option Failure) (kind : FailureKind) : Prop :=
  ∃ error error' : StoreError, outcome = some (.store error) ∧ outcome' = some (.store error') ∧
    error.kind = kind ∧ error'.kind = kind ∧ error.isRetryable = error'.isRetryable

private theorem bothRaise {store : CloudStore ρ β} {store' : CloudStore σ γ} {kind : FailureKind}
    (meets : Meets store fault purpose outcome) (meets' : Meets store' fault' purpose outcome')
    (means : (store.service.meaning purpose store.isConditional fault).kind? = some kind)
    (means' : (store'.service.meaning purpose store'.isConditional fault').kind? = some kind) :
    BothRaise outcome outcome' kind := by
  obtain ⟨error, raised, own⟩ := meets.raises means
  obtain ⟨error', raised', own'⟩ := meets'.raises means'
  have alike : error.isRetryable = error'.isRetryable :=
    congrArg FailureKind.isRetryable (own.trans own'.symm)
  exact ⟨error, error', raised, raised', own, own', alike⟩

/-- Two stores with one setting for overwriting, one in a bucket and one in a container, whose calls
come back with answers of their services: by ordinary codes they raise one kind of failure, apart
from the deletion of what is not there; so they do for failed conditions and for a missing
container. -/
theorem services_fail_alike (same : options.overwrite = options'.overwrite)
    (meets : Meets ⟨Bucket.service, objects, options⟩ fault purpose outcome)
    (meets' : Meets ⟨Container.service, blobs, options'⟩ fault' purpose outcome') :
    (∀ {status : Option Int} {code : String} {code' : Option String},
      fault.family = .objectResponse status code → Bucket.singlesOut code = false →
      fault'.family = .blobResponse status code' → Container.singlesOut code' = false →
      if purpose = .deleting ∧ status = some 404 then
        (∃ error : StoreError, outcome = some (.store error) ∧ error.kind = .unavailable) ∧
          outcome' = none
      else BothRaise outcome outcome' (.ofStatus purpose (!options.overwrite) status)) ∧
    (∀ {code : String}, purpose = .uploading → options.overwrite = false →
      fault.family = .objectResponse (some 412) code → code ≠ "AccessDenied" →
      (∃ code', fault'.family = .blobResponse (some 412) code') ∨
        fault'.family = .blobResponse (some 409) (some "BlobAlreadyExists") →
      BothRaise outcome outcome' .alreadyExists) ∧
    (fault.family = .objectResponse (some 404) "NoSuchBucket" →
      fault'.family = .blobResponse (some 404) (some "ContainerNotFound") →
      BothRaise outcome outcome' .unavailable) := by
  have calling := meets.ne_reading
  refine ⟨?_, ?_, ?_⟩
  · intro status code code' answered plain answered' plain'
    have means := Bucket.meaning_kind? (isConditional ⟨Bucket.service, objects, options⟩)
      calling plain answered
    rw [meets.ofStatus_isConditional] at means
    by_cases gone : purpose = .deleting ∧ status = some 404
    · rw [if_pos gone]
      obtain ⟨rfl, rfl⟩ := gone
      have absent := Container.meaning_gone (isConditional ⟨Container.service, blobs, options'⟩)
        plain' answered'
      exact ⟨meets.raises means, meets'.returns absent⟩
    · rw [if_neg gone]
      have present : purpose = .deleting → status ≠ some 404 := by
        intro deleting missing
        exact gone ⟨deleting, missing⟩
      have means' := Container.meaning_kind? (isConditional ⟨Container.service, blobs, options'⟩)
        calling plain' present answered'
      rw [meets'.ofStatus_isConditional, ← same] at means'
      exact bothRaise meets meets' means means'
  · intro code uploading careful answered allowed answered'
    subst uploading
    have conditional := meets.isConditional
    have conditional' := meets'.isConditional
    simp only [careful, ← same, Bool.not_false] at conditional conditional'
    apply bothRaise meets meets'
    · rw [conditional]
      exact congrArg Meaning.kind? (Bucket.meaning_failedCondition allowed answered)
    · rw [conditional']
      exact congrArg Meaning.kind? (Container.meaning_failedCondition answered')
  · intro answered answered'
    apply bothRaise meets meets'
    · exact congrArg Meaning.kind? (Bucket.meaning_bucketMissing _ calling answered)
    · exact congrArg Meaning.kind? (Container.meaning_containerMissing _ calling answered')

end

/-- A client that comes back with one fault, whatever it is called for. -/
def refusing (fault : Fault) : Client Unit Unit where
  acquire := pure ()
  put _ _ := ⟨fun scene => (.ended (.error (.fault fault)), scene)⟩
  get _ _ := ⟨fun scene => (.ended (.error (.fault fault)), scene)⟩
  delete _ _ := ⟨fun scene => (.ended (.error (.fault fault)), scene)⟩
  read _ := ⟨fun scene => (.ended (.ok []), scene)⟩
  close := pure ()
  pieces _ := 0

/-- A store that may not overwrite, behind a client that comes back with one fault. -/
def refusingStore (backend : Backend) (fault : Fault) : CloudStore Unit Unit :=
  ⟨backend.service, refusing fault, ⟨"c", none, false, false, true, none, none⟩⟩

def refusedUpload (backend : Backend) (fault : Fault) : Option Failure :=
  ((refusingStore backend fault).upload ⟨.ofBytes [], some "k", none, none, none⟩).failure?
    (.bare ())

def refusedDownload (backend : Backend) (fault : Fault) : Option Failure :=
  ((refusingStore backend fault).download (some "k") none).failure? (.bare ())

def refusedDelete (backend : Backend) (fault : Fault) : Option Failure :=
  ((refusingStore backend fault).delete (some "k") none).failure? (.bare ())

private theorem meets_upload (backend : Backend) (fault : Fault) :
    Meets (refusingStore backend fault) fault .uploading (refusedUpload backend fault) := by
  cases backend <;> exact .uploading rfl rfl

private theorem meets_download (backend : Backend) (fault : Fault) :
    Meets (refusingStore backend fault) fault .downloading (refusedDownload backend fault) :=
  .downloading rfl rfl rfl

private theorem meets_delete (backend : Backend) (fault : Fault) :
    Meets (refusingStore backend fault) fault .deleting (refusedDelete backend fault) :=
  .deleting rfl rfl rfl

def blobAnswer (status : Option Int) (code : Option String) : Fault :=
  ⟨"HttpResponseError", .blobResponse status code, ""⟩

/-- A service that is busy, a deletion of nothing, a key that is taken, a container that is
missing. -/
theorem refusing_services_fail_alike :
    BothRaise (refusedDownload .objects (.ofResponse (.bare "GetObject" "SlowDown") (some 503)))
      (refusedDownload .blobs (blobAnswer (some 503) none)) .unavailable ∧
    refusedDelete .blobs (blobAnswer (some 404) none) = none ∧
    BothRaise
      (refusedUpload .objects (.ofResponse (.bare "PutObject" "PreconditionFailed") (some 412)))
      (refusedUpload .blobs (blobAnswer (some 409) (some "BlobAlreadyExists"))) .alreadyExists ∧
    BothRaise (refusedDelete .objects (.ofResponse (.bare "DeleteObject" "NoSuchBucket") (some 404)))
      (refusedDelete .blobs (blobAnswer (some 404) (some "ContainerNotFound"))) .unavailable := by
  refine ⟨?_, ?_, ?_, ?_⟩
  · obtain ⟨ordinary, -, -⟩ := services_fail_alike rfl
      (meets_download .objects (.ofResponse (.bare "GetObject" "SlowDown") (some 503)))
      (meets_download .blobs (blobAnswer (some 503) none))
    exact ordinary rfl (by decide) rfl (by decide)
  · obtain ⟨ordinary, -, -⟩ := services_fail_alike rfl
      (meets_delete .objects (.ofResponse (.bare "DeleteObject" "SlowDown") (some 404)))
      (meets_delete .blobs (blobAnswer (some 404) none))
    exact (ordinary rfl (by decide) rfl (by decide)).2
  · obtain ⟨-, taken, -⟩ := services_fail_alike rfl
      (meets_upload .objects (.ofResponse (.bare "PutObject" "PreconditionFailed") (some 412)))
      (meets_upload .blobs (blobAnswer (some 409) (some "BlobAlreadyExists")))
    exact taken rfl rfl rfl (by decide) (.inr rfl)
  · obtain ⟨-, -, missing⟩ := services_fail_alike rfl
      (meets_delete .objects (.ofResponse (.bare "DeleteObject" "NoSuchBucket") (some 404)))
      (meets_delete .blobs (blobAnswer (some 404) (some "ContainerNotFound")))
    exact missing rfl rfl

end CloudStore
end ClaimCheck
