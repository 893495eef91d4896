import ClaimCheck.Proofs.ClientCalls
import ClaimCheck.Proofs.InlineBodies
import ClaimCheck.Proofs.SeparateObjects

/-!
Envelopes that cannot be sent on. A claim is concluded after its body was stored, so a failure leaves
nothing behind only if everything that can go wrong later was found out before.
-/
namespace ClaimCheck

namespace Action

variable {ρ κ α β : Type} {view : ρ → κ}

/-- Whether an action leaves alone what is seen of its state, and does not get its caller cancelled. -/
structure Calm (view : ρ → κ) (action : Action ρ α) : Prop where
  leaves : Leaves view action
  spares : ∀ scene, scene.task.pending = false → (action.sceneAfter scene).task.pending = false

private theorem calm_of_unmoved {action : Action ρ α}
    (unmoved : ∀ scene, action.sceneAfter scene = scene) :
    Calm view action where
  leaves scene := by rw [unmoved]
  spares scene free := by rwa [unmoved]

private theorem calm_pure (value : α) : Calm view (pure value) := calm_of_unmoved fun _ => rfl

theorem Calm.bind {action : Action ρ α} {next : α → Action ρ β} (first : Calm view action)
    (second : ∀ value, Calm view (next value)) : Calm view (action >>= next) where
  leaves := first.leaves.bind fun value => (second value).leaves
  spares scene free := by
    have spared := first.spares scene free
    rw [sceneAfter_bind]
    cases ran : action scene with
    | ok value after =>
      simp only [sceneAfter, ran] at spared
      exact (second value).spares after spared
    | error failure after => simpa only [sceneAfter, ran] using spared

/-- Whether an action that fails leaves alone what is seen of its state, unless the caller is
cancelled. -/
def FailsClean (view : ρ → κ) (action : Action ρ α) : Prop :=
  ∀ scene failure after, scene.task.pending = false → action scene = .error failure after →
    view after.rest = view scene.rest

theorem FailsClean.map {action : Action ρ α} (clean : FailsClean view action) (change : α → β) :
    FailsClean view (change <$> action) := by
  intro scene failure after free ran
  rw [map_run] at ran
  cases began : action scene with
  | ok value middle => simp [began] at ran
  | error own middle =>
    simp only [began] at ran
    cases ran
    exact clean scene failure after free began

private theorem Calm.failsClean_bind {action : Action ρ α} {next : α → Action ρ β}
    (first : Calm view action) (second : ∀ value, FailsClean view (next value)) :
    FailsClean view (action >>= next) := by
  intro scene failure after free ran
  have left := first.leaves scene
  have spared := first.spares scene free
  simp only [sceneAfter] at left spared
  rw [bind_run] at ran
  cases began : action scene with
  | ok value middle =>
    simp only [began] at ran left spared
    exact (second value middle failure after spared ran).trans left
  | error own middle =>
    simp only [began] at ran left
    cases ran
    exact left

end Action

/-- A client whose failing calls have no effect. -/
structure Client.FailsClean {ρ β κ : Type} (client : Client ρ β) (view : ρ → κ) : Prop where
  acquire : Action.Calm view client.acquire
  put : ∀ key arguments signal, Action.FailsClean view ((client.put key arguments).run signal)

namespace CloudStore

variable {ρ β κ : Type} {view : ρ → κ}

/-- Whether the customization of a store is calm. -/
def IsCalm (options : CloudOptions ρ) (view : ρ → κ) : Prop :=
  ∀ change ∈ options.customize, ∀ request, Action.Calm view (change request)

private theorem opening_calm (store : CloudStore ρ β) (calm : IsCalm store.options view)
    (upload : Upload) : Action.Calm view (store.opening upload) := by
  have accepts : Action.Calm view (store.accept upload) := by
    refine Action.calm_of_unmoved fun scene => ?_
    rw [Action.sceneAfter, accept_run]
    cases store.options.accepts upload (scene.isCancelled upload.signal) <;> rfl
  refine accepts.bind fun accepted => ?_
  refine Action.Calm.bind ?_ fun _ => Action.calm_pure _
  simp only [CloudStore.request, requestOf, UploadRequest.build]
  cases customize : store.options.customize with
  | none => exact (Action.calm_pure _).bind fun _ => Action.calm_pure _
  | some change => exact (calm change (by simp [customize]) _).bind fun _ => Action.calm_pure _

private theorem attempt_failsClean {α : Type} {call : Action ρ α}
    (clean : Action.FailsClean view call) (store : CloudStore ρ β) (purpose : Purpose)
    (reference : String) (signal : Option Signal) :
    Action.FailsClean view (store.attempt purpose reference signal call none) := by
  intro scene failure after free ran
  have tried := store.attempt_rest purpose reference signal call none scene
  simp only [Action.sceneAfter, ran] at tried
  rw [tried]
  cases called : call scene with
  | ok value middle => simp [attempt_of_ok called] at ran
  | error own middle => exact clean scene own middle free called

private theorem calling_failsClean {store : CloudStore ρ β} (clean : store.client.FailsClean view)
    (reference : String) (arguments : Arguments) (signal : Option Signal) :
    Action.FailsClean view
      (store.calling (store.client.put reference arguments) signal) :=
  clean.acquire.failsClean_bind fun _ => clean.put reference arguments signal

/-- An upload that fails leaves no object. -/
theorem upload_failsClean {store : CloudStore ρ β} (clean : store.client.FailsClean view)
    (calm : IsCalm store.options view) (upload : Upload) :
    Action.FailsClean view (store.upload upload) := by
  have steps : store.upload upload = store.opening upload >>= fun asked =>
      (fun _ => some asked.1) <$> store.attempt .uploading asked.1 upload.signal
        (store.calling (store.client.put asked.1 asked.2) upload.signal) none := by
    funext scene
    rw [upload_run, Action.bind_run]
    cases store.opening upload scene <;> rfl
  rw [steps]
  refine (store.opening_calm calm upload).failsClean_bind fun asked => ?_
  exact (attempt_failsClean (calling_failsClean clean asked.1 asked.2 upload.signal) store
    .uploading asked.1 upload.signal).map _

end CloudStore

namespace MemoryStore

private theorem blank_referenceFor (key : String) (scene : Scene MemoryStore) :
    Text.blank (referenceFor key scene) = false := by
  have separated : '/' ∈ (referenceFor key scene).toList := by simp [referenceFor]
  rw [Text.blank, List.all_eq_false]
  exact ⟨'/', separated, by decide⟩

private theorem expiry_of_upload_ok {upload : Upload} {scene after : Scene MemoryStore}
    {returned : Option String} (ran : MemoryStore.upload upload scene = .ok returned after) :
    ∃ expires, upload.expiry = .ok expires := by
  rw [upload_run] at ran
  cases accepted : accepts upload (scene.isCancelled upload.signal) with
  | error own => simp [accepted] at ran
  | ok key =>
    cases due : upload.expiry with
    | error own => simp [accepted, store?, due] at ran
    | ok expires => exact ⟨expires, rfl⟩

private theorem upload_of_error {upload : Upload} {scene after : Scene MemoryStore}
    {failure : Failure} (ran : MemoryStore.upload upload scene = .error failure after) :
    after.rest = scene.rest := by
  rw [upload_run] at ran
  cases accepted : accepts upload (scene.isCancelled upload.signal) with
  | error own =>
    simp only [accepted] at ran
    cases ran
    rfl
  | ok key =>
    cases due : upload.expiry with
    | error own =>
      simp only [accepted, store?, due] at ran
      cases ran
      rfl
    | ok expires => simp [accepted, store?, due] at ran

end MemoryStore

namespace Policy

variable {ρ τ : Type} {policy : Policy} {store : Store ρ τ} {envelope : Envelope}
  {expiresAt : Option Moment} {signal : Option Signal} {scene after : Scene ρ} {failure : Failure}

/-- A body that cannot be sent on is large, and either it was not stored, or its claim cannot be
concluded. -/
theorem prepare_eq_error_iff :
    policy.prepare (some store) (some envelope) expiresAt signal scene = .error failure after ↔
      policy.threshold < envelope.body.length ∧
        (store.upload (policy.offer envelope expiresAt signal) scene = .error failure after ∨
          ∃ returned, store.upload (policy.offer envelope expiresAt signal) scene =
              .ok returned after ∧
            policy.concluded envelope expiresAt signal returned = .error failure) := by
  by_cases large : policy.threshold < envelope.body.length
  · rw [prepare_eq store expiresAt signal large, Action.bind_run]
    cases ran : store.upload (policy.offer envelope expiresAt signal) scene with
    | error own middle => simp [large]
    | ok returned middle =>
      simp only [large, true_and, reduceCtorEq, false_or, Action.ofExcept_eq_error]
      constructor
      · rintro ⟨concluded, rfl⟩
        exact ⟨returned, rfl, concluded⟩
      · rintro ⟨_, same, concluded⟩
        cases same
        exact ⟨concluded, rfl⟩
  · simp [policy.prepare_small store envelope expiresAt signal (by omega) scene, large]

/-- A claim is concluded if its reference is not blank, and its time of expiry is an instant. -/
theorem concluded_eq_ok_iff {reference : String} :
    (∃ out, policy.concluded envelope expiresAt signal (some reference) = .ok out) ↔
      Text.blank reference = false ∧
        ∃ expires, (policy.offer envelope expiresAt signal).expiry = .ok expires := by
  cases shown : Text.blank reference with
  | true => simp [concluded, shown]
  | false =>
    cases due : (policy.offer envelope expiresAt signal).expiry <;>
      simp [concluded, shown, due, Except.map]

end Policy

/-- Whether an upload finds out beforehand all that can go wrong with its claim: no key gives a blank
reference, and a time of expiry that is no instant is refused. -/
structure CloudOptions.Foresees {ρ : Type} (options : CloudOptions ρ) (upload : Upload) : Prop where
  shown : ∀ key, Reference.accepted upload.key = .ok key →
    Text.blank (Reference.under (Reference.normalizePath options.path) key) = false
  dated : options.emitExpiresMarker = true ∨ ∃ expires, upload.expiry = .ok expires

private theorem CloudStore.expiry_of_upload_ok {ρ β : Type} {store : CloudStore ρ β}
    {upload : Upload} {scene after : Scene ρ} {returned : Option String}
    (emits : store.options.emitExpiresMarker = true)
    (ran : store.upload upload scene = .ok returned after) :
    ∃ expires, upload.expiry = .ok expires := by
  obtain ⟨⟨reference, marker⟩, _, accepted, -⟩ := Action.bind_eq_ok.mp ran
  obtain ⟨_, -, -, dated⟩ := CloudOptions.accepts_eq_ok (accepts_of_accept accepted)
  cases due : upload.expiresAt with
  | none => exact ⟨none, by simp [Upload.expiry, due]⟩
  | some moment =>
    cases found : moment.instant? with
    | none => simp [CloudOptions.marker, due, emits, found] at dated
    | some instant => exact ⟨some instant, by simp [Upload.expiry, due, found]⟩

/-- Where a body was stored, its claim is concluded exactly if all was foreseen. -/
theorem CloudOptions.foresees_iff {ρ β : Type} {store : CloudStore ρ β} {policy : Policy}
    {envelope : Envelope} {expiresAt : Option Moment} {signal : Option Signal}
    {scene after : Scene ρ} {returned : Option String}
    (ran : store.upload (policy.offer envelope expiresAt signal) scene = .ok returned after) :
    store.options.Foresees (policy.offer envelope expiresAt signal) ↔
      ∃ out, policy.concluded envelope expiresAt signal returned = .ok out := by
  obtain ⟨key, accepted, rfl⟩ := CloudStore.upload_returns ran
  rw [Policy.concluded_eq_ok_iff]
  constructor
  · rintro ⟨shown, dated⟩
    refine ⟨shown key accepted, ?_⟩
    rcases dated with emits | dated
    · exact CloudStore.expiry_of_upload_ok emits ran
    · exact dated
  · rintro ⟨shown, dated⟩
    refine ⟨fun other named => ?_, .inr dated⟩
    cases accepted.symm.trans named
    exact shown

/-- The store in memory converts a time of expiry before it stores anything, and none of its
references is blank, so nothing is left of an envelope that cannot be sent on. With a cloud store,
and a client whose failing calls have no effect, nothing is left exactly if all that can go wrong was
found out before, unless storing the body changed nothing anyway. -/
theorem failed_prepare_leaves_objects {ρ β : Type} (policy : Policy) (envelope : Envelope)
    (expiresAt : Option Moment) (signal : Option Signal) :
    (∀ (scene : Scene MemoryStore) failure after,
      policy.prepare (some MemoryStore.store) (some envelope) expiresAt signal scene =
        .error failure after → after.rest = scene.rest) ∧
    ∀ (backend : Backend) (client : Client ρ β) (options : CloudOptions ρ)
      (objects : ρ → String → Option Bytes),
      client.FailsClean objects → CloudStore.IsCalm options objects →
      ∀ scene : Scene ρ, scene.task.pending = false →
      let store : CloudStore ρ β := ⟨backend.service, client, options⟩
      let upload := policy.offer envelope expiresAt signal
      ((∀ failure after,
          policy.prepare (some store.toStore) (some envelope) expiresAt signal scene =
            .error failure after → objects after.rest = objects scene.rest) ↔
        (policy.threshold < envelope.body.length → ∀ returned after,
          store.upload upload scene = .ok returned after →
            options.Foresees upload ∨ objects after.rest = objects scene.rest)) := by
  constructor
  · intro scene failure after ran
    obtain ⟨-, failed | ⟨returned, uploaded, refused⟩⟩ := Policy.prepare_eq_error_iff.mp ran
    · exact MemoryStore.upload_of_error failed
    · obtain ⟨key, -, rfl, -⟩ := MemoryStore.upload_eq_ok uploaded
      obtain ⟨out, concluded⟩ := Policy.concluded_eq_ok_iff.mpr
        ⟨MemoryStore.blank_referenceFor key scene, MemoryStore.expiry_of_upload_ok uploaded⟩
      cases refused.symm.trans concluded
  · intro backend client options objects clean calm scene free store upload
    constructor
    · intro left large returned after uploaded
      rw [CloudOptions.foresees_iff uploaded]
      cases concluded : policy.concluded envelope expiresAt signal returned with
      | ok out => exact .inl ⟨out, rfl⟩
      | error failure => exact .inr (left failure after
          (Policy.prepare_eq_error_iff.mpr ⟨large, .inr ⟨returned, uploaded, concluded⟩⟩))
    · intro foreseen failure after ran
      obtain ⟨large, failed | ⟨returned, uploaded, refused⟩⟩ := Policy.prepare_eq_error_iff.mp ran
      · exact CloudStore.upload_failsClean clean calm upload scene failure after free failed
      · refine (foreseen large returned after uploaded).resolve_left fun foresees => ?_
        obtain ⟨out, concluded⟩ := (CloudOptions.foresees_iff uploaded).mp foresees
        cases refused.symm.trans concluded

private theorem Client.ofTable_failsClean (reading : CallReading) (refuses : Arguments → Bool) :
    (ofTable reading refuses).FailsClean Table.get? where
  acquire := Action.calm_pure ()
  put key arguments signal scene failure after free ran := by
    have refused : ∀ own, ((ofTable reading refuses).put key arguments).start scene =
        (.ended (.error own), scene) → after.rest = scene.rest := by
      intro own ended
      rw [Call.run_of_ended ended free, Action.ofExcept_eq_error] at ran
      rw [ran.2]
    have accepted : ∀ later, ((ofTable reading refuses).put key arguments).start scene =
        (.ended (.ok ()), later) → later.task = scene.task → after.rest = scene.rest := by
      intro later ended same
      rw [Call.run_of_ended ended (by rw [same, free])] at ran
      cases ran
    refine congrArg Table.get? ?_
    cases stored : reading.stored? key arguments with
    | none =>
      refine refused (.fault (.ofGeneral "ParamValidationError" "Parameter validation failed")) ?_
      simp only [ofTable, Call.ofAction, Action.bind_run, Action.inspect_run, stored]
      rfl
    | some asked =>
      obtain ⟨name, bytes⟩ := asked
      cases present : refuses arguments && scene.rest.contains name with
      | true =>
        refine refused (.fault (.ofResponse (.bare "PutObject" "PreconditionFailed") (some 412))) ?_
        simp only [ofTable, Call.ofAction, Action.bind_run, Action.inspect_run, id, stored, present]
        rfl
      | false =>
        refine accepted { scene with rest := scene.rest.set name bytes } ?_ rfl
        simp only [ofTable, Call.ofAction, Action.bind_run, Action.inspect_run, id, stored, present]
        rfl

/-- An hour before the first instant, on a clock that is ahead of UTC. -/
def tooEarly : Moment := ⟨0, some Calendar.hour, Instant.first.inRange⟩

/-- A bucket that replaces what is there, and records times of expiry or not. -/
def datedStore (emits : Bool) : CloudStore (Table Bytes) Bytes :=
  ⟨Bucket.service, replacingClient, { replacing with emitExpiresMarker := emits }⟩

theorem early_claim_leaves_nothing : ∃ after,
    unpacked.prepare (some (datedStore true).toStore) (some oneLetter.envelope) (some tooEarly) none
        (.bare ∅) = .error .outOfRange after ∧
      after.rest.get? = (∅ : Table Bytes).get? := by
  have clean : replacingClient.FailsClean Table.get? := Client.ofTable_failsClean _ _
  have calm : CloudStore.IsCalm (datedStore true).options
    (Table.get? : Table Bytes → String → Option Bytes) := nofun
  obtain ⟨after, ran⟩ : ∃ after, unpacked.prepare (some (datedStore true).toStore)
      (some oneLetter.envelope) (some tooEarly) none (.bare ∅) = .error .outOfRange after :=
    ⟨_, rfl⟩
  obtain ⟨-, leaves⟩ := @failed_prepare_leaves_objects (Table Bytes) Bytes unpacked
    oneLetter.envelope (some tooEarly) none
  refine ⟨after, ran, ?_⟩
  refine (leaves .objects replacingClient (datedStore true).options Table.get? clean calm (.bare ∅)
    rfl).mpr (fun _ _ _ _ => .inl ⟨?_, .inl rfl⟩) .outOfRange after ran
  intro key accepted
  cases accepted
  decide

/-- An envelope whose identifier comes to a blank where the root of all keys is a separator. -/
def blankParcel : Parcel := letter "/ /" [1, 2, 3] rfl

def rootless : Policy := { unpacked with keyRoot := "/", named := by decide }

/-- A time of expiry that is not recorded is converted too late, and so is a key that trimming makes
a blank: the body stays in the bucket, and no claim names it. -/
theorem late_failures_leave_objects :
    (∃ after, unpacked.prepare (some (datedStore false).toStore) (some oneLetter.envelope)
        (some tooEarly) none (.bare ∅) = .error .outOfRange after ∧
      after.rest.get? "p/payload/m" = some [1, 2, 3]) ∧
    ∃ after, rootless.prepare (some (CloudStore.toStore
          ⟨Bucket.service, replacingClient, { replacing with path := none }⟩))
        (some blankParcel.envelope) none none (.bare ∅) = .error (.integrity .emptyReference) after ∧
      after.rest.get? " " = some [1, 2, 3] :=
  ⟨⟨_, rfl, rfl⟩, _, rfl, rfl⟩

end ClaimCheck
