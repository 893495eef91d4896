import ClaimCheck.Proofs.Backends
import ClaimCheck.Proofs.CallOutcome
import Mathlib.Logic.Function.Basic
import Mathlib.Logic.Relation

/-!
Uploads that compete. Any number of stores that do not overwrite put their payloads into one
container, and the service applies their puts in any order, each as a whole. An upload is what its
store does in the scene where it begins; its client may do whatever agrees with what became of the
put.
-/
namespace ClaimCheck

/-- What a service makes of a put. -/
inductive Verdict
  | stored
  | rejected
  deriving DecidableEq, Repr

namespace Backend

/-- The error by which a service rejects a put whose condition fails. -/
def isRejection : Backend → Fault.Family → Bool
  | .objects, .objectResponse (some 412) code => code != "AccessDenied"
  | .blobs, .blobResponse (some 409) (some code) => code == "BlobAlreadyExists"
  | _, _ => false

/-- What becomes of the objects of a container by a put, which asks for nothing if it is malformed.
Where there is an object already, a conditional put is rejected. -/
def apply (backend : Backend) (container : String) (objects : String → Option Bytes) (key : String)
    (arguments : Arguments) : Option (Verdict × (String → Option Bytes)) :=
  ((backend.reading container).stored? key arguments).map fun (name, bytes) =>
    if backend.isConditional arguments && (objects name).isSome then (.rejected, objects)
    else (.stored, Function.update objects name (some bytes))

end Backend

/-- An upload through a store that does not overwrite, in the container that all of them share. -/
structure Party (backend : Backend) (container : String) (ρ β : Type) where
  client : Client ρ β
  options : CloudOptions ρ
  upload : Upload
  shared : options.container = container
  careful : options.overwrite = false

namespace Party

variable {backend : Backend} {container : String} {ρ β : Type}
  {party : Party backend container ρ β} {scene : Scene ρ} {reference : String}

def store (party : Party backend container ρ β) : CloudStore ρ β :=
  ⟨backend.service, party.client, party.options⟩

/-- What comes of the upload if it begins in a scene. -/
def outcome (party : Party backend container ρ β) (scene : Scene ρ) :
    EStateM.Result Failure (Scene ρ) (Option String) :=
  party.store.upload party.upload scene

def payload (party : Party backend container ρ β) : Bytes :=
  party.upload.source.remaining

/-- Begun in a scene, the upload calls its client for a put, in another scene. -/
def Puts (party : Party backend container ρ β) (scene : Scene ρ) (reference : String)
    (arguments : Arguments) (middle : Scene ρ) : Prop :=
  ∃ opened, party.store.opening party.upload scene = .ok (reference, arguments) opened ∧
    party.client.acquire opened = .ok () middle

/-- The reference that the upload's key stands for. -/
def IsFor (party : Party backend container ρ β) (reference : String) : Prop :=
  ∃ key, Reference.accepted party.upload.key = .ok key ∧
    reference = Reference.under party.store.path key

/-- Whether the caller has cancelled by the time that the put ends or waits. -/
def IsCancelled (party : Party backend container ρ β) (scene : Scene ρ) : Prop :=
  ∃ reference arguments middle, party.Puts scene reference arguments middle ∧
    let after := ((party.client.put reference arguments).start middle).2
    after.task.pending = true ∨ after.isCancelled party.upload.signal = true

/-- The client agrees with the service: the put returns only if it was applied, and once it is
rejected it ends in the rejection, unless its caller stops it before. -/
structure Reports (party : Party backend container ρ β) (scene : Scene ρ)
    (verdict : Option Verdict) : Prop where
  stored : ∀ {reference arguments middle last}, party.Puts scene reference arguments middle →
    (party.client.put reference arguments).Gives middle (.ok ()) last → verdict = some .stored
  rejected : ∀ {reference arguments middle}, party.Puts scene reference arguments middle →
    verdict = some .rejected → ¬ party.IsCancelled scene →
    ∃ fault last, backend.isRejection fault.family = true ∧
      (party.client.put reference arguments).start middle = (.ended (.error (.fault fault)), last)

/-- What becomes of a put: it is rejected, or there was nothing and now there is the payload. -/
theorem apply_puts {arguments : Arguments} {middle : Scene ρ} {verdict : Verdict}
    {before objects : String → Option Bytes}
    (puts : party.Puts scene reference arguments middle)
    (applied : backend.apply container before reference arguments = some (verdict, objects)) :
    (verdict = .rejected ∧ objects = before) ∨
      (verdict = .stored ∧ before reference = none ∧
        objects = Function.update before reference (some party.payload)) := by
  obtain ⟨opened, ran, -⟩ := puts
  have asked := CloudStore.stored_opening ran
  rw [party.shared] at asked
  have conditional := CloudStore.isConditional_opening party.careful ran
  simp only [Backend.apply, asked, conditional, Bool.true_and, Option.map_some] at applied
  cases there : before reference with
  | some bytes =>
    simp only [there, Option.isSome_some, if_true] at applied
    cases applied
    exact .inl ⟨rfl, rfl⟩
  | none =>
    simp only [there, Option.isSome_none, Bool.false_eq_true, if_false] at applied
    cases applied
    exact .inr ⟨rfl, rfl, rfl⟩

private theorem puts_unique {other : String} {arguments others : Arguments} {middle later : Scene ρ}
    (puts : party.Puts scene reference arguments middle)
    (same : party.Puts scene other others later) :
    reference = other ∧ arguments = others ∧ middle = later := by
  obtain ⟨opened, ran, acquired⟩ := puts
  obtain ⟨opened, again, reacquired⟩ := same
  cases ran.symm.trans again
  cases acquired.symm.trans reacquired
  exact ⟨rfl, rfl, rfl⟩

private theorem isFor_of_puts {arguments : Arguments} {middle : Scene ρ}
    (puts : party.Puts scene reference arguments middle) : party.IsFor reference := by
  obtain ⟨opened, ran, -⟩ := puts
  obtain ⟨key, accepted, named, -⟩ := CloudStore.opening_eq_ok ran
  exact ⟨key, accepted, named⟩

private theorem gives_of_outcome_ok {returned : Option String} {after : Scene ρ}
    (ran : party.outcome scene = .ok returned after) :
    ∃ reference arguments middle last, returned = some reference ∧
      party.Puts scene reference arguments middle ∧
      (party.client.put reference arguments).Gives middle (.ok ()) last := by
  obtain ⟨reference, arguments, later, _, opened, rfl, tried⟩ :=
    CloudStore.attempt_of_upload_ok ran
  obtain ⟨_, middle, acquired, gave⟩ := Action.bind_eq_ok.mp (CloudStore.attempt_eq_ok tried)
  exact ⟨reference, arguments, middle, _, rfl, ⟨later, opened, acquired⟩,
    Call.gives_of_run_ok gave⟩

private theorem meaning_of_isRejection {fault : Fault}
    (rejection : backend.isRejection fault.family = true) :
    backend.service.meaning .uploading true fault = .alreadyExists := by
  simp only [Backend.isRejection] at rejection
  split at rejection
  · next code family =>
    have allowed : code ≠ "AccessDenied" := by simpa using rejection
    simp [Backend.service, Bucket.service, Bucket.meaning, family, Bucket.uploadMeaning,
      Bucket.isDenied, isAccessDenied, allowed]
  · next code family =>
    simp [Backend.service, Container.service, Container.meaning, family, Container.uploadMeaning,
      isAccessDenied, beq_iff_eq.mp rejection]
  · cases rejection

private theorem isConditional_of_puts {arguments : Arguments} {middle : Scene ρ}
    (puts : party.Puts scene reference arguments middle) : party.store.isConditional = true := by
  obtain ⟨opened, ran, -⟩ := puts
  cases supported : party.options.supportsConditionalPut with
  | true => simp [CloudStore.isConditional, store, party.careful, supported]
  | false =>
    rw [CloudStore.opening_unsupported party.careful supported] at ran
    split at ran <;> cases ran

/-- A put that ends in a rejection ends its upload in the store error for it. -/
theorem outcome_of_rejection {arguments : Arguments} {middle last : Scene ρ} {fault : Fault}
    (puts : party.Puts scene reference arguments middle)
    (rejection : backend.isRejection fault.family = true)
    (started : (party.client.put reference arguments).start middle =
      (.ended (.error (.fault fault)), last)) (free : last.task.pending = false) :
    party.outcome scene =
      .error (.store ((StoreError.alreadyExists reference).withCause (.fault fault))) last := by
  have conditional := isConditional_of_puts puts
  obtain ⟨opened, ran, acquired⟩ := puts
  have called : party.store.calling (party.store.client.put reference arguments)
      party.upload.signal opened = .error (.fault fault) last := by
    rw [CloudStore.calling]
    exact (Action.bind_of_ok acquired _).trans (Call.run_of_ended started free)
  have meant := meaning_of_isRejection rejection
  rw [outcome, CloudStore.upload_run, ran]
  simp only [Action.map_run, CloudStore.attempt_run, called]
  simp only [CloudStore.answer, CloudStore.noted, conditional]
  simp [store, meant, Service.storeError?]

/-- A store without conditional puts calls nobody: whoever its client is, the upload ends in the
first check that fails, the scene as it was. -/
theorem outcome_of_unsupported (party : Party backend container ρ β)
    (unsupported : party.options.supportsConditionalPut = false) (scene : Scene ρ) :
    party.outcome scene =
      match party.upload.checked (scene.isCancelled party.upload.signal) with
      | .error failure => .error failure scene
      | .ok _ => .error (.store .conditionalPutNotSupported) scene := by
  rw [outcome, CloudStore.upload_run, CloudStore.opening_unsupported party.careful unsupported]
  simp only [store]
  cases party.upload.checked (scene.isCancelled party.upload.signal) <;> rfl

end Party

/-- How far an upload has come: the scene where it began, what became of its put, and, once it has
ended, what had become of the put by then. -/
structure Session (ρ : Type) where
  begun : Option (Scene ρ)
  verdict : Option Verdict
  ended : Option (Option Verdict)

/-- Uploads that compete, by their numbers, and the objects that they compete for. -/
structure Contest (ρ : Type) where
  objects : String → Option Bytes
  session : Nat → Session ρ

namespace Contest

variable {backend : Backend} {container : String} {ρ β : Type}
  {parties : Nat → Party backend container ρ β} {first contest later : Contest ρ}

def record (contest : Contest ρ) (i : Nat) (session : Session ρ) : Contest ρ :=
  { contest with session := Function.update contest.session i session }

/-- No upload has begun. -/
def IsFresh (contest : Contest ρ) : Prop :=
  ∀ i, contest.session i = ⟨none, none, none⟩

/-- One step of the contest. A put may be applied at any time after its upload began, even when
that has ended. -/
inductive Step (parties : Nat → Party backend container ρ β) : Contest ρ → Contest ρ → Prop
  | begins {contest : Contest ρ} (i : Nat) (scene : Scene ρ)
      (idle : contest.session i = ⟨none, none, none⟩) :
      Step parties contest (contest.record i ⟨some scene, none, none⟩)
  | lands {contest : Contest ρ} {i : Nat} {scene middle : Scene ρ} {ended : Option (Option Verdict)}
      {reference : String} {arguments : Arguments} {verdict : Verdict}
      {objects : String → Option Bytes}
      (waiting : contest.session i = ⟨some scene, none, ended⟩)
      (puts : (parties i).Puts scene reference arguments middle)
      (applied : backend.apply container contest.objects reference arguments =
        some (verdict, objects)) :
      Step parties contest { contest.record i ⟨some scene, some verdict, ended⟩ with objects }
  | ends {contest : Contest ρ} {i : Nat} {scene : Scene ρ} {verdict : Option Verdict}
      (running : contest.session i = ⟨some scene, verdict, none⟩)
      (reports : (parties i).Reports scene verdict) :
      Step parties contest (contest.record i ⟨some scene, verdict, some verdict⟩)

/-- An upload has stored its payload under a reference. -/
def HasStored (parties : Nat → Party backend container ρ β) (contest : Contest ρ) (i : Nat)
    (reference : String) : Prop :=
  ∃ scene ended arguments middle, contest.session i = ⟨some scene, some .stored, ended⟩ ∧
    (parties i).Puts scene reference arguments middle

/-- An upload has ended in what comes of it in the scene where it began. -/
def HasEnded (parties : Nat → Party backend container ρ β) (contest : Contest ρ) (i : Nat)
    (outcome : EStateM.Result Failure (Scene ρ) (Option String)) : Prop :=
  ∃ scene verdict told, contest.session i = ⟨some scene, verdict, some told⟩ ∧
    (parties i).outcome scene = outcome

/-- What holds throughout a contest. -/
structure IsSound (parties : Nat → Party backend container ρ β) (contest : Contest ρ) : Prop where
  /-- What was stored is there. -/
  held : ∀ {i reference}, HasStored parties contest i reference →
    contest.objects reference = some (parties i).payload
  /-- Under each reference one upload has stored. -/
  once : ∀ {i j reference}, HasStored parties contest i reference →
    HasStored parties contest j reference → i = j
  /-- What became of a put, became of one that an upload asked for. -/
  asked : ∀ {i scene verdict ended}, contest.session i = ⟨some scene, some verdict, ended⟩ →
    ∃ reference arguments middle, (parties i).Puts scene reference arguments middle
  /-- What an upload was told when it ended is what became of its put. -/
  honest : ∀ {i scene verdict told}, contest.session i = ⟨some scene, verdict, some told⟩ →
    (parties i).Reports scene told ∧ (told ≠ none → verdict = told)

private theorem isSound_of_isFresh (fresh : first.IsFresh) : IsSound parties first where
  held := by
    rintro i reference ⟨scene, ended, arguments, middle, stored, -⟩
    simp [fresh i] at stored
  once := by
    rintro i j reference ⟨scene, ended, arguments, middle, stored, -⟩
    simp [fresh i] at stored
  asked := by
    intro i scene verdict ended session
    simp [fresh i] at session
  honest := by
    intro i scene verdict told session
    simp [fresh i] at session

private theorem hasStored_of_record {objects : String → Option Bytes} {i j : Nat}
    {session : Session ρ} {reference : String}
    (stored : HasStored parties { contest.record i session with objects } j reference) :
    (j = i ∧ session.verdict = some .stored ∧ ∃ scene arguments middle,
        session.begun = some scene ∧ (parties i).Puts scene reference arguments middle) ∨
      (j ≠ i ∧ HasStored parties contest j reference) := by
  obtain ⟨scene, ended, arguments, middle, found, puts⟩ := stored
  by_cases same : j = i
  · subst same
    simp only [record, Function.update_self] at found
    subst found
    exact .inl ⟨rfl, rfl, scene, arguments, middle, rfl, puts⟩
  · simp only [record, Function.update_of_ne same] at found
    exact .inr ⟨same, scene, ended, arguments, middle, found, puts⟩

/-- No step takes an object away, or puts another one in its place. -/
theorem Step.keeps (step : Step parties contest later) {key : String} {bytes : Bytes}
    (present : contest.objects key = some bytes) : later.objects key = some bytes := by
  cases step with
  | begins => exact present
  | ends => exact present
  | @lands i _ _ _ reference _ _ _ waiting puts applied =>
    rcases Party.apply_puts puts applied with ⟨-, rfl⟩ | ⟨-, vacant, rfl⟩
    · exact present
    · have other : key ≠ reference := by
        rintro rfl
        simp [vacant] at present
      exact (Function.update_of_ne other _ _).trans present

/-- What a step stores, it stores where nothing was, and for one upload. -/
theorem Step.stores (step : Step parties contest later) {j : Nat} {name : String}
    (stored : HasStored parties later j name) :
    HasStored parties contest j name ∨
      (contest.objects name = none ∧ later.objects name = some (parties j).payload ∧
        ∀ k, HasStored parties later k name → HasStored parties contest k name ∨ k = j) := by
  cases step with
  | begins i scene idle =>
    rcases hasStored_of_record stored with ⟨-, ⟨⟩, -⟩ | ⟨-, before⟩
    exact .inl before
  | @ends i scene verdict running reports =>
    rcases hasStored_of_record stored with
      ⟨rfl, told, began, arguments, middle, ⟨⟩, puts⟩ | ⟨-, before⟩
    · simp only at told
      subst told
      exact .inl ⟨_, _, arguments, middle, running, puts⟩
    · exact .inl before
  | @lands i scene middle ended reference arguments verdict objects waiting puts applied =>
    rcases hasStored_of_record stored with ⟨rfl, told, began, _, _, ⟨⟩, again⟩ | ⟨-, before⟩
    · obtain ⟨rfl, -, -⟩ := Party.puts_unique puts again
      rcases Party.apply_puts puts applied with ⟨rfl, -⟩ | ⟨-, vacant, rfl⟩
      · cases told
      · refine .inr ⟨vacant, Function.update_self .., ?_⟩
        intro k stored
        rcases hasStored_of_record stored with ⟨same, -⟩ | ⟨-, before⟩
        · exact .inr same
        · exact .inl before
    · exact .inl before

/-- What a step makes of an upload, if it is about that one. -/
theorem Step.session (step : Step parties contest later) (j : Nat) :
    later.session j = contest.session j ∨
      (∃ scene, later.session j = ⟨some scene, none, none⟩) ∨
      (∃ scene ended verdict reference arguments middle,
        contest.session j = ⟨some scene, none, ended⟩ ∧
        (parties j).Puts scene reference arguments middle ∧
        later.session j = ⟨some scene, some verdict, ended⟩) ∨
      ∃ scene verdict, contest.session j = ⟨some scene, verdict, none⟩ ∧
        (parties j).Reports scene verdict ∧
        later.session j = ⟨some scene, verdict, some verdict⟩ := by
  have elsewhere : ∀ {i session}, j ≠ i →
      (contest.record i session).session j = contest.session j := by
    intro i session other
    simp [record, other]
  have here : ∀ {session}, (contest.record j session).session j = session := by
    intro session
    simp [record]
  cases step with
  | begins i scene idle =>
    by_cases same : j = i
    · subst same
      exact .inr (.inl ⟨scene, here⟩)
    · exact .inl (elsewhere same)
  | @lands i scene middle ended reference arguments verdict objects waiting puts applied =>
    by_cases same : j = i
    · subst same
      exact .inr (.inr (.inl ⟨scene, ended, verdict, reference, arguments, middle, waiting, puts,
        here⟩))
    · exact .inl (elsewhere same)
  | @ends i scene verdict running reports =>
    by_cases same : j = i
    · subst same
      exact .inr (.inr (.inr ⟨scene, verdict, running, reports, here⟩))
    · exact .inl (elsewhere same)

/-- A step preserves soundness. -/
theorem Step.isSound (step : Step parties contest later) (sound : IsSound parties contest) :
    IsSound parties later where
  held := by
    intro i reference stored
    rcases step.stores stored with before | ⟨-, present, -⟩
    · exact step.keeps (sound.held before)
    · exact present
  once := by
    intro i j reference stored again
    rcases step.stores stored with before | ⟨vacant, -, alone⟩
    · rcases step.stores again with also | ⟨vacant, -, -⟩
      · exact sound.once before also
      · simp [sound.held before] at vacant
    · rcases alone j again with also | same
      · simp [sound.held also] at vacant
      · exact same.symm
  asked := by
    intro i scene verdict ended session
    rcases step.session i with same | ⟨_, begun⟩ |
      ⟨_, _, _, reference, arguments, middle, -, puts, landed⟩ | ⟨_, _, running, -, finished⟩
    · exact sound.asked (same.symm.trans session)
    · cases begun.symm.trans session
    · cases landed.symm.trans session
      exact ⟨reference, arguments, middle, puts⟩
    · cases finished.symm.trans session
      exact sound.asked running
  honest := by
    intro i scene verdict told session
    rcases step.session i with same | ⟨_, begun⟩ | ⟨_, _, _, _, _, _, waiting, -, landed⟩ |
      ⟨_, _, -, reports, finished⟩
    · exact sound.honest (same.symm.trans session)
    · cases begun.symm.trans session
    · cases landed.symm.trans session
      -- The put was applied after the upload had ended, so the upload was told nothing.
      obtain ⟨reports, kept⟩ := sound.honest waiting
      exact ⟨reports, fun something => absurd (kept something).symm something⟩
    · cases finished.symm.trans session
      exact ⟨reports, fun _ => rfl⟩

abbrev Reaches (parties : Nat → Party backend container ρ β) : Contest ρ → Contest ρ → Prop :=
  Relation.ReflTransGen (Step parties)

private theorem isSound_of_reaches (fresh : first.IsFresh)
    (reached : Reaches parties first contest) :
    IsSound parties contest := by
  induction reached with
  | refl => exact isSound_of_isFresh fresh
  | tail _ step sound => exact step.isSound sound

private theorem keeps_of_reaches (reached : Reaches parties contest later) {key : String}
    {bytes : Bytes} (present : contest.objects key = some bytes) :
    later.objects key = some bytes := by
  induction reached with
  | refl => exact present
  | tail _ step kept => exact step.keeps kept

/-- An upload that has returned has stored its payload under the reference that it returned. -/
theorem hasStored_of_hasEnded (sound : IsSound parties contest) {i : Nat} {returned : Option String}
    {after : Scene ρ} (ended : HasEnded parties contest i (.ok returned after)) :
    ∃ reference, returned = some reference ∧ HasStored parties contest i reference := by
  obtain ⟨scene, verdict, told, session, ran⟩ := ended
  obtain ⟨reference, arguments, middle, last, rfl, puts, gives⟩ := Party.gives_of_outcome_ok ran
  obtain ⟨reports, kept⟩ := sound.honest session
  have stored : told = some .stored := reports.stored puts gives
  have same : verdict = told := kept (by simp [stored])
  subst same
  subst stored
  exact ⟨reference, rfl, scene, _, arguments, middle, session, puts⟩

private theorem outcome_of_told (sound : IsSound parties contest) {i : Nat} {scene : Scene ρ}
    {verdict : Option Verdict}
    (session : contest.session i = ⟨some scene, verdict, some (some .rejected)⟩)
    (free : ¬ (parties i).IsCancelled scene) :
    ∃ reference fault last, (parties i).IsFor reference ∧
      backend.isRejection fault.family = true ∧
      (parties i).outcome scene =
        .error (.store ((StoreError.alreadyExists reference).withCause (.fault fault))) last := by
  obtain ⟨reports, kept⟩ := sound.honest session
  have rejected : verdict = some .rejected := kept nofun
  subst rejected
  obtain ⟨reference, arguments, middle, puts⟩ := sound.asked session
  obtain ⟨fault, last, rejection, started⟩ := reports.rejected puts rfl free
  have unhurried : last.task.pending = false := by
    by_contra pending
    exact free ⟨reference, arguments, middle, puts, .inl (by simpa [started] using pending)⟩
  exact ⟨reference, fault, last, Party.isFor_of_puts puts, rejection,
    Party.outcome_of_rejection puts rejection started unhurried⟩

/-- Objects are created where nothing is, and stay. Under each reference at most one upload
returns, and its payload is the object; one whose put was rejected says that there is an object
already, unless its caller has cancelled it. A store without conditional puts calls nobody. -/
theorem uploads_create_if_absent (parties : Nat → Party backend container ρ β)
    (fresh : first.IsFresh) (reached : Reaches parties first contest) :
    (∀ later, Reaches parties contest later → ∀ key bytes,
      contest.objects key = some bytes → later.objects key = some bytes) ∧
    (∀ i returned after, HasEnded parties contest i (.ok returned after) →
      ∃ reference, returned = some reference ∧ (parties i).IsFor reference ∧
        contest.objects reference = some (parties i).payload) ∧
    (∀ i j returned after last, HasEnded parties contest i (.ok returned after) →
      HasEnded parties contest j (.ok returned last) → i = j) ∧
    (∀ i scene verdict, contest.session i = ⟨some scene, verdict, some (some .rejected)⟩ →
      ¬ (parties i).IsCancelled scene →
      ∃ reference fault last, (parties i).IsFor reference ∧
        backend.isRejection fault.family = true ∧
        (parties i).outcome scene =
          .error (.store ((StoreError.alreadyExists reference).withCause (.fault fault))) last) ∧
    (∀ i scene, (parties i).options.supportsConditionalPut = false →
      (∀ reference arguments middle, ¬ (parties i).Puts scene reference arguments middle) ∧
      (parties i).outcome scene =
        match (parties i).upload.checked (scene.isCancelled (parties i).upload.signal) with
        | .error failure => .error failure scene
        | .ok _ => .error (.store .conditionalPutNotSupported) scene) := by
  have sound := isSound_of_reaches fresh reached
  refine ⟨?_, ?_, ?_, ?_, ?_⟩
  · intro later onwards key bytes present
    exact keeps_of_reaches onwards present
  · intro i returned after ended
    obtain ⟨reference, rfl, stored⟩ := hasStored_of_hasEnded sound ended
    have held := sound.held stored
    obtain ⟨_, _, _, _, -, puts⟩ := stored
    exact ⟨reference, rfl, Party.isFor_of_puts puts, held⟩
  · intro i j returned after last ended also
    obtain ⟨reference, rfl, stored⟩ := hasStored_of_hasEnded sound ended
    obtain ⟨_, ⟨⟩, again⟩ := hasStored_of_hasEnded sound also
    exact sound.once stored again
  · intro i scene verdict session free
    exact outcome_of_told sound session free
  · intro i scene unsupported
    refine ⟨?_, (parties i).outcome_of_unsupported unsupported scene⟩
    intro reference arguments middle puts
    have conditional := Party.isConditional_of_puts puts
    simp [CloudStore.isConditional, Party.store, unsupported] at conditional

/-- A client whose puts all end in one answer. -/
def answering (answer : Except Failure Unit) : Client Unit Unit where
  acquire := pure ()
  put _ _ := ⟨fun scene => (.ended answer, scene)⟩
  get _ _ := ⟨fun scene => (.ended answer, scene)⟩
  delete _ _ := ⟨fun scene => (.ended answer, scene)⟩
  read _ := ⟨fun scene => (.ended (.ok []), scene)⟩
  close := pure ()
  pieces _ := 0

/-- An upload under one key, whose customization tries to get rid of the condition. -/
def rival (payload : Bytes) (answer : Except Failure Unit) : Party .objects "b" Unit Unit where
  client := answering answer
  options := ⟨"b", none, false, false, true, none,
    some fun request => pure (request.apply (.withoutParam "IfNoneMatch"))⟩
  upload := ⟨.ofBytes payload, some "k", none, none, none⟩
  shared := rfl
  careful := rfl

def rivals : Nat → Party .objects "b" Unit Unit
  | 0 => rival [1] (.error (.fault (.ofResponse (.bare "PutObject" "PreconditionFailed") (some 412))))
  | _ => rival [2] (.ok ())

def openContest : Contest Unit :=
  ⟨fun _ => none, fun _ => ⟨none, none, none⟩⟩

/-- The second of two uploads puts first. -/
theorem rivals_create_if_absent :
    ∃ contest, openContest.IsFresh ∧ Reaches rivals openContest contest ∧
      contest.objects "k" = some [2] ∧
      HasEnded rivals contest 1 (.ok (some "k") (.bare ())) ∧
      ∃ fault last, HasEnded rivals contest 0
        (.error (.store ((StoreError.alreadyExists "k").withCause (.fault fault))) last) := by
  have fresh : openContest.IsFresh := fun _ => rfl
  have second : (rivals 1).Reports (.bare ()) (some .stored) := ⟨fun _ _ => rfl, nofun⟩
  have first : (rivals 0).Reports (.bare ()) (some .rejected) := by
    constructor
    · rintro _ _ _ _ - (⟨⟨⟩⟩ | ⟨_, _, _, ⟨⟩, -⟩)
    · intro _ _ _ _ _ _
      exact ⟨_, _, rfl, rfl⟩
  obtain ⟨contest, reached, won, lost⟩ : ∃ contest, Reaches rivals openContest contest ∧
      contest.session 1 = ⟨some (.bare ()), some .stored, some (some .stored)⟩ ∧
      contest.session 0 = ⟨some (.bare ()), some .rejected, some (some .rejected)⟩ := by
    refine ⟨_, Relation.ReflTransGen.refl
      |>.tail (.begins 0 (.bare ()) rfl)
      |>.tail (.begins 1 (.bare ()) rfl)
      |>.tail (.lands (i := 1) rfl ⟨_, rfl, rfl⟩ rfl)
      |>.tail (.lands (i := 0) rfl ⟨_, rfl, rfl⟩ rfl)
      |>.tail (.ends (i := 1) rfl second)
      |>.tail (.ends (i := 0) rfl first), rfl, rfl⟩
  obtain ⟨-, returns, -, rejections, -⟩ := uploads_create_if_absent rivals fresh reached
  have returned : HasEnded rivals contest 1 (.ok (some "k") (.bare ())) :=
    ⟨_, _, _, won, rfl⟩
  have free : ¬ (rivals 0).IsCancelled (.bare ()) := by
    rintro ⟨_, _, _, ⟨_, ⟨⟩, ⟨⟩⟩, ⟨⟨⟩⟩ | ⟨⟨⟩⟩⟩
  obtain ⟨_, ⟨⟩, -, present⟩ := returns 1 _ _ returned
  obtain ⟨_, fault, last, ⟨_, ⟨⟩, rfl⟩, -, raised⟩ := rejections 0 _ _ lost free
  exact ⟨contest, fresh, reached, present, returned, fault, last, _, _, _, lost, raised⟩

def unreadable : Party .objects "b" Unit Unit where
  client := answering (.ok ())
  options := ⟨"b", none, false, false, false, none, none⟩
  upload := ⟨⟨.unreadable, [], 0⟩, some "k", none, none, none⟩
  shared := rfl
  careful := rfl

def forbidden : Fault := .ofResponse (.bare "PutObject" "AccessDenied") (some 412)

/-- A store without conditional puts looks at the payload first, and a store with them looks at the
code of a rejection before its status. -/
theorem earlier_checks_win :
    unreadable.options.supportsConditionalPut = false ∧
      unreadable.outcome (.bare ()) = .error (.misuse .unreadablePayload) (.bare ()) ∧
      (∀ after, unreadable.outcome (.bare ()) ≠
        .error (.store .conditionalPutNotSupported) after) ∧
      ∀ after, (rival [1] (.error (.fault forbidden))).outcome (.bare ()) ≠
        .error (.store ((StoreError.alreadyExists "k").withCause (.fault forbidden))) after := by
  refine ⟨rfl, rfl, ?_, ?_⟩
  · rintro after ⟨⟩
  · rintro after ⟨⟩

end Contest
end ClaimCheck
