import ClaimCheck.Proofs.Backends

/-!
Calls of cloud stores that are refused early. The checks of an operation come before all that it
does, so one that fails leaves no trace: the client is not called, the customization is not run, and
the payload is neither read nor moved.
-/
namespace ClaimCheck

/-- Whether a failure is that of the first check that fails. -/
def IsFirstFailure (checks : List (Except Failure Unit)) (failure : Failure) : Prop :=
  ∃ passed later, checks = passed ++ .error failure :: later ∧ ∀ check ∈ passed, check = .ok ()

namespace IsFirstFailure

variable {checks rest : List (Except Failure Unit)} {failure first : Failure}

@[simp] theorem nil_iff : IsFirstFailure [] failure ↔ False := by
  constructor
  · rintro ⟨passed, later, split, -⟩
    cases passed <;> cases split
  · exact False.elim

@[simp] theorem error_cons_iff :
    IsFirstFailure (.error first :: rest) failure ↔ first = failure := by
  constructor
  · rintro ⟨passed, later, split, clear⟩
    cases passed with
    | nil =>
      cases split
      rfl
    | cons other passed =>
      cases split
      cases clear _ List.mem_cons_self
  · rintro rfl
    exact ⟨[], rest, rfl, fun _ member => absurd member List.not_mem_nil⟩

@[simp] theorem ok_cons_iff {done : Unit} :
    IsFirstFailure (.ok done :: rest) failure ↔ IsFirstFailure rest failure := by
  constructor
  · rintro ⟨passed, later, split, clear⟩
    cases passed with
    | nil => cases split
    | cons other passed =>
      cases split
      exact ⟨passed, later, rfl, fun check member => clear check (.tail _ member)⟩
  · rintro ⟨passed, later, rfl, clear⟩
    refine ⟨.ok () :: passed, later, rfl, ?_⟩
    intro check member
    rcases List.mem_cons.mp member with rfl | member
    · rfl
    · exact clear check member

end IsFirstFailure

private theorem exists_isFirstFailure {checks : List (Except Failure Unit)}
    (failing : ∃ check ∈ checks, check ≠ .ok ()) : ∃ failure, IsFirstFailure checks failure := by
  induction checks with
  | nil =>
    obtain ⟨_, member, -⟩ := failing
    cases member
  | cons check rest ih =>
    cases check with
    | error failure => exact ⟨failure, IsFirstFailure.error_cons_iff.mpr rfl⟩
    | ok =>
      obtain ⟨other, member, failed⟩ := failing
      rcases List.mem_cons.mp member with rfl | member
      · exact absurd rfl failed
      · obtain ⟨failure, first⟩ := ih ⟨other, member, failed⟩
        exact ⟨failure, IsFirstFailure.ok_cons_iff.mpr first⟩

/-- The check of a signal. -/
def cancellationCheck (cancelled : Bool) : Except Failure Unit :=
  if cancelled then .error .cancelledByCaller else .ok ()

/-- The checks of a download or a deletion, in their order. -/
def Reference.checks (given : Option String) (cancelled : Bool) : List (Except Failure Unit) :=
  [(fun _ => ()) <$> accepted given, cancellationCheck cancelled]

private theorem Reference.run_of_refused {ρ α : Type} {given : Option String}
    {signal : Option Signal} {scene : Scene ρ} {failure : Failure}
    (first : IsFirstFailure (checks given (scene.isCancelled signal)) failure)
    (next : String → Action ρ α) :
    (do
      let reference ← Reference.given given
      Action.ensureNotCancelled signal
      next reference) scene = .error failure scene := by
  rw [Action.bind_run, given_run]
  cases normal : accepted given with
  | error other =>
    have same : other = failure := by simpa [checks, normal, Functor.map, Except.map] using first
    rw [same]
    rfl
  | ok name =>
    have late : IsFirstFailure [cancellationCheck (scene.isCancelled signal)] failure := by
      simpa [checks, normal, Functor.map, Except.map] using first
    cases raised : scene.isCancelled signal with
    | false => simp [raised, cancellationCheck] at late
    | true =>
      obtain rfl : Failure.cancelledByCaller = failure := by
        simpa [raised, cancellationCheck] using late
      simp [Action.bind_run, Action.ensureNotCancelled_run, raised]

namespace CloudOptions

variable {ρ : Type}

/-- The checks of an upload, in their order. Each of them is made on its own. -/
def checks (options : CloudOptions ρ) (upload : Upload) (cancelled : Bool) :
    List (Except Failure Unit) :=
  [upload.source.ensureReadable, ensureSizeHint upload.sizeHint, cancellationCheck cancelled,
    options.ensureSupported, (fun _ => ()) <$> Reference.accepted upload.key,
    (fun _ => ()) <$> options.marker upload]

/-- An upload is refused with the failure of the first check that fails. -/
theorem accepts_eq_error_iff {options : CloudOptions ρ} {upload : Upload} {cancelled : Bool}
    {failure : Failure} :
    options.accepts upload cancelled = .error failure ↔
      IsFirstFailure (options.checks upload cancelled) failure := by
  simp only [accepts, Upload.checked, checks, cancellationCheck]
  cases upload.source.ensureReadable with
  | error first => simp [bind, Except.bind]
  | ok =>
    cases ensureSizeHint upload.sizeHint with
    | error first => simp [bind, Except.bind]
    | ok =>
      cases cancelled with
      | true => simp [bind, Except.bind]
      | false =>
        cases options.ensureSupported with
        | error first => simp [bind, Except.bind]
        | ok =>
          cases Reference.accepted upload.key with
          | error first => simp [bind, Except.bind, Functor.map, Except.map]
          | ok key =>
            cases options.marker upload <;>
              simp [bind, Except.bind, Functor.map, Except.map, pure, Except.pure]

end CloudOptions

section

variable {ρ β : Type}

namespace Backend

variable (backend : Backend) (client : Client ρ β) (options : CloudOptions ρ)

def store : CloudStore ρ β :=
  ⟨backend.service, client, options⟩

variable {backend client options} {upload : Upload} {scene : Scene ρ} {failure : Failure}

private theorem uploadBy_of_refused (take : Source.Step → Action ρ Unit)
    (refused : options.accepts upload (scene.isCancelled upload.signal) = .error failure) :
    (backend.store client options).uploadBy take upload scene = .error failure scene := by
  have accepted : (backend.store client options).accept upload scene = .error failure scene := by
    rw [CloudStore.accept_run]
    exact Action.ofExcept_eq_error.mpr ⟨refused, rfl⟩
  rw [CloudStore.uploadBy, Action.bind_of_error accepted]

variable {given : Option String} {signal : Option Signal}

private theorem download_of_refused
    (first : IsFirstFailure (Reference.checks given (scene.isCancelled signal)) failure) :
    (backend.store client options).download given signal scene = .error failure scene :=
  Reference.run_of_refused first _

private theorem delete_of_refused
    (first : IsFirstFailure (Reference.checks given (scene.isCancelled signal)) failure) :
    (backend.store client options).delete given signal scene = .error failure scene :=
  Reference.run_of_refused first _

variable (backend client options scene)

/-- An operation one of whose checks fails raises the failure of the first one, and does nothing
else: whatever a call of the client, the customization, or a step on the payload does to a scene,
the scene is left as it was. -/
theorem refused_without_trace (take : Source.Step → Action ρ Unit) :
    (∀ upload : Upload, (backend.store client options).uploadBy (fun _ => pure ()) upload =
      (backend.store client options).upload upload) ∧
    (∀ upload : Upload,
      (∃ check ∈ options.checks upload (scene.isCancelled upload.signal), check ≠ .ok ()) →
      ∃ failure,
        IsFirstFailure (options.checks upload (scene.isCancelled upload.signal)) failure ∧
        (backend.store client options).upload upload scene = .error failure scene ∧
        (backend.store client options).uploadBy take upload scene = .error failure scene) ∧
    (∀ given signal,
      (∃ check ∈ Reference.checks given (scene.isCancelled signal), check ≠ .ok ()) →
      ∃ failure, IsFirstFailure (Reference.checks given (scene.isCancelled signal)) failure ∧
        (backend.store client options).download given signal scene = .error failure scene ∧
        (backend.store client options).delete given signal scene = .error failure scene) := by
  refine ⟨fun _ => rfl, ?_, ?_⟩
  · intro upload failing
    obtain ⟨failure, first⟩ := exists_isFirstFailure failing
    have refused := CloudOptions.accepts_eq_error_iff.mpr first
    exact ⟨failure, first, uploadBy_of_refused _ refused, uploadBy_of_refused take refused⟩
  · intro given signal failing
    obtain ⟨failure, first⟩ := exists_isFirstFailure failing
    exact ⟨failure, first, download_of_refused first, delete_of_refused first⟩

end Backend

end

namespace Backend

/-- One effect more. -/
def effect : Action Nat Unit :=
  Action.update (· + 1)

/-- A client whose calls count as effects. -/
def countingClient : Client Nat Unit where
  acquire := effect
  put _ _ := .ofAction effect
  get _ _ := .ofAction effect
  delete _ _ := .ofAction effect
  read _ := .ofAction do
    effect.on .second
    return []
  close := effect.on .second
  pieces _ := 0

/-- Options whose customization counts as an effect, too. -/
def countingOptions (conditional : Bool) : CloudOptions Nat :=
  ⟨"b", none, false, true, conditional, none, some fun request => do
    effect
    return request⟩

/-- An upload of a declared length below zero, under a key that is no reference, with a time of
expiry before all instants. -/
def doomedUpload : Upload :=
  ⟨.ofStream [1], some "/", some (-1), some ⟨0, some Calendar.hour, Instant.first.inRange⟩, some 0⟩

/-- Five checks of an upload fail, and nothing is counted; one that passes them has six effects. -/
theorem doomed_without_trace :
    let scene : Scene Nat := { Scene.bare 0 with raised := [0] }
    let store := objects.store countingClient (countingOptions false)
    store.uploadBy (fun _ => effect) doomedUpload scene = .error (.misuse .negativeSizeHint) scene ∧
      store.download none (some 0) scene = .error (.misuse .noReference) scene ∧
      store.delete (some "k") (some 0) scene = .error .cancelledByCaller scene ∧
      (objects.store countingClient (countingOptions true)).uploadBy (fun _ => effect)
        ⟨.ofStream [1], some "k", none, none, none⟩ (.bare 0) = .ok (some "k") (.bare 6) := by
  intro scene store
  obtain ⟨-, uploads, others⟩ := refused_without_trace .objects countingClient
    (countingOptions false) scene fun _ => effect
  obtain ⟨_, negative, -, uploaded⟩ := uploads doomedUpload ⟨_, .tail _ (.head _), nofun⟩
  obtain ⟨_, missing, downloaded, -⟩ := others none (some 0) ⟨_, .head _, nofun⟩
  obtain ⟨_, late, -, deleted⟩ := others (some "k") (some 0) ⟨_, .tail _ (.head _), nofun⟩
  refine ⟨?_, ?_, ?_, rfl⟩
  · obtain rfl := IsFirstFailure.error_cons_iff.mp (IsFirstFailure.ok_cons_iff.mp negative)
    exact uploaded
  · obtain rfl := IsFirstFailure.error_cons_iff.mp missing
    exact downloaded
  · obtain rfl := IsFirstFailure.error_cons_iff.mp (IsFirstFailure.ok_cons_iff.mp late)
    exact deleted

end Backend
end ClaimCheck
