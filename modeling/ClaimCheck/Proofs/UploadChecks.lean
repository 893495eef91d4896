import ClaimCheck.Proofs.MemoryOperations
import ClaimCheck.Store.Cloud

/-!
The checks of an upload to a cloud store, in their order. They come before anything else is done, and
touch nothing.
-/
namespace ClaimCheck

/-- The checks of an upload that come before anything is asked of its store. -/
def Upload.checked (upload : Upload) (cancelled : Bool) : Except Failure Unit := do
  upload.source.ensureReadable
  ensureSizeHint upload.sizeHint
  if cancelled then .error .cancelledByCaller else .ok ()

namespace CloudOptions

variable {ρ : Type}

/-- A store that does not overwrite must be able to ask for a condition. -/
def ensureSupported (options : CloudOptions ρ) : Except Failure Unit :=
  if options.overwrite || options.supportsConditionalPut then .ok ()
  else .error (.store .conditionalPutNotSupported)

/-- The text under which the expiry of an upload is recorded, if it is. -/
def marker (options : CloudOptions ρ) (upload : Upload) : Except Failure (Option String) :=
  match upload.expiresAt with
  | none => .ok none
  | some moment =>
    if options.emitExpiresMarker then
      match moment.instant? with
      | some instant => .ok (some instant.iso)
      | none => .error .outOfRange
    else .ok none

/-- What the checks of an upload come to: the first failure, or the reference and the marker. -/
def accepts (options : CloudOptions ρ) (upload : Upload) (cancelled : Bool) :
    Except Failure (String × Option String) := do
  upload.checked cancelled
  options.ensureSupported
  let key ← Reference.accepted upload.key
  let marker ← options.marker upload
  return (Reference.under (Reference.normalizePath options.path) key, marker)

/-- An upload that passes its checks has the reference that its key stands for, and its marker. -/
theorem accepts_eq_ok {options : CloudOptions ρ} {upload : Upload} {cancelled : Bool}
    {reference : String} {marker : Option String}
    (accepted : options.accepts upload cancelled = .ok (reference, marker)) :
    ∃ key, Reference.accepted upload.key = .ok key ∧
      reference = Reference.under (Reference.normalizePath options.path) key ∧
      options.marker upload = .ok marker := by
  simp only [accepts, exceptBind_eq_ok] at accepted
  obtain ⟨_, -, _, -, key, named, own, dated, same⟩ := accepted
  cases same
  exact ⟨key, named, rfl, dated⟩

end CloudOptions

namespace CloudStore

variable {ρ β : Type} {store : CloudStore ρ β} {scene after : Scene ρ}

/-- The checks of an upload touch nothing. -/
theorem accept_run (store : CloudStore ρ β) (upload : Upload) (scene : Scene ρ) :
    store.accept upload scene =
      Action.ofExcept (store.options.accepts upload (scene.isCancelled upload.signal)) scene := by
  simp only [accept, CloudOptions.accepts, CloudOptions.ensureSupported, Upload.checked,
    Action.bind_run, Action.ensureNotCancelled_run, Reference.given_run, path]
  cases upload.source.ensureReadable with
  | error failure => rfl
  | ok =>
    cases ensureSizeHint upload.sizeHint with
    | error failure => rfl
    | ok =>
      cases raised : scene.isCancelled upload.signal with
      | true => simp [raised, bind, Except.bind]
      | false =>
        cases supported : store.options.overwrite || store.options.supportsConditionalPut with
        | false => simp [raised, Action.ensure, bind, Except.bind]
        | true =>
          cases Reference.accepted upload.key with
          | error failure => simp [raised, Action.ensure, bind, Except.bind]
          | ok key =>
            simp only [raised, Action.ensure, if_true, Action.ofExcept_ok, Bool.false_eq_true,
              if_false, bind, Except.bind]
            cases due : upload.expiresAt with
            | none => simp only [CloudOptions.marker, due]; rfl
            | some moment =>
              cases emits : store.options.emitExpiresMarker with
              | false => simp only [CloudOptions.marker, due, emits]; rfl
              | true =>
                cases instant : moment.instant? <;>
                  simp only [CloudOptions.marker, Moment.expiresMarker, Moment.instant, due, emits,
                    instant] <;> rfl

theorem accepts_of_accept {upload : Upload} {accepted : String × Option String}
    (ran : store.accept upload scene = .ok accepted after) :
    store.options.accepts upload (scene.isCancelled upload.signal) = .ok accepted :=
  (Action.ofExcept_eq_ok.mp ((store.accept_run upload scene).symm.trans ran)).1

theorem accept_eq_ok {upload : Upload} {reference : String} {marker : Option String}
    (ran : store.accept upload scene = .ok (reference, marker) after) :
    ∃ key, Reference.accepted upload.key = .ok key ∧
      reference = Reference.under store.path key := by
  obtain ⟨key, named, same, -⟩ := CloudOptions.accepts_eq_ok (accepts_of_accept ran)
  exact ⟨key, named, same⟩

end CloudStore
end ClaimCheck
