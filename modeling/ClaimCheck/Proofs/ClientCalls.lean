import ClaimCheck.Proofs.ActionParts
import ClaimCheck.Proofs.Backends
import ClaimCheck.Proofs.StreamCalls

/-!
The calls of a client, written down. An upload makes one put at most: once its checks are passed, its
request is finished and the client is acquired.
-/
namespace ClaimCheck

/-- A call of a client. -/
inductive ClientCall
  | acquire
  | put (key : String) (arguments : Arguments)
  | get (key : String) (arguments : Arguments)
  | delete (key : String) (arguments : Arguments)
  | read (size : Option Nat)
  | close

private theorem Call.after_update_run {ρ α : Type} (change : ρ → ρ) (call : Call ρ α)
    (signal : Option Signal) (scene : Scene ρ) :
    (call.after (.update change)).run signal scene =
      call.run signal { scene with rest := change scene.rest } := by
  cases signal <;> rfl

namespace Client

variable {ρ β : Type}

def note (call : ClientCall) : Action (List ClientCall × ρ) Unit :=
  Action.update fun state => (state.1 ++ [call], state.2)

/-- A client whose calls are written down before they are made. -/
def watched (client : Client ρ β) : Client (List ClientCall × ρ) β where
  acquire := do
    note .acquire
    client.acquire.on .second
  put key arguments := ((client.put key arguments).on .second).after (note (.put key arguments))
  get key arguments := ((client.get key arguments).on .second).after (note (.get key arguments))
  delete key arguments :=
    ((client.delete key arguments).on .second).after (note (.delete key arguments))
  read size := ((client.read size).on Part.second.beside).after ((note (.read size)).on .second)
  close := do
    (note .close).on .second
    client.close.on Part.second.beside
  pieces := client.pieces

private theorem put_watched_calls (client : Client ρ β) (key : String) (arguments : Arguments)
    (signal : Option Signal) (scene : Scene (List ClientCall × ρ)) :
    (((client.watched.put key arguments).run signal).sceneAfter scene).rest.1 =
      scene.rest.1 ++ [.put key arguments] := by
  simp only [watched, note, Action.sceneAfter, Call.after_update_run]
  exact (Call.leaves_on (fun _ _ => rfl) (client.put key arguments)).run signal
    { scene with rest := (scene.rest.1 ++ [.put key arguments], scene.rest.2) }

end Client

namespace CloudOptions

variable {ρ : Type}

/-- The same options where the calls of the client are written down. -/
def watched (options : CloudOptions ρ) : CloudOptions (List ClientCall × ρ) where
  container := options.container
  path := options.path
  overwrite := options.overwrite
  emitExpiresMarker := options.emitExpiresMarker
  supportsConditionalPut := options.supportsConditionalPut
  metadata := options.metadata
  customize := options.customize.map fun change request => (change request).on .second

end CloudOptions

namespace CloudStore

variable {ρ β : Type}

/-- The same store where the calls of its client are written down. -/
def watched (store : CloudStore ρ β) : CloudStore (List ClientCall × ρ) β :=
  ⟨store.service, store.client.watched, store.options.watched⟩

private theorem accept_watched (store : CloudStore ρ β) (upload : Upload) :
    store.watched.accept upload = (store.accept upload).on .second := by
  funext scene
  have same : store.watched.options.accepts upload = store.options.accepts upload := rfl
  rw [accept_run, same, ← Action.on_ofExcept Part.lawful_second]
  simp only [Action.on, accept_run]
  rfl

private theorem request_watched (store : CloudStore ρ β) (reference : String) (upload : Upload)
    (marker : Option String) :
    store.watched.request reference upload marker =
      (store.request reference upload marker).on .second := by
  simp only [CloudStore.request, requestOf, watched, CloudOptions.watched, UploadRequest.build]
  cases store.options.customize with
  | none => simp only [Option.map_none, Action.on_bind Part.lawful_second,
      Action.on_pure Part.lawful_second]
  | some change => simp only [Option.map_some, Action.on_bind Part.lawful_second,
      Action.on_pure Part.lawful_second]

/-- Up to its call an upload does not depend on whether calls are written down. -/
theorem opening_watched (store : CloudStore ρ β) (upload : Upload) :
    store.watched.opening upload = (store.opening upload).on .second := by
  simp only [opening, accept_watched, request_watched, Action.on_bind Part.lawful_second,
    Action.on_pure Part.lawful_second]
  rfl

/-- The calls that come to a put, which needs the client. -/
def putCalls (store : CloudStore ρ β) (reference : String) (arguments : Arguments)
    (scene : Scene ρ) : List ClientCall :=
  match store.client.acquire scene with
  | .error _ _ => [.acquire]
  | .ok _ _ => [.acquire, .put reference arguments]

private theorem calling_watched_calls (store : CloudStore ρ β) (reference : String)
    (arguments : Arguments) (signal : Option Signal) (scene : Scene (List ClientCall × ρ)) :
    ((store.watched.calling (store.watched.client.put reference arguments) signal).sceneAfter
      scene).rest.1 = scene.rest.1 ++ store.putCalls reference arguments scene.outer := by
  have acquires : store.watched.client.acquire scene =
      (store.client.acquire.on .second)
        { scene with rest := (scene.rest.1 ++ [.acquire], scene.rest.2) } := rfl
  rw [calling, Action.sceneAfter_bind, acquires, putCalls]
  have same : ({ scene with rest := (scene.rest.1 ++ [.acquire], scene.rest.2) } :
    Scene (List ClientCall × ρ)).withRest scene.rest.2 = scene.outer := rfl
  simp only [Action.on, Part.second, same]
  cases store.client.acquire scene.outer with
  | error failure after => rfl
  | ok value after =>
    refine (store.client.put_watched_calls reference arguments signal _).trans ?_
    simp

/-- The calls that an upload makes. -/
def uploadCalls (store : CloudStore ρ β) (upload : Upload) (scene : Scene ρ) : List ClientCall :=
  match store.opening upload scene with
  | .error _ _ => []
  | .ok (reference, arguments) middle => store.putCalls reference arguments middle

theorem upload_watched_calls (store : CloudStore ρ β) (upload : Upload)
    (scene : Scene (List ClientCall × ρ)) :
    ((store.watched.upload upload).sceneAfter scene).rest.1 =
      scene.rest.1 ++ store.uploadCalls upload scene.outer := by
  have opens : store.watched.opening upload scene = (store.opening upload).on .second scene := by
    rw [opening_watched]
  simp only [Action.sceneAfter, upload_run, opens, uploadCalls, Action.on]
  have same : scene.withRest (Part.second.get scene.rest) = scene.outer := rfl
  rw [same]
  cases store.opening upload scene.outer with
  | error failure after => simp [Part.second]
  | ok asked middle =>
    obtain ⟨reference, arguments⟩ := asked
    change (((fun _ => some reference) <$> store.watched.attempt .uploading reference upload.signal
      (store.watched.calling (store.watched.client.put reference arguments) upload.signal)
        none).sceneAfter (middle.withRest (scene.rest.1, middle.rest))).rest.1 = _
    rw [Action.sceneAfter_map, attempt_rest, calling_watched_calls]
    rfl

end CloudStore
end ClaimCheck
