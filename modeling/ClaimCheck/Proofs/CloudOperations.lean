import ClaimCheck.Proofs.ClientLaws
import ClaimCheck.Proofs.MemoryOperations
import ClaimCheck.Proofs.StreamDelivery
import ClaimCheck.Proofs.UploadChecks

/-!
What each operation of a store behind a client comes to, when the client keeps a map from keys to
objects. An upload that returns has stored its payload under the reference that it returns.
-/
namespace ClaimCheck.CloudStore

variable {ρ β α : Type}

/-- What an operation answers to a failure of its call. -/
def answer (store : CloudStore ρ β) (purpose : Purpose) (reference : String) (callerCancelled : Bool)
    (gone : Option α) : Failure → Except Failure α
  | .cancelled message =>
    if callerCancelled then .error (.cancelled message)
    else .error (.store
      ((store.service.unavailable purpose reference).withCause (.cancelled message)))
  | .fault fault =>
    let meaning := store.service.meaning purpose store.isConditional fault
    match store.service.storeError? store.options.container purpose reference meaning, gone with
    | some error, _ => .error (.store (error.withCause (.fault fault)))
    | none, some value =>
      if meaning = .alreadyGone then .ok value else .error (meaning.escaping (.fault fault))
    | none, none => .error (meaning.escaping (.fault fault))
  | failure => .error failure

/-- The scene after a failure: an unclassified one leaves a warning. -/
def noted (store : CloudStore ρ β) (purpose : Purpose) (reference : String) (failure : Failure)
    (scene : Scene ρ) : Scene ρ :=
  match failure with
  | .fault fault =>
    if store.service.meaning purpose store.isConditional fault = .unclassified then
      { scene with
        warnings := scene.warnings ++ [store.service.warning purpose reference fault] }
    else scene
  | _ => scene

/-- A call of the client, which is acquired first. -/
def calling (store : CloudStore ρ β) (call : Call ρ α) (signal : Option Signal) : Action ρ α := do
  store.client.acquire
  call.run signal

variable {store : CloudStore ρ β} {purpose : Purpose} {reference : String} {signal : Option Signal}
  {call : Action ρ α} {gone : Option α} {scene after : Scene ρ} {value : α}

theorem attempt_run (store : CloudStore ρ β) (purpose : Purpose) (reference : String)
    (signal : Option Signal) (call : Action ρ α) (gone : Option α) (scene : Scene ρ) :
    store.attempt purpose reference signal call gone scene =
      match call scene with
      | .ok value after => .ok value after
      | .error failure after =>
        Action.ofExcept
          (store.answer purpose reference (after.callerCancelled signal) gone failure)
          (store.noted purpose reference failure after) := by
  cases first : call scene with
  | ok => simp [attempt, Action.recover, first]
  | error failure after =>
    simp only [attempt, Action.recover, first]
    cases failure with
    | cancelled message =>
      cases own : after.callerCancelled signal <;> simp [answer, noted, own]
    | fault fault =>
      generalize meant : store.service.meaning purpose store.isConditional fault = meaning
      by_cases unclassified : meaning = .unclassified
      · -- The warning comes before the error, and the error is always one of the store.
        subst unclassified
        simp [answer, noted, meant, Service.storeError?, Action.bind_run, Action.warn]
      · cases found : store.service.storeError? store.options.container purpose reference meaning with
        | some error => simp [answer, noted, meant, found, unclassified]
        | none =>
          cases gone with
          | none => simp [answer, noted, meant, found, unclassified]
          | some value =>
            by_cases missing : meaning = .alreadyGone
            · subst missing
              simp [answer, noted, meant, Service.storeError?]
            · simp [answer, noted, meant, found, unclassified, missing]
    | _ => rfl

@[simp] theorem noted_rest (failure : Failure) :
    (store.noted purpose reference failure scene).rest = scene.rest := by
  cases failure with
  | fault fault => simp only [noted]; split <;> rfl
  | _ => rfl

theorem attempt_of_ok (ran : call scene = .ok value after) :
    store.attempt purpose reference signal call gone scene = .ok value after := by
  rw [attempt_run, ran]

/-- Where nothing can be gone already, every failure of a call is raised. -/
theorem attempt_eq_ok
    (ran : store.attempt purpose reference signal call none scene = .ok value after) :
    call scene = .ok value after := by
  rw [attempt_run] at ran
  cases first : call scene with
  | ok own middle => simpa [first] using ran
  | error failure middle =>
    simp only [first] at ran
    obtain ⟨answered, -⟩ := Action.ofExcept_eq_ok.mp ran
    cases failure with
    | cancelled message =>
      simp only [answer] at answered
      split at answered <;> cases answered
    | fault fault =>
      simp only [answer] at answered
      split at answered <;> simp_all
    | _ => cases answered

/-- What an operation makes of the end of its call leaves alone what the client holds. -/
theorem attempt_rest (store : CloudStore ρ β) (purpose : Purpose) (reference : String)
    (signal : Option Signal) (call : Action ρ α) (gone : Option α) (scene : Scene ρ) :
    ((store.attempt purpose reference signal call gone).sceneAfter scene).rest =
      (call.sceneAfter scene).rest := by
  simp only [Action.sceneAfter, attempt_run]
  cases call scene with
  | ok value after => rfl
  | error failure after =>
    cases answered : store.answer purpose reference (after.callerCancelled signal) gone failure <;>
      simp [answered]

theorem request_eq_ok {upload : Upload} {marker : Option String} {request : UploadRequest}
    (ran : store.request reference upload marker scene = .ok request after) :
    ∃ customized : UploadRequest, request = customized.enforce
      ⟨store.service.required store.options.container reference store.options.overwrite
          upload.source upload.sizeHint,
        (Metadata.required store.options.metadata marker).map .text, marker,
        store.service.tagMarker⟩ := by
  simp only [CloudStore.request, requestOf, UploadRequest.build] at ran
  cases customize : store.options.customize with
  | none =>
    simp only [customize] at ran
    cases ran
    exact ⟨_, rfl⟩
  | some change =>
    simp only [customize] at ran
    obtain ⟨customized, _, -, returned⟩ := Action.bind_eq_ok.mp ran
    cases returned
    exact ⟨customized, rfl⟩

variable {reading : CallReading} {objects : ρ → String → Option Bytes} {left : β → Bytes}

/-- An upload that returns has stored its payload, whatever was changed in its request. -/
theorem upload_eq_ok {upload : Upload} {returned : Option String}
    (speaks : store.service.Speaks store.options.container reading)
    (isMap : store.client.IsMap reading objects left)
    (ran : store.upload upload scene = .ok returned after) :
    ∃ key, Reference.accepted upload.key = .ok key ∧
      returned = some (Reference.under store.path key) ∧
      objects after.rest (Reference.under store.path key) = some upload.source.remaining := by
  rw [upload_eq] at ran
  obtain ⟨⟨reference, marker⟩, _, accepted, ran⟩ := Action.bind_eq_ok.mp ran
  obtain ⟨request, _, built, ran⟩ := Action.bind_eq_ok.mp ran
  obtain ⟨_, last, tried, ran⟩ := Action.bind_eq_ok.mp ran
  obtain ⟨rfl, rfl⟩ : some reference = returned ∧ last = after := by simpa using ran
  obtain ⟨key, named, rfl⟩ := accept_eq_ok accepted
  obtain ⟨customized, rfl⟩ := request_eq_ok built
  obtain ⟨_, _, -, stored⟩ := Action.bind_eq_ok.mp (attempt_eq_ok tried)
  exact ⟨key, named, rfl, isMap.put (speaks.stored _ _ _ _ _ _ _ _) stored⟩

/-- A stream that can be read: no signal stops it, and it is not closed. -/
def IsReady (stream : CloudStream β) : Prop :=
  stream.signal = none ∧ stream.closed = false

theorem download_run (store : CloudStore ρ β) (given : Option String) (signal : Option Signal)
    (scene : Scene ρ) :
    store.download given signal scene =
      match Reference.accepted given with
      | .error failure => .error failure scene
      | .ok name =>
        if scene.isCancelled signal then .error .cancelledByCaller scene
        else
          ((fun body => ⟨body, name, signal, false⟩) <$>
            store.attempt .downloading name signal (store.calling (store.client.get name
              (store.service.downloadArguments store.options.container name)) signal) none)
            scene := by
  simp only [download, Action.bind_run, Reference.given_run, Action.ensureNotCancelled_run,
    Action.map_run, Action.pure_run, calling]
  cases Reference.accepted given with
  | error failure => rfl
  | ok name => cases raised : scene.isCancelled signal <;> simp [raised]

theorem delete_run (store : CloudStore ρ β) (given : Option String) (signal : Option Signal)
    (scene : Scene ρ) :
    store.delete given signal scene =
      match Reference.accepted given with
      | .error failure => .error failure scene
      | .ok name =>
        if scene.isCancelled signal then .error .cancelledByCaller scene
        else store.attempt .deleting name signal (store.calling (store.client.delete name
          (store.service.deleteArguments store.options.container name)) signal) (some ()) scene := by
  simp only [delete, Action.bind_run, Reference.given_run, Action.ensureNotCancelled_run, calling]
  cases Reference.accepted given with
  | error failure => rfl
  | ok name => cases raised : scene.isCancelled signal <;> simp [raised]

private theorem calling_run {middle : Scene ρ} {call : Call ρ α} {result : Except Failure α}
    (acquired : store.client.acquire scene = .ok () middle)
    (ended : call.start middle = (.ended result, after)) :
    store.calling call none scene = Action.ofExcept result after := by
  rw [calling, Action.bind_of_ok acquired, Call.await_of_ended ended]

/-- What is there is opened. -/
theorem download_held {given : Option String} {name : String} {bytes : Bytes}
    (speaks : store.service.Speaks store.options.container reading)
    (isMap : store.client.IsMap reading objects left)
    (accepted : Reference.accepted given = .ok name) (held : objects scene.rest name = some bytes) :
    ∃ stream after, store.download given none scene = .ok stream after ∧ IsReady stream ∧
      left stream.body = bytes ∧ objects after.rest = objects scene.rest := by
  obtain ⟨middle, acquired, same⟩ := isMap.acquire scene
  rw [← same] at held
  obtain ⟨body, after, started, whole, kept⟩ := isMap.get middle (speaks.downloads name) held
  refine ⟨⟨body, name, none, false⟩, after, ?_, ⟨rfl, rfl⟩, whole, kept.trans same⟩
  simp [download_run, accepted, attempt_of_ok (calling_run acquired started)]

private theorem read_run (size : Nat) (scene : Scene (CloudStream β × ρ)) {piece : Bytes}
    {after : Scene (β × ρ)} (ready : IsReady scene.rest.1)
    (started : (store.client.read (some size)).start
      (scene.withRest (scene.rest.1.body, scene.rest.2)) = (.ended (.ok piece), after)) :
    store.read size scene = .ok piece
      (after.withRest ({ scene.rest.1 with body := after.rest.1 }, after.rest.2)) := by
  have ended : ((store.client.read (some size)).on bodyPart).start scene = (.ended (.ok piece),
      after.withRest ({ scene.rest.1 with body := after.rest.1 }, after.rest.2)) := by
    simp [Call.on, bodyPart, started]
  have small : ¬ (size : Int) < 0 := by omega
  simp only [read, Action.bind_run, Action.inspect_run, id, ready.1,
    Action.ensureNotCancelled_none, small, if_false, Int.toNat_natCast, Action.recover,
    Call.await_of_ended ended, Action.ofExcept_ok]

theorem close_run (scene : Scene (CloudStream β × ρ)) {after : Scene (β × ρ)}
    (ready : IsReady scene.rest.1)
    (closed : store.client.close (scene.withRest (scene.rest.1.body, scene.rest.2)) =
      .ok () after) :
    store.close scene = .ok ()
      (after.withRest (⟨after.rest.1, scene.rest.1.reference, scene.rest.1.signal, true⟩,
        after.rest.2)) := by
  obtain ⟨now, raised, task, ids, warnings, ⟨body, reference, signal, shut⟩, state⟩ := scene
  obtain ⟨rfl, rfl⟩ : signal = none ∧ shut = false := ready
  simp only [close, Action.bind_run, Action.inspect_run, id]
  simp [Action.bind_run, Action.on, bodyPart]
  simp only [Scene.withRest] at closed ⊢
  simp [closed]

/-- What is left of a body is delivered, and the objects stay. -/
theorem reader_delivers (isMap : store.client.IsMap reading objects left)
    (held : String → Option Bytes) :
    store.reader.Delivers IsReady (fun stream => left stream.body)
      (fun scene => objects scene.rest = held) where
  read scene ready safe := by
    obtain ⟨piece, after, started, split, last, fewer, kept⟩ := isMap.read
      (scene.withRest (scene.rest.1.body, scene.rest.2)) (show 0 < StreamReader.pieceSize by decide)
    exact ⟨piece, _, read_run _ scene ready started, ⟨split, last, fewer⟩, ready, kept.trans safe⟩
  close scene ready safe := by
    obtain ⟨after, closed, kept⟩ := isMap.close (scene.withRest (scene.rest.1.body, scene.rest.2))
    exact ⟨_, close_run scene ready closed, kept.trans safe⟩

/-- What is there is fetched whole, and stays. -/
theorem fetch_held {given : Option String} {name : String} {bytes : Bytes}
    (speaks : store.service.Speaks store.options.container reading)
    (isMap : store.client.IsMap reading objects left)
    (accepted : Reference.accepted given = .ok name) (held : objects scene.rest name = some bytes) :
    ∃ after, store.toStore.fetch given none scene = .ok bytes after ∧
      objects after.rest = objects scene.rest := by
  obtain ⟨stream, middle, opened, ready, whole, same⟩ := download_held speaks isMap accepted held
  obtain ⟨after, drained, kept⟩ := StreamReader.drain_delivers (reader_delivers isMap _) stream
    middle ready same
  refine ⟨after, ?_, kept⟩
  change (store.download given none >>= fun stream => store.reader.drain.within stream) scene = _
  rw [Action.bind_of_ok opened, ← whole]
  exact drained

/-- A deletion removes the one object that it names, and succeeds if there is one. -/
theorem delete_named {given : Option String} {name : String}
    (speaks : store.service.Speaks store.options.container reading)
    (isMap : store.client.IsMap reading objects left)
    (accepted : Reference.accepted given = .ok name) (scene : Scene ρ) :
    (∀ other, objects ((store.delete given none).sceneAfter scene).rest other =
      if other = name then none else objects scene.rest other) ∧
    (objects scene.rest name ≠ none → ∃ after, store.delete given none scene = .ok () after) := by
  obtain ⟨middle, acquired, same⟩ := isMap.acquire scene
  obtain ⟨result, after, started, succeeds, removed⟩ :=
    isMap.delete middle (speaks.deletes name)
  have called := calling_run acquired started
  have attempted := store.delete_run given none scene
  simp only [accepted, Scene.isCancelled_none, Bool.false_eq_true, if_false] at attempted
  generalize store.calling _ none = call at called attempted
  constructor
  · intro other
    have own : ((store.delete given none).sceneAfter scene).rest = after.rest := by
      have tried := attempt_rest store .deleting name none call (some ()) scene
      simp only [Action.sceneAfter, called] at tried
      simp only [Action.sceneAfter, attempted, tried]
      cases result <;> rfl
    rw [own, removed, same]
  · intro present
    rw [← same] at present
    rw [succeeds present] at called
    exact ⟨after, by rw [attempted, attempt_of_ok called]⟩

end ClaimCheck.CloudStore
