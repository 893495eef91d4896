import ClaimCheck.Proofs.ErrorVocabulary
import ClaimCheck.Proofs.StreamCalls

/-!
Reading what was downloaded from a cloud service. A call on a stream keeps to the vocabulary of
stores, unless its last read ends in an answer of the service or in a cancellation that nobody asked
for: these pass through as they are.
-/
namespace ClaimCheck

/-- Answers of an object service, whether their status can be read or not. -/
def Fault.Family.isAnswer : Fault.Family → Bool
  | .objectResponse _ _ | .objectUnread _ _ => true
  | _ => false

/-- Whether a connection failed, or a body ended before its time. -/
def Fault.Family.breaksOff (family : Fault.Family) : Bool :=
  family.isTransport || family == .objectTruncated

namespace Backend

/-- What the reads of a body may end in, if they do not return. -/
def raisesInReading (backend : Backend) : Cause → Bool
  | .fault fault =>
    backend.isNative fault.family || (backend == .objects && fault.family.isAnswer)
  | .cancelled _ => true

variable {backend : Backend} {conditional : Bool} {fault : Fault}

private theorem isMapped_reading (conditional : Bool)
    (native : backend.raisesInReading (.fault fault) = true)
    (own : fault.family.isAnswer = false) :
    (backend.service.meaning .reading conditional fault).isMapped = true := by
  cases backend <;> cases family : fault.family <;>
    simp_all [raisesInReading, isNative, Fault.Family.isAnswer, service, Bucket.service,
      Bucket.meaning, Container.service, Container.meaning, Meaning.isMapped]

private theorem reading_of_isAnswer (answered : fault.family.isAnswer = true) :
    backend.service.meaning .reading conditional fault = .foreign := by
  cases backend <;> cases family : fault.family <;>
    simp_all [Fault.Family.isAnswer, service, Bucket.service, Bucket.meaning, Container.service,
      Container.meaning]

private theorem reading_of_breaksOff (native : backend.raisesInReading (.fault fault) = true)
    (broken : fault.family.breaksOff = true) :
    backend.service.meaning .reading conditional fault = .unavailable := by
  cases backend <;> cases family : fault.family <;>
    simp_all [raisesInReading, isNative, Fault.Family.isAnswer, Fault.Family.isTransport,
      Fault.Family.breaksOff, service, Bucket.service, Bucket.meaning, Container.service,
      Container.meaning]

end Backend

private theorem Ends.map_iff {ρ α γ δ : Type} {purpose : Purpose} {reference : String}
    {signal : Option Signal} {called : EStateM.Result Failure (Scene ρ) α} {action : Action ρ γ}
    {scene : Scene ρ} (change : γ → δ) :
    Ends purpose reference signal called ((change <$> action) scene) ↔
      Ends purpose reference signal called (action scene) := by
  constructor
  · intro ends
    rw [Action.map_run] at ends
    cases ran : action scene with
    | ok value after =>
      simp only [ran] at ends
      cases ends with
      | returned ran => exact .returned ran
      | gone ran deleting absent => exact .gone ran deleting absent
    | error failure after =>
      simp only [ran] at ends
      cases ends with
      | failed raised reports unasked => exact .failed raised reports unasked
      | cancelled raised asked => exact .cancelled raised asked
  · exact Ends.map change

namespace CloudStore

variable {ρ β : Type}

private theorem lawful_bodyPart : (bodyPart : Part (CloudStream β × ρ) (β × ρ)).Lawful :=
  ⟨fun _ _ => rfl, fun _ => rfl, fun _ _ _ => rfl⟩

/-- What a read asks of the body. -/
def bodyCall (store : CloudStore ρ β) (size : Int) : Call (CloudStream β × ρ) Bytes :=
  (store.client.read (if size < 0 then none else some size.toNat)).on bodyPart

/-- A read, with its failures as they are raised. -/
def readRaw (store : CloudStore ρ β) (size : Int) : Action (CloudStream β × ρ) Bytes := do
  let (stream, _) ← Action.inspect id
  Action.ensureNotCancelled stream.signal
  (store.bodyCall size).run stream.signal

/-- What a read makes of a failure. -/
def readFailure (store : CloudStore ρ β) (reference : String) (failure : Failure) : Failure :=
  match failure with
  | .fault fault =>
    let meaning := store.service.meaning .reading store.isConditional fault
    match store.service.storeError? store.options.container .reading reference meaning with
    | some error => .store (error.withCause (.fault fault))
    | none => failure
  | _ => failure

theorem readRaw_run (store : CloudStore ρ β) (size : Int) (scene : Scene (CloudStream β × ρ)) :
    store.readRaw size scene =
      if scene.isCancelled scene.rest.1.signal then .error .cancelledByCaller scene
      else (store.bodyCall size).run scene.rest.1.signal scene := by
  simp only [readRaw, Action.bind_run, Action.inspect_run, id, Action.ensureNotCancelled_run]
  by_cases raised : scene.isCancelled scene.rest.1.signal <;> simp [raised]

theorem read_eq (store : CloudStore ρ β) (size : Int) (scene : Scene (CloudStream β × ρ)) :
    store.read size scene =
      match store.readRaw size scene with
      | .ok piece after => .ok piece after
      | .error failure after =>
        .error (store.readFailure scene.rest.1.reference failure) after := by
  simp only [readRaw_run, CloudStore.read, Action.bind_run, Action.inspect_run, id,
    Action.ensureNotCancelled_run]
  by_cases raised : scene.isCancelled scene.rest.1.signal
  · simp [raised, readFailure, Failure.cancelledByCaller]
  · simp only [raised, Bool.false_eq_true, if_false, Action.recover, bodyCall]
    cases ((store.client.read (if size < 0 then none else some size.toNat)).on bodyPart).run
      scene.rest.1.signal scene with
    | ok piece after => rfl
    | error failure after =>
      cases failure with
      | fault fault =>
        simp only [readFailure]
        cases store.service.storeError? store.options.container .reading scene.rest.1.reference
          (store.service.meaning .reading store.isConditional fault) <;> rfl
      | _ => rfl

/-- Whose stream it is, and by which signal its reads are cancelled. -/
def terms (stream : CloudStream β) : String × Option Signal :=
  (stream.reference, stream.signal)

private theorem read_leaves (store : CloudStore ρ β) (size : Int) :
    Action.Leaves (fun state => terms state.1) (store.read size) := by
  intro scene
  have fixed : (store.bodyCall size).Leaves (fun state => terms state.1) :=
    Call.leaves_on (fun _ _ => rfl) (store.client.read _)
  have raw : Action.Leaves (fun state => terms state.1) (store.readRaw size) := by
    apply (Action.leaves_inspect id).bind
    intro state
    apply (Action.leaves_ensureNotCancelled _).bind
    intro _
    exact fixed.run _
  have left := raw scene
  simp only [Action.sceneAfter, read_eq] at left ⊢
  cases ran : store.readRaw size scene <;> simpa only [ran] using left

/-- A client whose bodies give pieces up to a last one, or fail in the words of the client, and
leave nobody who holds the signal waiting forever. -/
structure Answers (client : Client ρ β) (backend : Backend) (signal : Option Signal) : Prop where
  raises : ∀ {size scene failure last}, (client.read size).Gives scene (.error failure) last →
    ∃ cause, backend.raisesInReading cause = true ∧ failure = cause.failure
  settles : ∀ size scene, ¬ (client.read size).IsStuck signal scene
  dwindles : ∀ {size scene piece last}, (client.read size).Gives scene (.ok piece) last →
    piece ≠ [] → client.pieces last.rest.1 < client.pieces scene.rest.1

/-- Whether a read ends in an answer of the service, or is cancelled where nobody asked for it. -/
def slips {α σ : Type} (signal : Option Signal) : EStateM.Result Failure (Scene σ) α → Bool
  | .error (.fault fault) _ => fault.family.isAnswer
  | .error (.cancelled _) after => !after.callerCancelled signal
  | _ => false

variable {backend : Backend} {client : Client ρ β} {options : CloudOptions ρ}
  {signal : Option Signal} {size : Int} {scene after : Scene (CloudStream β × ρ)}

private theorem readRaw_raises {failure : Failure} (answers : Answers client backend signal)
    (held : scene.rest.1.signal = signal)
    (ran : readRaw ⟨backend.service, client, options⟩ size scene = .error failure after) :
    ∃ cause, backend.raisesInReading cause = true ∧ failure = cause.failure := by
  rw [readRaw_run, held] at ran
  by_cases raised : scene.isCancelled signal
  · simp only [raised, if_true] at ran
    cases ran
    exact ⟨.cancelled _, rfl, rfl⟩
  · simp only [raised] at ran
    rcases Call.gives_of_run_error ran with gives | ⟨message, rfl⟩ | stuck
    · obtain ⟨inner, gives, -⟩ := Call.gives_of_on lawful_bodyPart gives
      exact answers.raises gives
    · exact ⟨.cancelled message, rfl, rfl⟩
    · exact absurd (Call.isStuck_of_on stuck) (answers.settles _ _)

private theorem reader_dwindles (answers : Answers client backend signal) :
    (reader ⟨backend.service, client, options⟩).Dwindles := by
  intro scene piece after ran more
  have raw : readRaw ⟨backend.service, client, options⟩ StreamReader.pieceSize scene =
      .ok piece after := by
    simp only [reader, read_eq] at ran
    cases raw : readRaw ⟨backend.service, client, options⟩ StreamReader.pieceSize scene with
    | ok own last => simpa only [raw] using ran
    | error failure last => simp [raw] at ran
  rw [readRaw_run] at raw
  by_cases raised : scene.isCancelled scene.rest.1.signal
  · simp [raised] at raw
  · simp only [raised] at raw
    obtain ⟨inner, gives, rfl⟩ :=
      Call.gives_of_on lawful_bodyPart (Call.gives_of_run_ok raw)
    exact answers.dwindles gives more

private theorem readFailure_reports (reference : String) {fault : Fault}
    (native : backend.raisesInReading (.fault fault) = true)
    (own : fault.family.isAnswer = false) :
    ∃ error, readFailure ⟨backend.service, client, options⟩ reference (.fault fault) =
        .store error ∧ error.Reports reference (.fault fault) := by
  have unheard (conditional : Bool) (transport : fault.family.isTransport = true) :
      backend.service.meaning .reading conditional fault = .unavailable :=
    Backend.reading_of_breaksOff native (by simp [Fault.Family.breaksOff, transport])
  let careful := isConditional ⟨backend.service, client, options⟩
  obtain ⟨error, found, reports⟩ := backend.service.storeError?_reports options.container .reading
    reference (backend.isMapped_reading careful native own) (unheard careful)
  refine ⟨error.withCause (.fault fault), ?_, reports⟩
  simp only [readFailure]
  rw [found]

private theorem readFailure_of_isAnswer (reference : String) {fault : Fault}
    (answered : fault.family.isAnswer = true) :
    readFailure ⟨backend.service, client, options⟩ reference (.fault fault) = .fault fault := by
  simp only [readFailure, Backend.reading_of_isAnswer answered]
  rfl

/-- A read keeps to the vocabulary of stores exactly if its raw end does not slip. -/
theorem read_ends_iff (answers : Answers client backend signal)
    (held : scene.rest.1.signal = signal) :
    let store : CloudStore ρ β := ⟨backend.service, client, options⟩
    Ends .reading scene.rest.1.reference signal (store.readRaw size scene)
        (store.read size scene) ↔
      slips signal (store.readRaw size scene) = false := by
  intro store
  rw [read_eq]
  cases ran : store.readRaw size scene with
  | ok piece after => exact iff_of_true (.returned rfl) rfl
  | error failure after =>
    obtain ⟨cause, native, rfl⟩ := readRaw_raises answers held ran
    cases cause with
    | cancelled message =>
      simp only [Cause.failure, readFailure, slips, Bool.not_eq_false']
      constructor
      · intro ends
        cases ends with
        | cancelled _ asked => exact asked
      · exact .cancelled rfl
    | fault fault =>
      simp only [Cause.failure, slips]
      by_cases answered : fault.family.isAnswer = true
      · rw [readFailure_of_isAnswer _ answered]
        refine iff_of_false ?_ (by simp [answered])
        rintro ⟨⟩
      · have own : fault.family.isAnswer = false := by simpa using answered
        obtain ⟨error, becomes, reports⟩ :=
          readFailure_reports scene.rest.1.reference native own
        rw [becomes]
        refine iff_of_true (.failed rfl reports ?_) own
        rintro ⟨⟩

private theorem read_of_slips (slipped : slips signal
      (readRaw ⟨backend.service, client, options⟩ size scene) = true) :
    ∃ failure last, readRaw ⟨backend.service, client, options⟩ size scene = .error failure last ∧
      CloudStore.read ⟨backend.service, client, options⟩ size scene = .error failure last := by
  rw [read_eq]
  cases ran : readRaw ⟨backend.service, client, options⟩ size scene with
  | ok piece after => simp [ran, slips] at slipped
  | error failure after =>
    refine ⟨failure, after, rfl, ?_⟩
    rw [ran] at slipped
    cases failure with
    | fault fault => simp only [readFailure_of_isAnswer _ slipped]
    | _ => rfl

/-- A body that breaks off means that its service is unavailable. -/
theorem read_of_breaksOff (answers : Answers client backend signal)
    (held : scene.rest.1.signal = signal) {fault : Fault}
    (ran : readRaw ⟨backend.service, client, options⟩ size scene = .error (.fault fault) after)
    (broken : fault.family.breaksOff = true) :
    ∃ error, CloudStore.read ⟨backend.service, client, options⟩ size scene =
      .error (.store error) after ∧ error.kind = .unavailable := by
  obtain ⟨cause, native, same⟩ := readRaw_raises answers held ran
  cases cause with
  | cancelled message => cases same
  | fault own =>
    cases same
    rw [read_eq, ran]
    simp only [readFailure, Backend.reading_of_breaksOff native broken]
    exact ⟨_, rfl, rfl⟩

/-- What a call on a stream comes to, by the raw end of its last read. -/
structure Concludes {α σ : Type} (reference : String) (signal : Option Signal)
    (raw : EStateM.Result Failure (Scene σ) Bytes) (outcome : EStateM.Result Failure (Scene σ) α) :
    Prop where
  ends : Ends .reading reference signal raw outcome ↔ slips signal raw = false
  escapes : slips signal raw = true → ∃ failure last, raw = .error failure last ∧
    outcome = .error failure last
  unavailable : ∀ fault last, raw = .error (.fault fault) last → fault.family.breaksOff = true →
    ∃ error, outcome = .error (.store error) last ∧ error.kind = .unavailable

private theorem read_concludes (answers : Answers client backend signal)
    (held : scene.rest.1.signal = signal) (bytes : Bytes) :
    let store : CloudStore ρ β := ⟨backend.service, client, options⟩
    Concludes scene.rest.1.reference signal (store.readRaw size scene)
      (((fun _ => bytes) <$> store.read size) scene) where
  ends := (Ends.map_iff _).trans (read_ends_iff answers held)
  escapes slipped := by
    obtain ⟨failure, last, raw, ran⟩ := read_of_slips slipped
    exact ⟨failure, last, raw, by rw [Action.map_run, ran]⟩
  unavailable fault last raw broken := by
    obtain ⟨error, ran, kind⟩ := read_of_breaksOff answers held raw broken
    exact ⟨error, by rw [Action.map_run, ran], kind⟩

private theorem download_terms {store : CloudStore ρ β} {given : Option String}
    {scene after : Scene ρ} {stream : CloudStream β}
    (downloaded : store.download given signal scene = .ok stream after) :
    Reference.accepted given = .ok stream.reference ∧ stream.signal = signal := by
  obtain ⟨reference, middle, accepted, opened⟩ := Action.bind_eq_ok.mp downloaded
  obtain ⟨_, _, -, opened⟩ := Action.bind_eq_ok.mp opened
  obtain ⟨body, _, -, returned⟩ := Action.bind_eq_ok.mp opened
  cases returned
  rw [Reference.given_run] at accepted
  exact ⟨(Action.ofExcept_eq_ok.mp accepted).1, rfl⟩

/-- Every call on a downloaded stream, whatever was called and happened before, returns, or raises a
store error that reports its cause under the reference of the download, or passes on a cancellation
that its caller asked for, exactly if its last read does not slip; else it raises what that read
raised. -/
theorem readings_end_iff {given : Option String} {scene after : Scene ρ} {stream : CloudStream β}
    (answers : Answers client backend signal)
    (downloaded : CloudStore.download ⟨backend.service, client, options⟩ given signal scene =
      .ok stream after)
    (turns : List (StreamReader.Turn ρ)) :
    let store : CloudStore ρ β := ⟨backend.service, client, options⟩
    Reference.accepted given = .ok stream.reference ∧
    ∀ made ∈ store.reader.history turns stream after,
      Concludes stream.reference signal
        (store.readRaw made.reading.size (store.reader.lastScene made.reading made.before))
        (store.reader.perform made.reading made.before) := by
  intro store
  obtain ⟨accepted, held⟩ := download_terms downloaded
  refine ⟨accepted, ?_⟩
  intro made member
  have kept := StreamReader.history_lastScene store.read_leaves turns stream after made member
  obtain ⟨named, signalled⟩ := Prod.mk.inj kept
  obtain ⟨bytes, same⟩ :=
    StreamReader.perform_ends (reader_dwindles answers) made.reading made.before
  rw [same, ← named]
  exact read_concludes answers (signalled.trans held) bytes

/-- A client of bodies that give a byte at a time, and break off where they should end. -/
def brittle (failure : Failure) : Client Unit Nat where
  acquire := pure ()
  put _ _ := .ofAction (pure ())
  get _ _ := .ofAction (pure 2)
  delete _ _ := .ofAction (pure ())
  read _ := ⟨fun scene =>
    match scene.rest.1 with
    | 0 => (.ended (.error failure), scene)
    | left + 1 => (.ended (.ok [7]), scene.withRest (left, ()))⟩
  close := pure ()
  pieces left := left

def brittleStore (backend : Backend) (failure : Failure) : CloudStore Unit Nat :=
  ⟨backend.service, brittle failure, ⟨"b", none, false, false, true, none, none⟩⟩

/-- A stream of such a store. -/
def brittleStream : CloudStream Nat := ⟨2, "k", none, false⟩

/-- One byte is asked for, and then all the others. -/
def byteThenRest : List (StreamReader.Turn Unit) :=
  [⟨id, .piece 1⟩, ⟨id, .whole⟩]

/-- The second of these calls, with one byte left. -/
def restCall : StreamReader.Made Unit (CloudStream Nat) :=
  ⟨.whole, (Scene.bare ()).withRest (⟨1, "k", none, false⟩, ())⟩

private theorem brittle_gives {failure : Failure} {size : Option Nat}
    {scene last : Scene (Nat × Unit)}
    {result : Except Failure Bytes}
    (gives : ((brittle failure).read size).Gives scene result last) :
    result = .error failure ∨ result = .ok [7] ∧ scene.rest.1 = last.rest.1 + 1 := by
  obtain ⟨now, raised, task, ids, warnings, left, held⟩ := scene
  cases gives with
  | ended started =>
    cases left with
    | zero =>
      cases started
      exact .inl rfl
    | succ left =>
      cases started
      exact .inr ⟨rfl, rfl⟩
  | stopped _ _ _ started => cases left <;> cases started

private theorem brittle_answers {backend : Backend} (cause : Cause)
    (native : backend.raisesInReading cause = true) (signal : Option Signal) :
    Answers (brittle cause.failure) backend signal where
  raises := by
    intro size scene failure last gives
    rcases brittle_gives gives with failed | ⟨given, -⟩
    · cases failed
      exact ⟨cause, native, rfl⟩
    · cases given
  settles := by
    rintro size ⟨now, raised, task, ids, warnings, left, held⟩ ⟨_, _, _, started, -⟩
    cases left <;> cases started
  dwindles := by
    intro size scene piece last gives more
    rcases brittle_gives gives with failed | ⟨-, fewer⟩
    · cases failed
    · exact fewer ▸ Nat.lt_succ_self last.rest.1

private theorem restCall_mem (backend : Backend) (failure : Failure) :
    restCall ∈
      (brittleStore backend failure).reader.history byteThenRest brittleStream (.bare ()) :=
  List.mem_cons_of_mem _ List.mem_cons_self

/-- The connection is lost while the rest is read: a store error reports it. -/
theorem brittle_readings_end :
    let reset : Fault := ⟨"ConnectionResetError", .system, ""⟩
    let store := brittleStore .objects (.fault reset)
    store.download (some "k") none (.bare ()) = .ok brittleStream (.bare ()) ∧
    restCall ∈ store.reader.history byteThenRest brittleStream (.bare ()) ∧
    ∃ error last, store.reader.perform .whole restCall.before = .error (.store error) last ∧
      error.Reports "k" (.fault reset) ∧ error.kind = .unavailable := by
  intro reset store
  have downloaded : store.download (some "k") none (.bare ()) = .ok brittleStream (.bare ()) := rfl
  have member := restCall_mem .objects (.fault reset)
  obtain ⟨-, concludes⟩ :=
    readings_end_iff (brittle_answers (.fault reset) rfl none) downloaded byteThenRest
  obtain ⟨ends, -, unavailable⟩ := concludes restCall member
  obtain ⟨error, ran, kind⟩ := unavailable reset _ rfl rfl
  refine ⟨downloaded, member, error, _, ran, ?_, kind⟩
  have ended := ends.mpr rfl
  rw [ran] at ended
  cases ended with
  | @failed cause _ _ _ raised reports _ =>
    cases cause with
    | cancelled message => cases raised
    | fault fault =>
      cases raised
      exact reports

/-- A cancellation that nobody asked for, and an answer of an object service, end a call on a stream
as they are. -/
theorem slipping_readings :
    let slow : Fault := .ofResponse
      ⟨"GetObject", some "SlowDown", some "Please reduce your request rate.", none⟩ (some 503)
    let made (store : CloudStore Unit Nat) :=
      store.download (some "k") none (.bare ()) = .ok brittleStream (.bare ()) ∧
      restCall ∈ store.reader.history byteThenRest brittleStream (.bare ())
    let dropped (backend : Backend) := brittleStore backend (.cancelled "")
    let refused := brittleStore .objects (.fault slow)
    (made (dropped .objects) ∧ ∃ last,
      (dropped .objects).reader.perform .whole restCall.before = .error (.cancelled "") last ∧
      last.callerCancelled none = false) ∧
    (made (dropped .blobs) ∧ ∃ last,
      (dropped .blobs).reader.perform .whole restCall.before = .error (.cancelled "") last ∧
      last.callerCancelled none = false) ∧
    made refused ∧ ∃ last,
      refused.reader.perform .whole restCall.before = .error (.fault slow) last := by
  intro slow made dropped refused
  refine ⟨?_, ?_, ?_⟩
  · exact ⟨⟨rfl, restCall_mem _ _⟩, _, rfl, rfl⟩
  · exact ⟨⟨rfl, restCall_mem _ _⟩, _, rfl, rfl⟩
  · exact ⟨⟨rfl, restCall_mem _ _⟩, _, rfl⟩

end CloudStore
end ClaimCheck
