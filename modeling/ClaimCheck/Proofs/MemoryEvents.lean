import ClaimCheck.Proofs.Identifiers
import ClaimCheck.Proofs.MemoryOperations
import ClaimCheck.Proofs.StreamDelivery

/-!
What can happen to a store in memory: operations, and changes around it. Every event is one of a few
effects, which say what it answers and what becomes of the entries.
-/
namespace ClaimCheck

namespace MemoryStore

/-- What may happen next: an operation, or anything around the store that it depends on. -/
inductive Step
  | upload (upload : Upload)
  | download (reference : Option String) (signal : Option Signal)
  | delete (reference : Option String) (signal : Option Signal)
  | meanwhile (clock : Moment) (raised : List Signal) (ids : IdSource)

inductive Answer
  | reference (reference : Option String)
  | stream (stream : ByteStream)
  | done

def Step.action : Step → Action MemoryStore Answer
  | .upload given => Answer.reference <$> MemoryStore.upload given
  | .download reference signal => Answer.stream <$> MemoryStore.download reference signal
  | .delete reference signal => (fun _ => .done) <$> MemoryStore.delete reference signal
  | .meanwhile clock raised ids => fun scene =>
    .ok .done { scene with raised, ids, rest := { scene.rest with clock } }

/-- A step that was taken, with what it was taken in, gave and left. -/
structure Event where
  step : Step
  before : Scene MemoryStore
  outcome : Except Failure Answer
  after : Scene MemoryStore

namespace Event

def of (step : Step) (scene : Scene MemoryStore) : Event :=
  match step.action scene with
  | .ok answer after => ⟨step, scene, .ok answer, after⟩
  | .error failure after => ⟨step, scene, .error failure, after⟩

/-- What the clock shows to an event. -/
def reading (event : Event) : Moment :=
  event.before.rest.clock

/-- The reference that an upload returned. -/
def handedOut? (event : Event) : Option String :=
  match event.outcome with
  | .ok (.reference reference) => reference
  | _ => none

/-- The identifier in the reference that an upload returned. -/
def identifier? (event : Event) : Option String :=
  event.handedOut?.map fun _ => event.before.ids.next.1

def Stores (event : Event) (upload : Upload) (reference : String) : Prop :=
  event.step = .upload upload ∧ event.handedOut? = some reference

/-- The reference that is named past the checks, in normal form. -/
def named? (event : Event) (given : Option String) (signal : Option Signal) : Option String :=
  if event.before.isCancelled signal then none else (Reference.accepted given).toOption

/-- The reference of a download past its checks. -/
def opening? (event : Event) : Option String :=
  match event.step with
  | .download given signal => event.named? given signal
  | _ => none

/-- The reference of a deletion past its checks. -/
def deleting? (event : Event) : Option String :=
  match event.step with
  | .delete given signal => event.named? given signal
  | _ => none

/-- A download that finds its entry at or past the time of its expiry. -/
def FindsExpired (event : Event) (reference : String) : Prop :=
  event.opening? = some reference ∧ ∃ entry, event.before.rest.entries.get? reference = some entry ∧
    event.reading.hasReached entry.expires = true

/-- An event after which nothing is under the reference. -/
def Ends (event : Event) (reference : String) : Prop :=
  event.deleting? = some reference ∨ event.FindsExpired reference

/-- A download that gives a stream of the bytes. -/
def Delivers (event : Event) (bytes : Bytes) : Prop :=
  ∃ stream, event.outcome = .ok (.stream stream) ∧ stream.Reads bytes

/-- A download that reports that there is nothing under the reference, in whatever words. -/
def Misses (event : Event) (reference : String) : Prop :=
  ∃ message, event.outcome = .error (.store (.notFound reference message))

private theorem deleting?_of_opening? {event : Event} {reference : String}
    (opens : event.opening? = some reference) : event.deleting? = none := by
  cases step : event.step <;> simp_all [opening?, deleting?]

end Event

open Event

/-- All that one event can be. -/
inductive Effect (event : Event) : Prop
  | stored (upload : Upload) (key : String)
      (step : event.step = .upload upload)
      (outcome : event.outcome = .ok (.reference (referenceFor key event.before)))
      (rest : event.after.rest =
        event.before.rest.put (referenceFor key event.before)
          ⟨upload.source.remaining, upload.expires?⟩)
  | opened (reference : String) (entry : Entry) (opens : event.opening? = some reference)
      (found : event.before.rest.entries.get? reference = some entry)
      (early : event.reading.hasReached entry.expires = false)
      (outcome : event.outcome = .ok (.stream (.ofBytes entry.data)))
      (rest : event.after.rest = event.before.rest)
  | missed (reference : String) (opens : event.opening? = some reference)
      (absent : event.before.rest.entries.get? reference = none)
      (outcome : event.outcome = .error (.store (.notFound reference)))
      (rest : event.after.rest = event.before.rest)
  | overdue (reference : String) (finds : event.FindsExpired reference)
      (outcome : event.outcome = .error (expired reference))
      (rest : event.after.rest = event.before.rest.drop reference)
  | deleted (reference : String) (deletes : event.deleting? = some reference)
      (outcome : event.outcome = .ok .done)
      (rest : event.after.rest = event.before.rest.drop reference)
  | refused (failure : Failure) (opens : event.opening? = none)
      (deletes : event.deleting? = none)
      (outcome : event.outcome = .error failure)
      (rest : event.after.rest = event.before.rest)
  | passed (opens : event.opening? = none)
      (deletes : event.deleting? = none)
      (outcome : event.outcome = .ok .done)
      (entries : event.after.rest.entries = event.before.rest.entries)

/-- An upload past its checks, with a time of expiry that can be converted. -/
theorem of_accepted {upload : Upload} {scene : Scene MemoryStore} {key : String}
    {expires : Option Instant}
    (accepted : accepts upload (scene.isCancelled upload.signal) = .ok key)
    (due : upload.expiry = .ok expires) :
    Event.of (.upload upload) scene =
      ⟨.upload upload, scene, .ok (.reference (referenceFor key scene)),
        scene.drawn.withRest
          (scene.rest.put (referenceFor key scene) ⟨upload.source.remaining, expires⟩)⟩ := by
  simp only [Event.of, Step.action, Action.map_run, upload_run, accepted, store?, due]

private theorem effect_upload (upload : Upload) (scene : Scene MemoryStore) :
    Effect (.of (.upload upload) scene) := by
  cases accepted : accepts upload (scene.isCancelled upload.signal) with
  | error failure =>
    simp only [Event.of, Step.action, Action.map_run, upload_run, accepted]
    exact .refused failure rfl rfl rfl rfl
  | ok key =>
    cases due : upload.expiry with
    | error failure =>
      simp only [Event.of, Step.action, Action.map_run, upload_run, accepted, store?, due]
      exact .refused failure rfl rfl rfl rfl
    | ok expires =>
      rw [of_accepted accepted due, ← Upload.expires?_of_expiry due]
      exact .stored upload key rfl rfl rfl

private theorem effect_download (given : Option String) (signal : Option Signal)
    (scene : Scene MemoryStore) (readable : scene.rest.clock.instant?.isSome) :
    Effect (.of (.download given signal) scene) := by
  cases accepted : Reference.accepted given with
  | error failure =>
    simp only [Event.of, Step.action, Action.map_run, download_run, accepted]
    exact .refused failure (by simp [opening?, named?, accepted, Except.toOption]) rfl rfl rfl
  | ok reference =>
    cases raised : scene.isCancelled signal with
    | true =>
      simp only [Event.of, Step.action, Action.map_run, download_run, accepted, raised, if_true]
      exact .refused _ (by simp [opening?, named?, raised]) rfl rfl rfl
    | false =>
      have opens : ∀ outcome after,
          opening? ⟨.download given signal, scene, outcome, after⟩ = some reference := by
        simp [opening?, named?, raised, accepted, Except.toOption]
      simp only [Event.of, Step.action, Action.map_run, download_run, accepted, raised,
        Bool.false_eq_true, if_false, open?]
      cases found : scene.rest.entries.get? reference with
      | none => exact .missed reference (opens _ _) found rfl rfl
      | some entry =>
        simp only [readAt_of_readable entry readable]
        cases late : scene.rest.clock.hasReached entry.expires with
        | false => exact .opened reference entry (opens _ _) found late rfl rfl
        | true => exact .overdue reference ⟨opens _ _, entry, found, late⟩ rfl rfl

private theorem effect_delete (given : Option String) (signal : Option Signal)
    (scene : Scene MemoryStore) : Effect (.of (.delete given signal) scene) := by
  cases accepted : Reference.accepted given with
  | error failure =>
    simp only [Event.of, Step.action, Action.map_run, delete_run, accepted]
    exact .refused failure rfl (by simp [deleting?, named?, accepted, Except.toOption]) rfl rfl
  | ok reference =>
    cases raised : scene.isCancelled signal with
    | true =>
      simp only [Event.of, Step.action, Action.map_run, delete_run, accepted, raised, if_true]
      exact .refused _ rfl (by simp [deleting?, named?, raised]) rfl rfl
    | false =>
      simp only [Event.of, Step.action, Action.map_run, delete_run, accepted, raised,
        Bool.false_eq_true, if_false]
      refine .deleted reference ?_ rfl rfl
      simp [deleting?, named?, raised, accepted, Except.toOption]

/-- Every event is one of these, as long as the clock can be read. -/
theorem effect_of (step : Step) (scene : Scene MemoryStore)
    (readable : scene.rest.clock.instant?.isSome) : Effect (.of step scene) := by
  cases step with
  | upload upload => exact effect_upload upload scene
  | download given signal => exact effect_download given signal scene readable
  | delete given signal => exact effect_delete given signal scene
  | meanwhile clock raised ids => exact .passed rfl rfl rfl rfl

variable {event : Event} {reference : String}

@[simp] theorem put_entries (store : MemoryStore) (name : String) (entry : Entry) :
    (store.put name entry).entries = store.entries.set name entry := rfl

@[simp] theorem drop_entries (store : MemoryStore) (name : String) :
    (store.drop name).entries = store.entries.erase name := rfl

/-- An upload that returns a reference has stored its payload there. -/
theorem Effect.of_handedOut (effect : Effect event)
    (handedOut : event.handedOut? = some reference) :
    ∃ upload key, event.step = .upload upload ∧ reference = referenceFor key event.before ∧
      event.after.rest =
        event.before.rest.put reference ⟨upload.source.remaining, upload.expires?⟩ := by
  cases effect with
  | stored upload key step outcome rest =>
    have same : referenceFor key event.before = reference := by
      simpa [handedOut?, outcome] using handedOut
    exact ⟨upload, key, step, same.symm, same ▸ rest⟩
  | opened _ _ _ _ _ outcome => simp [handedOut?, outcome] at handedOut
  | missed _ _ _ outcome => simp [handedOut?, outcome] at handedOut
  | overdue _ _ outcome => simp [handedOut?, outcome] at handedOut
  | deleted _ _ outcome => simp [handedOut?, outcome] at handedOut
  | refused _ _ _ outcome => simp [handedOut?, outcome] at handedOut
  | passed _ _ outcome => simp [handedOut?, outcome] at handedOut

/-- A download past its checks answers by what it finds. -/
theorem Effect.of_opening (effect : Effect event) (opens : event.opening? = some reference) :
    event.outcome =
      match event.before.rest.entries.get? reference with
      | none => .error (.store (.notFound reference))
      | some entry =>
        if event.reading.hasReached entry.expires then .error (expired reference)
        else .ok (.stream (.ofBytes entry.data)) := by
  cases effect with
  | stored _ _ step => simp [opening?, step] at opens
  | opened named entry own found early outcome =>
    have same : named = reference := by simpa [own] using opens
    simp [← same, found, early, outcome]
  | missed named own absent outcome =>
    have same : named = reference := by simpa [own] using opens
    simp [← same, absent, outcome]
  | overdue named finds outcome =>
    obtain ⟨own, entry, found, late⟩ := finds
    have same : named = reference := by simpa [own] using opens
    simp [← same, found, late, outcome]
  | deleted named deletes => simp [deleting?_of_opening? opens] at deletes
  | refused _ refused => simp [refused] at opens
  | passed passed => simp [passed] at opens

theorem Effect.lookup_ended (effect : Effect event) (ends : event.Ends reference) :
    event.after.rest.entries.get? reference = none := by
  cases effect with
  | stored _ _ step => simp [Event.Ends, FindsExpired, opening?, deleting?, step] at ends
  | opened _ entry opens found early =>
    have kept := deleting?_of_opening? opens
    simp_all [Event.Ends, FindsExpired]
  | missed _ opens absent =>
    have kept := deleting?_of_opening? opens
    simp_all [Event.Ends, FindsExpired]
  | overdue named finds _ rest =>
    have kept := deleting?_of_opening? finds.1
    have opens := finds.1
    simp_all [Event.Ends, FindsExpired]
  | deleted named deletes _ rest =>
    rcases ends with same | ⟨opens, -⟩
    · simp_all
    · simp [deleting?_of_opening? opens] at deletes
  | refused _ opens deletes => simp [Event.Ends, FindsExpired, opens, deletes] at ends
  | passed opens deletes => simp [Event.Ends, FindsExpired, opens, deletes] at ends

theorem Effect.lookup_kept (effect : Effect event) (other : event.handedOut? ≠ some reference)
    (spared : ¬ event.Ends reference) :
    event.after.rest.entries.get? reference = event.before.rest.entries.get? reference := by
  cases effect with
  | stored _ key _ outcome rest =>
    have different : reference ≠ referenceFor key event.before := by
      rintro rfl
      exact other (by simp [handedOut?, outcome])
    simp [rest, different]
  | opened _ _ _ _ _ _ rest => rw [rest]
  | missed _ _ _ _ rest => rw [rest]
  | overdue named finds _ rest =>
    have different : reference ≠ named := by
      rintro rfl
      exact spared (.inr finds)
    simp [rest, different]
  | deleted named deletes _ rest =>
    have different : reference ≠ named := by
      rintro rfl
      exact spared (.inl deletes)
    simp [rest, different]
  | refused _ _ _ _ rest => rw [rest]
  | passed _ _ _ entries => rw [entries]

/-- A download past its checks gives what it finds, as long as that has not expired. -/
theorem Effect.delivers_iff (effect : Effect event) (opens : event.opening? = some reference)
    {bytes : Bytes} :
    event.Delivers bytes ↔ ∃ entry, event.before.rest.entries.get? reference = some entry ∧
      event.reading.hasReached entry.expires = false ∧ entry.data = bytes := by
  have outcome := effect.of_opening opens
  cases found : event.before.rest.entries.get? reference with
  | none => simp [Event.Delivers, outcome, found]
  | some entry =>
    cases late : event.reading.hasReached entry.expires with
    | true => simp [Event.Delivers, outcome, found, late]
    | false =>
      have reads := ByteStream.reads_ofBytes entry.data
      simp only [found, late, Bool.false_eq_true, if_false] at outcome
      constructor
      · rintro ⟨stream, answer, others⟩
        rw [outcome] at answer
        cases answer
        exact ⟨entry, rfl, late, reads.unique others⟩
      · rintro ⟨other, same, -, rfl⟩
        cases same
        exact ⟨_, outcome, reads⟩

/-- Any other download past its checks misses. -/
theorem Effect.misses_or_found (effect : Effect event) (opens : event.opening? = some reference) :
    event.Misses reference ∨ ∃ entry, event.before.rest.entries.get? reference = some entry ∧
      event.reading.hasReached entry.expires = false := by
  have outcome := effect.of_opening opens
  cases found : event.before.rest.entries.get? reference with
  | none =>
    simp only [found] at outcome
    exact .inl ⟨_, outcome⟩
  | some entry =>
    cases late : event.reading.hasReached entry.expires with
    | true =>
      simp only [found, late, if_true] at outcome
      exact .inl ⟨_, outcome⟩
    | false => exact .inr ⟨entry, rfl, late⟩

/-- A failure changes nothing, except that an expired entry that was found is gone. -/
theorem Effect.failed (effect : Effect event) {failure : Failure}
    (failed : event.outcome = .error failure) :
    (event.after.rest = event.before.rest ∧ ∀ reference, ¬ event.FindsExpired reference) ∨
      ∃ reference, event.FindsExpired reference ∧
        event.after.rest = event.before.rest.drop reference := by
  cases effect with
  | stored _ _ _ outcome => simp [outcome] at failed
  | opened _ _ _ _ _ outcome => simp [outcome] at failed
  | missed reference opens absent _ rest =>
    left
    refine ⟨rest, ?_⟩
    rintro other ⟨named, entry, found, -⟩
    have same : reference = other := by simpa [opens] using named
    simp [← same, absent] at found
  | overdue reference finds _ rest => exact .inr ⟨reference, finds, rest⟩
  | deleted _ _ outcome => simp [outcome] at failed
  | refused _ opens _ _ rest =>
    left
    refine ⟨rest, ?_⟩
    rintro other ⟨named, -⟩
    simp [opens] at named
  | passed _ _ outcome => simp [outcome] at failed

end MemoryStore
end ClaimCheck
