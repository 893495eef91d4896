import ClaimCheck.Proofs.RaceTurns

/-!
The courses of a race, told by what has happened in it alone. Main statement: the race goes as the
history says, in whatever order the call ends, the signal is raised and the caller is cancelled. The
caller gets the call's own outcome or a cancellation, and leaves no call running that was not told to
end.
-/
namespace ClaimCheck.Race

variable {α : Type}

def Event.result? : Event α → Option (Except Failure α)
  | .callEnded result => some result
  | _ => none

/-- The result of the call, by the first event that ends it. -/
def endOf (history : List (Event α)) : Option (Except Failure α) :=
  history.findSome? Event.result?

/-- An event has come when what had happened before it was of the given kind. -/
def Came (event : Event α) (kind : List (Event α) → Prop) (history : List (Event α)) : Prop :=
  ∃ before, before ++ [event] <+: history ∧ kind before

/-- The watcher has had a turn after the signal was raised. -/
def IsAlerted (history : List (Event α)) : Prop :=
  Came .watcherTurn (.signalRaised ∈ ·) history

/-- What ends the wait of a caller who has told the call to end. -/
def Releases (history : List (Event α)) : Prop :=
  .callerCancelled ∈ history ∨ (endOf history).isSome

/-- What ends the wait of a caller who races a call. -/
def Decides (history : List (Event α)) : Prop :=
  .callerCancelled ∈ history ∨ (endOf history).isSome ∨ IsAlerted history

/-- The signal wins a race that is decided by the caller's next turn. -/
structure Lost (before : List (Event α)) : Prop where
  undecided : ¬ Came .callerTurn Decides before
  free : .callerCancelled ∉ before
  running : endOf before = none
  alerted : IsAlerted before

/-- How the caller stands after a history, and whether the call was told to end. The race is decided
by the first turn of the caller at which there is something to decide. -/
inductive Course : List (Event α) → Stand α → Bool → Prop
  | undecided {history} (undecided : ¬ Came .callerTurn Decides history) :
      Course history .racing false
  /-- A cancelled caller tells the call to end, and is done. -/
  | stopped {before later} (undecided : ¬ Came .callerTurn Decides before)
      (cancelled : .callerCancelled ∈ before) :
      Course (before ++ .callerTurn :: later) (.finished (.error (.cancelled ""))) true
  /-- A call that has ended when the race is decided has won, be the signal raised or not. -/
  | won {before later result} (undecided : ¬ Came .callerTurn Decides before)
      (free : .callerCancelled ∉ before) (ended : endOf before = some result) :
      Course (before ++ .callerTurn :: later) (.finished result) false
  /-- A call that has not ended is told to, and the caller waits until it has. -/
  | halting {before during} (lost : Lost before) (unreleased : ¬ Came .callerTurn Releases during) :
      Course (before ++ .callerTurn :: during) .halting true
  /-- When it has, the caller is done, whatever came of the call. -/
  | halted {before during later} (lost : Lost before)
      (unreleased : ¬ Came .callerTurn Releases during) (free : .callerCancelled ∉ during)
      (ended : (endOf during).isSome) :
      Course (before ++ .callerTurn :: (during ++ .callerTurn :: later))
        (.finished (.error .cancelledByCaller)) true
  /-- A caller who is cancelled meanwhile waits no longer. -/
  | interrupted {before during later} (lost : Lost before)
      (unreleased : ¬ Came .callerTurn Releases during) (cancelled : .callerCancelled ∈ during) :
      Course (before ++ .callerTurn :: (during ++ .callerTurn :: later))
        (.finished (.error (.cancelled ""))) true

section

variable {history before during : List (Event α)} {event : Event α} {race : Race α}

private theorem endOf_append_singleton (history : List (Event α)) (event : Event α) :
    endOf (history ++ [event]) = (endOf history).or event.result? := by
  simp [endOf, List.findSome?_append]

private theorem not_came_nil {kind : List (Event α) → Prop} : ¬ Came event kind [] := by
  rintro ⟨before, begins, -⟩
  simp at begins

private theorem came_append_singleton {kind : List (Event α) → Prop} (last : Event α) :
    Came event kind (history ++ [last]) ↔ Came event kind history ∨ last = event ∧ kind history := by
  constructor
  · rintro ⟨before, begins, held⟩
    rcases List.prefix_concat_iff.mp begins with same | earlier
    · obtain ⟨rfl, last⟩ := List.append_inj' same rfl
      exact .inr ⟨(List.singleton_inj.mp last).symm, held⟩
    · exact .inl ⟨before, earlier, held⟩
  · rintro (⟨before, begins, held⟩ | ⟨rfl, held⟩)
    · exact ⟨before, begins.trans (List.prefix_append history [last]), held⟩
    · exact ⟨history, List.prefix_rfl, held⟩

private theorem isAlerted_append_singleton (history : List (Event α)) (last : Event α) :
    IsAlerted (history ++ [last]) ↔
      IsAlerted history ∨ last = .watcherTurn ∧ .signalRaised ∈ history :=
  came_append_singleton last

private theorem after_of_not_came {kind : List (Event α) → Prop}
    {holds : List (Event α) → Race α → Prop} (start : holds [] race)
    (goes : ∀ {history race event}, holds history race → event ≠ .callerTurn →
      holds (history ++ [event]) (race.step event))
    (stays : ∀ {history race}, holds history race → ¬ kind history →
      holds (history ++ [.callerTurn]) (race.step .callerTurn))
    (never : ¬ Came .callerTurn kind history) : holds history (race.after history) := by
  -- From the end of the history, since a turn is judged by all that came before it.
  induction history using List.reverseRecOn with
  | nil => exact start
  | append_singleton history event ih =>
    rw [came_append_singleton, not_or, not_and] at never
    obtain ⟨earlier, nothing⟩ := never
    rw [after_append_singleton]
    by_cases turn : event = .callerTurn
    · subst turn
      exact stays (ih earlier) (nothing rfl)
    · exact goes (ih earlier) turn

/-- What is so of a race whose caller waits: what it will see is told by the history. -/
structure Waits (stand : Stand α) (history : List (Event α)) (race : Race α) : Prop where
  caller : race.caller = stand
  result : race.result = endOf history
  pending : race.pending = true ↔ .callerCancelled ∈ history

namespace Waits

variable {stand : Stand α}

theorem goes (waits : Waits stand history race) (other : event ≠ .callerTurn) :
    Waits stand (history ++ [event]) (race.step event) := by
  obtain ⟨caller, result, pending⟩ := waits
  have ends := endOf_append_singleton history event
  cases event with
  | callerTurn => exact absurd rfl other
  | callerCancelled => exact ⟨caller, by simp [step, ends, result, Event.result?], by simp [step]⟩
  | _ => exact ⟨caller, by simp [step, ends, result, Event.result?], by simpa [step] using pending⟩

/-- A turn in which the caller waits on. -/
theorem stays (waits : Waits stand history race) :
    Waits stand (history ++ [.callerTurn]) race where
  caller := waits.caller
  result := by simp [endOf_append_singleton, waits.result, Event.result?]
  pending := by simpa using waits.pending

private theorem pending_eq_false (waits : Waits stand history race)
    (free : .callerCancelled ∉ history) :
    race.pending = false := by
  rw [← Bool.not_eq_true, waits.pending]
  exact free

end Waits

/-- The race is open, and the watcher has seen what it could see. -/
structure Racing (history : List (Event α)) (race : Race α) : Prop
    extends Waits .racing history race where
  told : race.told = false
  raised : race.raised = true ↔ .signalRaised ∈ history
  watcher : race.watcher ≠ .dismissed
  alerted : race.watcher = .alerted ↔ IsAlerted history

namespace Racing

theorem opens : Racing [] (opening : Race α) where
  caller := rfl
  result := rfl
  pending := by simp [opening]
  told := rfl
  raised := by simp [opening]
  watcher := by simp [opening]
  alerted := iff_of_false (by simp [opening]) not_came_nil

theorem goes (racing : Racing history race) (other : event ≠ .callerTurn) :
    Racing (history ++ [event]) (race.step event) := by
  have waits := racing.toWaits.goes other
  have alerting := isAlerted_append_singleton history event
  obtain ⟨-, told, raised, watcher, alerted⟩ := racing
  cases event with
  | callerTurn => exact absurd rfl other
  | signalRaised =>
    exact ⟨waits, told, by simp [step], watcher, by simpa [step, alerting] using alerted⟩
  | watcherTurn =>
    have looked : race.watcher.look race.raised ≠ .dismissed ∧
        (race.watcher.look race.raised = .alerted ↔
          race.watcher = .alerted ∨ race.raised = true) := by
      cases stands : race.watcher with
      | watching => cases race.raised <;> simp [Watcher.look]
      | alerted => simp [Watcher.look]
      | dismissed => exact absurd stands watcher
    refine ⟨waits, told, by simpa [step] using raised, looked.1, ?_⟩
    rw [alerting, ← alerted, ← raised]
    simpa [step] using looked.2
  | _ =>
    exact ⟨waits, told, by simpa [step] using raised, watcher,
      by simpa [step, alerting] using alerted⟩

/-- Where there is nothing to decide the caller waits on. -/
theorem stays (racing : Racing history race) (nothing : ¬ Decides history) :
    Racing (history ++ [.callerTurn]) (race.step .callerTurn) := by
  obtain ⟨free, running, unseen⟩ : .callerCancelled ∉ history ∧ ¬ (endOf history).isSome ∧
      ¬ IsAlerted history := by simpa only [Decides, not_or] using nothing
  have pending := racing.pending_eq_false free
  have unended : race.result.isSome = false := by simpa [racing.result] using running
  have watching : (race.watcher == .alerted) = false := by simpa [racing.alerted] using unseen
  have same : race.step .callerTurn = race := by
    simp [step, callerTurn, racing.caller, RaceVerdict.decide, pending, unended, watching]
  rw [same]
  exact {
    toWaits := racing.toWaits.stays
    told := racing.told
    raised := by simpa using racing.raised
    watcher := racing.watcher
    alerted := by simpa [isAlerted_append_singleton] using racing.alerted }

theorem stops (racing : Racing history race) (cancelled : .callerCancelled ∈ history) :
    race.callerTurn.caller = .finished (.error (.cancelled "")) ∧ race.callerTurn.told = true := by
  have pending := racing.pending.mpr cancelled
  simp [callerTurn, racing.caller, RaceVerdict.decide, pending]

private theorem wins (racing : Racing history race) (free : .callerCancelled ∉ history)
    {result : Except Failure α} (ended : endOf history = some result) :
    race.callerTurn.caller = .finished result ∧ race.callerTurn.told = false := by
  have pending := racing.pending_eq_false free
  have own : race.result = some result := racing.result.trans ended
  simp [callerTurn, racing.caller, RaceVerdict.decide, pending, own, racing.told]

end Racing

/-- The call was told to end, and the caller waits for that; the history is what has happened since. -/
structure Halting (during : List (Event α)) (race : Race α) : Prop
    extends Waits .halting during race where
  told : race.told = true

private theorem Racing.loses (racing : Racing history race) (lost : Lost history) :
    Halting [] race.callerTurn := by
  have pending := racing.pending_eq_false lost.free
  have unended : race.result = none := racing.result.trans lost.running
  have alerted := racing.alerted.mpr lost.alerted
  have turn : race.callerTurn = { race with told := true, caller := .halting } := by
    simp [callerTurn, racing.caller, RaceVerdict.decide, pending, unended, alerted,
      Watcher.dismiss]
  rw [turn]
  exact {
    caller := rfl
    result := unended
    pending := by simp [pending]
    told := rfl }

namespace Halting

theorem goes (halting : Halting during race) (other : event ≠ .callerTurn) :
    Halting (during ++ [event]) (race.step event) where
  toWaits := halting.toWaits.goes other
  told := by
    cases event with
    | callerTurn => exact absurd rfl other
    | _ => exact halting.told

/-- The caller waits on for a call that has not ended. -/
theorem stays (halting : Halting during race) (nothing : ¬ Releases during) :
    Halting (during ++ [.callerTurn]) (race.step .callerTurn) := by
  obtain ⟨free, running⟩ : .callerCancelled ∉ during ∧ ¬ (endOf during).isSome := by
    simpa only [Releases, not_or] using nothing
  have pending := halting.pending_eq_false free
  have unended : race.result.isSome = false := by simpa [halting.result] using running
  have same : race.step .callerTurn = race := by
    simp [step, callerTurn, halting.caller, RaceVerdict.decide, pending, unended]
  rw [same]
  exact ⟨halting.toWaits.stays, halting.told⟩

private theorem interrupted (halting : Halting during race)
    (cancelled : .callerCancelled ∈ during) :
    race.callerTurn.caller = .finished (.error (.cancelled "")) ∧ race.callerTurn.told = true := by
  have pending := halting.pending.mpr cancelled
  simp [callerTurn, halting.caller, RaceVerdict.decide, pending, halting.told]

private theorem halted (halting : Halting during race) (free : .callerCancelled ∉ during)
    (ended : (endOf during).isSome) :
    race.callerTurn.caller = .finished (.error .cancelledByCaller) ∧
      race.callerTurn.told = true := by
  have pending := halting.pending_eq_false free
  have done : race.result.isSome = true := by rw [halting.result, ended]
  simp [callerTurn, halting.caller, RaceVerdict.decide, pending, done, halting.told]

end Halting

/-- As long as the caller has no turn with something to decide, the race is open. -/
theorem racing_play (undecided : ¬ Came .callerTurn Decides history) :
    Racing history (play history) :=
  after_of_not_came Racing.opens Racing.goes Racing.stays undecided

/-- As long as the caller has no turn after the call's end or its own cancellation, it waits. -/
theorem halting_play (lost : Lost before) (unreleased : ¬ Came .callerTurn Releases during) :
    Halting during (play (before ++ .callerTurn :: during)) := by
  have told := (racing_play lost.undecided).loses lost
  rw [play, after_append_turn]
  exact after_of_not_came told Halting.goes Halting.stays unreleased

/-- A race goes as its course says. -/
theorem Course.stands {stand : Stand α} {told : Bool} (course : Course history stand told) :
    (play history).caller = stand ∧ (play history).told = told := by
  cases course with
  | undecided undecided =>
    have racing := racing_play undecided
    exact ⟨racing.caller, racing.told⟩
  | stopped undecided cancelled =>
    rw [play, after_append_turn]
    exact finished_after ((racing_play undecided).stops cancelled) _
  | won undecided free ended =>
    rw [play, after_append_turn]
    exact finished_after ((racing_play undecided).wins free ended) _
  | halting lost unreleased =>
    have halting := halting_play lost unreleased
    exact ⟨halting.caller, halting.told⟩
  | halted lost unreleased free ended =>
    have halting := halting_play lost unreleased
    rw [← List.cons_append, ← List.append_assoc, play, after_append_turn]
    exact finished_after (halting.halted free ended) _
  | interrupted lost unreleased cancelled =>
    have halting := halting_play lost unreleased
    rw [← List.cons_append, ← List.append_assoc, play, after_append_turn]
    exact finished_after (halting.interrupted cancelled) _

/-- Every event leads from a course to a course. -/
theorem Course.next {stand : Stand α} {told : Bool} (course : Course history stand told)
    (event : Event α) : ∃ stand told, Course (history ++ [event]) stand told := by
  cases course with
  | undecided undecided =>
    -- Only a turn of the caller at which there is something to decide leaves this course.
    by_cases decided : event = .callerTurn ∧ Decides history
    · obtain ⟨rfl, decides⟩ := decided
      by_cases cancelled : .callerCancelled ∈ history
      · exact ⟨_, _, .stopped undecided cancelled⟩
      · cases ended : endOf history with
        | some result => exact ⟨_, _, .won undecided cancelled ended⟩
        | none =>
          have alerted : IsAlerted history := by simpa [Decides, cancelled, ended] using decides
          exact ⟨_, _, .halting ⟨undecided, cancelled, ended, alerted⟩ not_came_nil⟩
    · refine ⟨_, _, .undecided ?_⟩
      rw [came_append_singleton, not_or]
      exact ⟨undecided, decided⟩
  | stopped undecided cancelled =>
    rw [List.append_assoc, List.cons_append]
    exact ⟨_, _, .stopped undecided cancelled⟩
  | won undecided free ended =>
    rw [List.append_assoc, List.cons_append]
    exact ⟨_, _, .won undecided free ended⟩
  | @halting before during lost unreleased =>
    rw [List.append_assoc, List.cons_append]
    by_cases released : event = .callerTurn ∧ Releases during
    · obtain ⟨rfl, releases⟩ := released
      by_cases cancelled : .callerCancelled ∈ during
      · exact ⟨_, _, .interrupted lost unreleased cancelled⟩
      · exact ⟨_, _, .halted lost unreleased cancelled (releases.resolve_left cancelled)⟩
    · refine ⟨_, _, .halting lost ?_⟩
      rw [came_append_singleton, not_or]
      exact ⟨unreleased, released⟩
  | halted lost unreleased free ended =>
    rw [List.append_assoc, List.cons_append, List.append_assoc, List.cons_append]
    exact ⟨_, _, .halted lost unreleased free ended⟩
  | interrupted lost unreleased cancelled =>
    rw [List.append_assoc, List.cons_append, List.append_assoc, List.cons_append]
    exact ⟨_, _, .interrupted lost unreleased cancelled⟩

end

theorem exists_course (history : List (Event α)) : ∃ stand told, Course history stand told := by
  induction history using List.reverseRecOn with
  | nil => exact ⟨_, _, .undecided not_came_nil⟩
  | append_singleton history event ih =>
    obtain ⟨stand, told, course⟩ := ih
    exact course.next event

/-- The caller stands as the history says, and nothing else. -/
theorem stands_iff (history : List (Event α)) (stand : Stand α) (told : Bool) :
    (play history).caller = stand ∧ (play history).told = told ↔ Course history stand told := by
  constructor
  · rintro ⟨rfl, rfl⟩
    obtain ⟨stand, told, course⟩ := exists_course history
    obtain ⟨rfl, rfl⟩ := course.stands
    exact course
  · exact Course.stands

-- A call that has ended wins over a signal that the watcher has seen.
example : (play [.signalRaised, .watcherTurn, .callEnded (.ok ()), .callerTurn]).caller =
    .finished (.ok ()) := rfl

/-- In whatever order the call ends, the signal is raised and the caller is cancelled, the race goes
as its history says. The race is decided by the caller's first turn with something to decide: a caller
who is not cancelled gets the call's own outcome if the call has ended by then; else it tells the call
to end, and is cancelled when the call has. A caller whose task is cancelled while it waits is
cancelled at its next turn, with the call told to end. Once the race is decided nothing is unattended.
Running a call with a signal is such a race. -/
theorem outcomes_are_sound (history : List (Event α)) :
    (∀ stand told,
      (play history).caller = stand ∧ (play history).told = told ↔ Course history stand told) ∧
    ((play history).caller = .racing ∨ Attended (play history)) ∧
    ∀ (ρ : Type) (call : Call ρ α) (signal : Signal) (scene : Scene ρ),
      let (progress, paused) := call.start scene
      call.run (some signal) scene =
        (play (firstRound signal progress paused)).conclude progress paused :=
  ⟨stands_iff history, attended_play history, fun _ => run_eq_conclude⟩

/-- A caller who is cancelled while it waits for a call that it has told to end leaves nothing
unattended, though the call still runs. -/
theorem interrupted_halt_is_attended :
    let history : List (Event Unit) :=
      [.signalRaised, .watcherTurn, .callerTurn, .callerCancelled, .callerTurn]
    Course history (.finished (.error (.cancelled ""))) true ∧ Attended (play history) ∧
      endOf history = none := by
  intro history
  obtain ⟨stands, attended, -⟩ := outcomes_are_sound history
  refine ⟨(stands _ _).mp ⟨rfl, rfl⟩, attended.resolve_left ?_, rfl⟩
  intro racing
  cases racing

end ClaimCheck.Race
