import ClaimCheck.Cancellation
import ClaimCheck.Proofs.ActionOutcome

/-!
What running a call comes to, whoever races it. A result comes from the call itself, which ended or
was stopped by a caller who waits for it; all else is a cancellation, or a wait without an end.
-/
namespace ClaimCheck.Call

variable {ρ α : Type} {call : Call ρ α} {signal : Option Signal} {scene last : Scene ρ}

/-- A result that comes from the call itself. -/
inductive Gives (call : Call ρ α) (scene : Scene ρ) (result : Except Failure α)
    (last : Scene ρ) : Prop
  /-- The call has ended by the time that its race is decided. -/
  | ended (started : call.start scene = (.ended result, last))
  /-- The caller awaits the call, is cancelled, and tells the call to end. -/
  | stopped (stop : Action ρ α) (abandon : Scene ρ → Scene ρ) (after : Scene ρ)
      (started : call.start scene = (.waiting stop abandon, after))
      (pending : after.task.pending = true)
      (ran : stop { after with task := { after.task with pending := false } } =
        Action.ofExcept result last)

/-- A call that waits with nothing to end the wait. -/
def IsStuck (call : Call ρ α) (signal : Option Signal) (scene : Scene ρ) : Prop :=
  ∃ stop abandon after, call.start scene = (.waiting stop abandon, after) ∧
    after.task.pending = false ∧ after.isCancelled signal = false

/-- All that running a call comes to. -/
inductive RunsTo (call : Call ρ α) (signal : Option Signal) (scene last : Scene ρ) :
    EStateM.Result Failure (Scene ρ) α → Prop
  | given (result : Except Failure α) (gives : call.Gives scene result last) :
      RunsTo call signal scene last (Action.ofExcept result last)
  | cancelled (message : String) :
      RunsTo call signal scene last (.error (.cancelled message) last)
  | stuck (stuck : call.IsStuck signal scene) :
      RunsTo call signal scene last (.error .stalled last)

private theorem runsTo_await (call : Call ρ α) (scene : Scene ρ) :
    ∃ last, call.RunsTo none scene last (call.await scene) := by
  cases started : call.start scene with
  | mk progress after =>
    cases progress with
    | ended result =>
      exact ⟨after, by simpa [await, started] using RunsTo.given result (.ended started)⟩
    | selfCancelled => exact ⟨_, by simpa [await, started] using RunsTo.cancelled ""⟩
    | waiting stop abandon =>
      cases pending : after.task.pending with
      | false =>
        have stuck : call.IsStuck none scene := ⟨stop, abandon, after, started, pending, rfl⟩
        exact ⟨after, by simpa [await, started, pending] using RunsTo.stuck stuck⟩
      | true =>
        simp only [await, started, pending, if_true]
        cases ran : stop { after with task := { after.task with pending := false } } with
        | ok value last =>
          exact ⟨last, .given (.ok value) (.stopped stop abandon after started pending ran)⟩
        | error failure last =>
          exact ⟨last, .given (.error failure) (.stopped stop abandon after started pending ran)⟩

private theorem runsTo_race (call : Call ρ α) (signal : Signal) (scene : Scene ρ) :
    ∃ last, call.RunsTo (some signal) scene last (call.race signal scene) := by
  cases started : call.start scene with
  | mk progress after =>
    cases pending : after.task.pending with
    | true =>
      exact ⟨_, by simpa [race, started, RaceVerdict.decide, pending] using RunsTo.cancelled ""⟩
    | false =>
      cases progress with
      | ended result =>
        exact ⟨after, by simpa [race, started, RaceVerdict.decide, pending, Progress.hasEnded,
          Progress.outcome] using RunsTo.given result (.ended started)⟩
      | selfCancelled =>
        exact ⟨after, by simpa [race, started, RaceVerdict.decide, pending, Progress.hasEnded,
          Progress.outcome] using RunsTo.cancelled ""⟩
      | waiting stop abandon =>
        cases raised : after.isRaised signal with
        | true =>
          exact ⟨_, by simpa [race, started, RaceVerdict.decide, pending, Progress.hasEnded, raised,
            Failure.cancelledByCaller] using RunsTo.cancelled _⟩
        | false =>
          have stuck : call.IsStuck (some signal) scene :=
            ⟨stop, abandon, after, started, pending, raised⟩
          exact ⟨after, by simpa [race, started, RaceVerdict.decide, pending, Progress.hasEnded,
            raised] using RunsTo.stuck stuck⟩

/-- Running a call comes to one of these. -/
theorem runsTo_run (call : Call ρ α) (signal : Option Signal) (scene : Scene ρ) :
    ∃ last, call.RunsTo signal scene last (call.run signal scene) := by
  cases signal with
  | none => exact runsTo_await call scene
  | some signal => exact runsTo_race call signal scene

/-- A value is the call's own. -/
theorem gives_of_run_ok {value : α} (ran : call.run signal scene = .ok value last) :
    call.Gives scene (.ok value) last := by
  obtain ⟨after, comes⟩ := runsTo_run call signal scene
  generalize call.run signal scene = result at ran comes
  cases comes with
  | given own gives =>
    obtain ⟨rfl, rfl⟩ := Action.ofExcept_eq_ok.mp ran
    exact gives
  | cancelled message => cases ran
  | stuck stuck => cases ran

/-- A failure is the call's own, or a cancellation, or that of a wait without an end. -/
theorem gives_of_run_error {failure : Failure}
    (ran : call.run signal scene = .error failure last) :
    call.Gives scene (.error failure) last ∨ (∃ message, failure = .cancelled message) ∨
      call.IsStuck signal scene := by
  obtain ⟨after, comes⟩ := runsTo_run call signal scene
  generalize call.run signal scene = result at ran comes
  cases comes with
  | given own gives =>
    obtain ⟨rfl, rfl⟩ := Action.ofExcept_eq_error.mp ran
    exact .inl gives
  | cancelled message =>
    cases ran
    exact .inr (.inl ⟨message, rfl⟩)
  | stuck stuck => exact .inr (.inr stuck)

/-- A result that is there when the race is decided wins, unless the caller is cancelled. -/
theorem run_of_ended {result : Except Failure α}
    (started : call.start scene = (.ended result, last)) (free : last.task.pending = false) :
    call.run signal scene = Action.ofExcept result last := by
  cases signal with
  | none => simp [run, await, started]
  | some signal =>
    simp [run, race, started, RaceVerdict.decide, free, Progress.hasEnded, Progress.outcome]

end ClaimCheck.Call
