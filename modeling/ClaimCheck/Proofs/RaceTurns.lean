import ClaimCheck.Cancellation
import ClaimCheck.Proofs.ActionOutcome
import Mathlib.Data.List.Induction

/-!
Races turn by turn. While a call is raced against a signal, the call may end, the signal may be raised
and the caller may be cancelled in any order. A watcher waits for the signal on the caller's behalf,
and the caller sees what has happened when it has its next turn. A caller that goes leaves nothing
unattended, and running a call is the race in which all happens by the first pause of the call.
-/
namespace ClaimCheck

private theorem RaceVerdict.ended_of_callWins {cancelled ended raised : Bool}
    (won : RaceVerdict.decide cancelled ended raised = .callWins) : ended = true := by
  unfold RaceVerdict.decide at won
  split at won
  · cases won
  · split at won
    · assumption
    · split at won <;> cases won

/-- How a call ends that is told to while it waits. -/
def Progress.ending : Progress ρ α → Scene ρ → Except Failure α
  | .waiting stop _, scene =>
    match stop scene with
    | .ok value _ => .ok value
    | .error failure _ => .error failure
  | progress, _ => progress.outcome

namespace Race

/-- One thing that happens during a race. -/
inductive Event (α : Type)
  | callEnded (result : Except Failure α)
  | signalRaised
  | callerCancelled
  | watcherTurn
  | callerTurn

/-- A watcher is done when it has seen the signal, or is dismissed by the caller. -/
inductive Watcher
  | watching
  | alerted
  | dismissed
  deriving DecidableEq, Repr

/-- Where the caller stands. -/
inductive Stand (α : Type)
  /-- It waits for the call or the watcher, whichever is done first. -/
  | racing
  /-- It has told the call to end, and waits until the call has. -/
  | halting
  | finished (result : Except Failure α)

namespace Watcher

/-- A turn of the watcher, who sees the signal if it is raised by then. -/
def look (raised : Bool) : Watcher → Watcher
  | .watching => if raised then .alerted else .watching
  | done => done

def dismiss : Watcher → Watcher
  | .watching => .dismissed
  | done => done

private theorem look_of_done {watcher : Watcher} (done : watcher ≠ .watching) (raised : Bool) :
    watcher.look raised = watcher := by
  cases watcher with
  | watching => exact absurd rfl done
  | alerted => rfl
  | dismissed => rfl

private theorem dismiss_of_done {watcher : Watcher} (done : watcher ≠ .watching) :
    watcher.dismiss = watcher := by
  cases watcher with
  | watching => exact absurd rfl done
  | alerted => rfl
  | dismissed => rfl

private theorem dismiss_ne_watching (watcher : Watcher) : watcher.dismiss ≠ .watching := by
  cases watcher <;> decide

end Watcher

end Race

/-- A race under way: the result of the call once it has ended, whether the call was told to end, and
whether a cancellation of the caller is yet to be noticed. -/
structure Race (α : Type) where
  result : Option (Except Failure α)
  told : Bool
  raised : Bool
  watcher : Race.Watcher
  pending : Bool
  caller : Race.Stand α

namespace Race

section

variable {α : Type}

def opening : Race α := ⟨none, false, false, .watching, false, .racing⟩

/-- The caller decides the race, or the wait for a call that it has told to end. Where there is
nothing to decide it waits on. -/
def callerTurn (race : Race α) : Race α :=
  match race.caller with
  | .racing =>
    match RaceVerdict.decide race.pending race.result.isSome (race.watcher == .alerted) with
    | .callerStops =>
      { race with
        told := true
        watcher := race.watcher.dismiss
        pending := false
        caller := .finished (.error (.cancelled "")) }
    | .callWins =>
      { race with
        watcher := race.watcher.dismiss
        caller := .finished (race.result.getD (.error .stalled)) }
    | .signalWins =>
      { race with told := true, watcher := race.watcher.dismiss, caller := .halting }
    | .undecided => race
  | .halting =>
    -- The signal has been seen: only the end of the call and the caller's cancellation count now.
    match RaceVerdict.decide race.pending race.result.isSome false with
    | .callerStops => { race with pending := false, caller := .finished (.error (.cancelled "")) }
    | .callWins => { race with caller := .finished (.error .cancelledByCaller) }
    | _ => race
  | .finished _ => race

/-- A call ends once. -/
def step (race : Race α) : Event α → Race α
  | .callEnded result => { race with result := race.result.or (some result) }
  | .signalRaised => { race with raised := true }
  | .callerCancelled => { race with pending := true }
  | .watcherTurn => { race with watcher := race.watcher.look race.raised }
  | .callerTurn => race.callerTurn

def after (race : Race α) (events : List (Event α)) : Race α :=
  events.foldl step race

/-- The race as it stands after a history. -/
def play (history : List (Event α)) : Race α :=
  opening.after history

variable {race : Race α} {event : Event α}

private theorem after_append (race : Race α) (first second : List (Event α)) :
    race.after (first ++ second) = (race.after first).after second :=
  List.foldl_append

theorem after_append_singleton (race : Race α) (events : List (Event α)) (last : Event α) :
    race.after (events ++ [last]) = (race.after events).step last :=
  after_append race events [last]

theorem after_append_turn (race : Race α) (events later : List (Event α)) :
    race.after (events ++ .callerTurn :: later) = (race.after events).callerTurn.after later :=
  after_append race events _

private theorem finished_step {result : Except Failure α} {told : Bool}
    (finished : race.caller = .finished result ∧ race.told = told) (event : Event α) :
    (race.step event).caller = .finished result ∧ (race.step event).told = told := by
  cases event with
  | callerTurn => simpa [step, callerTurn, finished.1] using finished
  | _ => exact finished

/-- A caller who is done stays so. -/
theorem finished_after {result : Except Failure α} {told : Bool}
    (finished : race.caller = .finished result ∧ race.told = told) (later : List (Event α)) :
    (race.after later).caller = .finished result ∧ (race.after later).told = told := by
  induction later generalizing race with
  | nil => exact finished
  | cons event later ih => exact ih (finished_step finished event)

/-- Nothing is left running that nobody looks after: the watcher has seen the signal or is dismissed,
and the call has ended or was told to. -/
structure Attended (race : Race α) : Prop where
  watcher : race.watcher ≠ .watching
  call : race.result.isSome ∨ race.told

theorem Attended.step (attended : Attended race) (event : Event α) : Attended (race.step event) := by
  obtain ⟨watcher, call⟩ := attended
  cases event with
  | callEnded result => exact ⟨watcher, .inl (by simp [Race.step])⟩
  | signalRaised => exact ⟨watcher, call⟩
  | callerCancelled => exact ⟨watcher, call⟩
  | watcherTurn => exact ⟨by rwa [Race.step, Watcher.look_of_done watcher], call⟩
  | callerTurn =>
    simp only [Race.step, callerTurn, Watcher.dismiss_of_done watcher]
    split
    · split
      · exact ⟨watcher, .inr rfl⟩
      · exact ⟨watcher, call⟩
      · exact ⟨watcher, .inr rfl⟩
      · exact ⟨watcher, call⟩
    · split <;> exact ⟨watcher, call⟩
    · exact ⟨watcher, call⟩

private theorem attended_callerTurn (racing : race.caller = .racing) :
    race.callerTurn.caller = .racing ∨ Attended race.callerTurn := by
  have done := race.watcher.dismiss_ne_watching
  simp only [callerTurn, racing]
  split
  · exact .inr ⟨done, .inr rfl⟩
  · rename_i won
    exact .inr ⟨done, .inl (RaceVerdict.ended_of_callWins won)⟩
  · exact .inr ⟨done, .inr rfl⟩
  · exact .inl racing

theorem attended_play (history : List (Event α)) :
    (play history).caller = .racing ∨ Attended (play history) := by
  induction history using List.reverseRecOn with
  | nil => exact .inl rfl
  | append_singleton history event ih =>
    rw [play, after_append_singleton]
    rcases ih with racing | attended
    · cases event with
      | callerTurn => exact attended_callerTurn racing
      | _ => exact .inl racing
    · exact .inr (attended.step event)

end

section

variable {ρ α : Type}

/-- What has happened by the first pause of a call, when the watcher and the caller have their turns.
-/
def firstRound (signal : Signal) (progress : Progress ρ α) (scene : Scene ρ) : List (Event α) :=
  (if scene.isRaised signal then [.signalRaised] else []) ++
    (if scene.task.pending then [.callerCancelled] else []) ++
    (if progress.hasEnded then [.callEnded progress.outcome] else []) ++
    [.watcherTurn, .callerTurn]

/-- What a race comes to for its caller, on the scene that is left. -/
def settle (race : Race α) (scene : Scene ρ) : EStateM.Result Failure (Scene ρ) α :=
  match race.caller with
  | .finished result => Action.ofExcept result scene
  | _ => .error .stalled scene

/-- How a race goes on after the first round. A call that the caller waits for is halted, and the
caller has another turn; one that it has told to end and does not wait for is left. -/
def conclude (race : Race α) (progress : Progress ρ α) (scene : Scene ρ) :
    EStateM.Result Failure (Scene ρ) α :=
  match race.caller with
  | .racing => race.settle scene
  | .halting =>
    (race.after [.callEnded (progress.ending scene), .callerTurn]).settle (progress.halt scene)
  | .finished _ =>
    if race.told then
      race.settle (progress.leave { scene with task := { scene.task with pending := false } })
    else race.settle scene

private theorem stands_firstRound (signal : Signal) (progress : Progress ρ α) (scene : Scene ρ) :
    let race := play (firstRound signal progress scene)
    (race.caller, race.told, race.pending) =
      match RaceVerdict.decide scene.task.pending progress.hasEnded (scene.isRaised signal) with
      | .callerStops => (.finished (.error (.cancelled "")), true, false)
      | .callWins => (.finished progress.outcome, false, false)
      | .signalWins => (.halting, true, false)
      | .undecided => (.racing, false, false) := by
  unfold firstRound
  -- The first round depends on three answers, and on the outcome of a call that has ended.
  cases scene.isRaised signal <;> cases scene.task.pending <;> cases progress.hasEnded <;> rfl

private theorem caller_of_halted {race : Race α} (halting : race.caller = .halting)
    (free : race.pending = false) (result : Except Failure α) :
    (race.after [.callEnded result, .callerTurn]).caller = .finished (.error .cancelledByCaller) := by
  simp [after, step, callerTurn, halting, free, RaceVerdict.decide]

/-- Running a call on a scene is the race in which all happens by the first pause of the call. -/
theorem run_eq_conclude (call : Call ρ α) (signal : Signal) (scene : Scene ρ) :
    let (progress, paused) := call.start scene
    call.run (some signal) scene =
      (play (firstRound signal progress paused)).conclude progress paused := by
  cases started : call.start scene with
  | mk progress paused =>
    have stands := stands_firstRound signal progress paused
    simp only [Call.run, Call.race, started, conclude]
    cases decided : RaceVerdict.decide paused.task.pending progress.hasEnded
      (paused.isRaised signal) with
    | signalWins =>
      simp only [decided, Prod.mk.injEq] at stands
      obtain ⟨halting, -, free⟩ := stands
      simp [halting, settle, caller_of_halted halting free]
    | _ =>
      simp only [decided, Prod.mk.injEq] at stands
      simp [stands, settle]

end

end Race
end ClaimCheck
