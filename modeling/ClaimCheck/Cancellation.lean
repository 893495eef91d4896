import ClaimCheck.Action

/-!
Calls of collaborators that can be abandoned. A call runs until it ends or waits; a caller that
passed a cancellation signal along races the call against the signal, any other awaits it.
-/
namespace ClaimCheck

/-- Where a call stands when it first pauses. -/
inductive Progress (ρ α : Type)
  | ended (result : Except Failure α)
  /-- The call cancelled the task that it runs in. -/
  | selfCancelled
  /-- The call waits. `stop` tells it to end and waits for that; `abandon` tells it and goes on. -/
  | waiting (stop : Action ρ α) (abandon : Scene ρ → Scene ρ)

namespace Progress

def hasEnded : Progress ρ α → Bool
  | .waiting _ _ => false
  | _ => true

/-- The result of a call that has ended by itself. -/
def outcome : Progress ρ α → Except Failure α
  | .ended result => result
  | .selfCancelled => .error (.cancelled "")
  | .waiting _ _ => .error .stalled

/-- Tell a call that still waits to end, without waiting for it. -/
def leave : Progress ρ α → Scene ρ → Scene ρ
  | .waiting _ abandon => abandon
  | _ => id

/-- Tell a call that still waits to end, and wait until it has. -/
def halt : Progress ρ α → Scene ρ → Scene ρ
  | .waiting stop _ => fun scene =>
    match stop scene with
    | .ok _ after => after
    | .error _ after => after
  | _ => id

end Progress

/-- What a race between a call, a signal and the caller's cancellation comes to. -/
inductive RaceVerdict
  | callerStops
  | callWins
  | signalWins
  | undecided
  deriving DecidableEq, Repr

/-- A cancelled caller stops at once; else a call that has ended wins, even over a raised signal. -/
def RaceVerdict.decide (callerCancelled callEnded signalRaised : Bool) : RaceVerdict :=
  if callerCancelled then .callerStops
  else if callEnded then .callWins
  else if signalRaised then .signalWins
  else .undecided

/-- A call, by its run up to the first pause. -/
structure Call (ρ α : Type) where
  start : Scene ρ → Progress ρ α × Scene ρ

namespace Call

/-- An action as a call that never waits. -/
def ofAction (action : Action ρ α) : Call ρ α where
  start scene := match action scene with
    | .ok value after => (.ended (.ok value), after)
    | .error failure after => (.ended (.error failure), after)

/-- Do something first, then call. -/
def after (action : Action ρ Unit) (call : Call ρ α) : Call ρ α where
  start scene := match action scene with
    | .ok _ scene => call.start scene
    | .error failure scene => (.ended (.error failure), scene)

/-- A call on a part of what the scene holds. -/
def on (part : Part σ π) (call : Call π α) : Call σ α where
  start scene :=
    let back (after : Scene π) := after.withRest (part.put after.rest scene.rest)
    match call.start (scene.withRest (part.get scene.rest)) with
    | (.ended result, after) => (.ended result, back after)
    | (.selfCancelled, after) => (.selfCancelled, back after)
    | (.waiting stop abandon, after) =>
      let leave (later : Scene σ) :=
        let done := abandon (later.withRest (part.get later.rest))
        done.withRest (part.put done.rest later.rest)
      (.waiting (stop.on part) leave, back after)

/-- Begin a call, and see where it first pauses. -/
def begin (call : Call ρ α) : Action ρ (Progress ρ α) := fun scene =>
  .ok (call.start scene).1 (call.start scene).2

/-- Await a call in the caller's own task, where cancelling the task is cancelling the caller. -/
def await (call : Call ρ α) : Action ρ α := fun scene =>
  match call.start scene with
  | (.ended result, after) => Action.ofExcept result after
  | (.selfCancelled, after) =>
    .error (.cancelled "") { after with task := { after.task with cancelled := true } }
  | (.waiting stop _, after) =>
    if after.task.pending then stop { after with task := { after.task with pending := false } }
    else .error .stalled after

/-- Race a call in a task of its own against a signal. -/
def race (call : Call ρ α) (signal : Signal) : Action ρ α := fun scene =>
  let (progress, after) := call.start scene
  match RaceVerdict.decide after.task.pending progress.hasEnded (after.isRaised signal) with
  | .callerStops =>
    .error (.cancelled "")
      (progress.leave { after with task := { after.task with pending := false } })
  | .callWins => Action.ofExcept progress.outcome after
  | .signalWins => .error .cancelledByCaller (progress.halt after)
  | .undecided => .error .stalled after

/-- Run a call to its end, or abandon it when the caller's signal is raised. -/
def run (call : Call ρ α) : Option Signal → Action ρ α
  | none => call.await
  | some signal => call.race signal

end Call
end ClaimCheck
