import ClaimCheck.Rehearsal.World

/-!
What a step of a rehearsal comes to: its answer or failure, and all that was noted and warned of
meanwhile.
-/
namespace ClaimCheck.Rehearsal

inductive Answer
  | done
  | reference (reference : Option String)
  | stream (number : Nat)
  | bytes (bytes : Bytes)
  | scope (bytes : Bytes)
  | count (count : Nat)
  | truth (answer : Bool)
  | truths (answers : List Bool)
  | objects (objects : Table Bytes)
  | properties (name : String) (conditional : Bool)
  | envelope (envelope : Envelope)
  | envelopes (envelopes : List Envelope)
  | context (context : Context)
  | journey (transmitted received : Envelope) (bodyEqual : Bool)
  | passed (envelope : Envelope) (same : Bool)
  | replaced (envelope : Envelope) (equal : Bool)
  | endpoint (url : Option Json)
  | client
  | subscription (number : Nat)
  | staffed (answer : Bool)
  | reply (reply : Reply Value)
  | request (request : UploadRequest)
  | value (value : Value)

structure Report where
  result : Except Failure Answer
  journal : Journal
  warnings : List String

/-- Which signal goes with the calls of a step: none, one of its own, or the one of the rehearsal.
-/
inductive Cue
  | silent
  | own (raised : Bool)
  | shared
  deriving DecidableEq, Repr

/-- The signal of a rehearsal. -/
def sharedSignal : Signal := 0

/-- The signal of a step, by the number of the step. -/
def Cue.signal? (cue : Cue) (number : Nat) : Option Signal :=
  match cue with
  | .silent => none
  | .own _ => some (number + 1)
  | .shared => some sharedSignal

/-- A step: its signal, what collaborators do meanwhile, and the step itself. -/
structure Step (ρ : Type) where
  cue : Cue
  script : Script
  perform : Option Signal → Action ρ Answer

/-- The scene at the start of a step. The caller's task is a new one. -/
def prepared (stage : Part ρ Stage) (step : Step ρ) (number : Nat) (scene : Scene ρ) : Scene ρ :=
  let signal := step.cue.signal? number
  let current := { stage.get scene.rest with script := step.script, signal }
  let scene := { scene with task := ⟨false, false⟩, rest := stage.put current scene.rest }
  match step.cue, signal with
  | .own true, some signal => scene.raise signal
  | _, _ => scene

/-- All that was noted so far, late entries last; nothing is noted afterwards. -/
def collected (stage : Part ρ Stage) (result : Except Failure Answer) (scene : Scene ρ) :
    Report × Scene ρ :=
  let current := stage.get scene.rest
  let journal := { current.journal with entries := current.journal.entries ++ current.journal.late }
  (⟨result, journal, scene.warnings⟩,
    { scene with warnings := [], rest := stage.put { current with journal := .blank } scene.rest })

/-- The result of an action, and the scene after it. -/
def outcome (action : Action ρ α) (scene : Scene ρ) : Except Failure α × Scene ρ :=
  match action scene with
  | .ok value after => (.ok value, after)
  | .error failure after => (.error failure, after)

/-- The reports of steps, numbered from the given number on. -/
def performAll (stage : Part ρ Stage) : Nat → List (Step ρ) → Scene ρ → List Report
  | _, [], _ => []
  | number, step :: rest, scene =>
    let (result, after) :=
      outcome (step.perform (step.cue.signal? number)) (prepared stage step number scene)
    let (report, after) := collected stage result after
    report :: performAll stage (number + 1) rest after

/-- The report of one step by itself. -/
def performOne (stage : Part ρ Stage) (step : Step ρ) (scene : Scene ρ) : Report :=
  let (result, after) :=
    outcome (step.perform (step.cue.signal? 0)) (prepared stage step 0 scene)
  (collected stage result after).1

/-- A report of a result alone. -/
def Report.bare (result : Except Failure Answer) : Report := ⟨result, .blank, []⟩

end ClaimCheck.Rehearsal
