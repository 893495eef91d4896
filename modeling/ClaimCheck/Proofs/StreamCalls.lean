import ClaimCheck.Proofs.ActionFrame
import ClaimCheck.Proofs.ActionParts
import ClaimCheck.Proofs.CallOutcome

/-!
Calls on streams, one after the other. A call, for one piece or for all that is left, ends as its
last read does, and what no read changes of a stream stays the same over any history of calls.
-/
namespace ClaimCheck

namespace Call

variable {σ π α κ : Type} {part : Part σ π} {call : Call π α} {signal : Option Signal}
  {scene last : Scene σ}

/-- A call on a part gives what the call itself gives. -/
theorem gives_of_on (lawful : part.Lawful) {result : Except Failure α}
    (gives : (call.on part).Gives scene result last) :
    ∃ inner, call.Gives (scene.withRest (part.get scene.rest)) result inner ∧
      last = inner.withRest (part.put inner.rest scene.rest) := by
  rcases begun : call.start (scene.withRest (part.get scene.rest)) with ⟨progress, paused⟩
  cases gives with
  | ended started =>
    simp only [Call.on, begun] at started
    cases progress with
    | ended own =>
      cases started
      exact ⟨paused, .ended begun, rfl⟩
    | selfCancelled => cases started
    | waiting stop abandon => cases started
  | stopped stop abandon after started pending ran =>
    simp only [Call.on, begun] at started
    cases progress with
    | ended own => cases started
    | selfCancelled => cases started
    | waiting own leave =>
      cases started
      simp only [Action.on, Scene.withRest, lawful.get_put] at ran
      cases stopped : own { paused with task := { paused.task with pending := false } } with
      | ok value inner =>
        simp only [stopped, lawful.put_put] at ran
        obtain ⟨rfl, rfl⟩ := Action.ofExcept_eq_ok.mp ran.symm
        exact ⟨inner, .stopped own leave paused begun pending stopped, rfl⟩
      | error failure inner =>
        simp only [stopped, lawful.put_put] at ran
        obtain ⟨rfl, rfl⟩ := Action.ofExcept_eq_error.mp ran.symm
        exact ⟨inner, .stopped own leave paused begun pending stopped, rfl⟩

theorem isStuck_of_on (stuck : (call.on part).IsStuck signal scene) :
    call.IsStuck signal (scene.withRest (part.get scene.rest)) := by
  obtain ⟨stop, abandon, after, started, pending, quiet⟩ := stuck
  rcases begun : call.start (scene.withRest (part.get scene.rest)) with ⟨progress, paused⟩
  simp only [Call.on, begun] at started
  cases progress with
  | ended own => cases started
  | selfCancelled => cases started
  | waiting own leave =>
    cases started
    exact ⟨own, leave, paused, begun, pending, quiet⟩

/-- Whether a call leaves alone what is seen of its state, however it is told to end. -/
structure Leaves (view : σ → κ) (call : Call σ α) : Prop where
  starts : ∀ scene, view (call.start scene).2.rest = view scene.rest
  halts : ∀ scene later, view ((call.start scene).1.halt later).rest = view later.rest
  leaves : ∀ scene later, view ((call.start scene).1.leave later).rest = view later.rest

theorem Leaves.run {view : σ → κ} {call : Call σ α} (left : call.Leaves view)
    (signal : Option Signal) : Action.Leaves view (call.run signal) := by
  intro scene
  have starts := left.starts scene
  have halts := left.halts scene
  have leaves := left.leaves scene
  rcases begun : call.start scene with ⟨progress, paused⟩
  rw [begun] at starts halts leaves
  cases signal with
  | none =>
    simp only [Action.sceneAfter, Call.run, await, begun]
    cases progress with
    | ended result => cases result <;> exact starts
    | selfCancelled => exact starts
    | waiting stop abandon =>
      by_cases pending : paused.task.pending
      · simp only [pending, if_true]
        exact (halts _).trans starts
      · simp only [pending]
        exact starts
  | some signal =>
    simp only [Action.sceneAfter, Call.run, race, begun]
    cases RaceVerdict.decide paused.task.pending progress.hasEnded (paused.isRaised signal) with
    | callerStops => exact (leaves _).trans starts
    | callWins => cases progress.outcome <;> exact starts
    | signalWins => exact (halts _).trans starts
    | undecided => exact starts

/-- A call on a part leaves alone what is the same for every part that looks the same. -/
theorem Leaves.on {ι : Type} {look : π → ι} {view : σ → κ} (left : call.Leaves look)
    (fixed : ∀ value state, look value = look (part.get state) →
      view (part.put value state) = view state) : (call.on part).Leaves view where
  starts scene := by
    have same := left.starts (scene.withRest (part.get scene.rest))
    simp only [Call.on]
    rcases begun : call.start (scene.withRest (part.get scene.rest)) with ⟨progress, paused⟩
    rw [begun] at same
    cases progress <;> exact fixed _ _ same
  halts scene later := by
    have same := left.halts (scene.withRest (part.get scene.rest))
      (later.withRest (part.get later.rest))
    simp only [Call.on]
    rcases begun : call.start (scene.withRest (part.get scene.rest)) with ⟨progress, paused⟩
    rw [begun] at same
    cases progress with
    | ended result => rfl
    | selfCancelled => rfl
    | waiting stop abandon =>
      simp only [Progress.halt, Action.on] at same ⊢
      cases ran : stop (later.withRest (part.get later.rest)) <;> simp only [ran] at same ⊢ <;>
        exact fixed _ _ same
  leaves scene later := by
    have same := left.leaves (scene.withRest (part.get scene.rest))
      (later.withRest (part.get later.rest))
    simp only [Call.on]
    rcases begun : call.start (scene.withRest (part.get scene.rest)) with ⟨progress, paused⟩
    rw [begun] at same
    cases progress with
    | ended result => rfl
    | selfCancelled => rfl
    | waiting stop abandon => exact fixed _ _ same

/-- A call on a part leaves alone what putting the part does not change. -/
theorem leaves_on {view : σ → κ} (fixed : ∀ value state, view (part.put value state) = view state)
    (call : Call π α) : (call.on part).Leaves view := by
  have blind : call.Leaves fun _ => () := ⟨fun _ => rfl, fun _ _ => rfl, fun _ _ => rfl⟩
  exact blind.on fun value state _ => fixed value state

end Call

namespace StreamReader

/-- A call on a stream: for one piece, or for all that is left. -/
inductive Reading
  | piece (size : Int)
  | whole
  deriving DecidableEq, Repr

/-- The size of the pieces that a call asks for. -/
def Reading.size : Reading → Int
  | .piece size => size
  | .whole => pieceSize

variable {ρ τ κ : Type} {reader : StreamReader ρ τ}

def perform (reader : StreamReader ρ τ) : Reading → Action (τ × ρ) Bytes
  | .piece size => reader.read size
  | .whole => reader.readAll

/-- The scene in which the last piece of a collection is asked for. -/
def lastOf (reader : StreamReader ρ τ) : Nat → Scene (τ × ρ) → Scene (τ × ρ)
  | 0, scene => scene
  | fuel + 1, scene =>
    match reader.read pieceSize scene with
    | .ok piece after => if piece.isEmpty then scene else lastOf reader fuel after
    | .error _ _ => scene

/-- The scene in which a call asks for its last piece. -/
def lastScene (reader : StreamReader ρ τ) : Reading → Scene (τ × ρ) → Scene (τ × ρ)
  | .piece _, scene => scene
  | .whole, scene => reader.lastOf (reader.pieces scene.rest.1 + 1) scene

/-- Whether every piece leaves fewer pieces to come. -/
def Dwindles (reader : StreamReader ρ τ) : Prop :=
  ∀ {scene piece after}, reader.read pieceSize scene = .ok piece after → piece ≠ [] →
    reader.pieces after.rest.1 < reader.pieces scene.rest.1

private theorem collect_ends (dwindles : reader.Dwindles) (fuel : Nat) (read : List Bytes)
    (scene : Scene (τ × ρ)) (enough : reader.pieces scene.rest.1 < fuel) :
    ∃ bytes : Bytes, reader.collect fuel read scene =
      ((fun _ => bytes) <$> reader.read pieceSize) (reader.lastOf fuel scene) := by
  -- The fuel exceeds the pieces that are still to come, so an empty piece comes before it is gone.
  induction fuel generalizing read scene with
  | zero => omega
  | succ fuel ih =>
    cases ran : reader.read pieceSize scene with
    | error failure after =>
      exact ⟨[], by simp [collect, lastOf, Action.bind_of_error ran, ran]⟩
    | ok piece after =>
      simp only [collect, Action.bind_of_ok ran, lastOf, ran]
      by_cases last : piece = []
      · exact ⟨read.reverse.flatten, by simp [last, ran]⟩
      · have fewer := dwindles ran last
        obtain ⟨bytes, rest⟩ := ih (piece :: read) after (by omega)
        exact ⟨bytes, by simpa [last] using rest⟩

/-- A call ends as its last read does. -/
theorem perform_ends (dwindles : reader.Dwindles) (reading : Reading) (scene : Scene (τ × ρ)) :
    ∃ bytes : Bytes, reader.perform reading scene =
      ((fun _ => bytes) <$> reader.read reading.size) (reader.lastScene reading scene) := by
  cases reading with
  | piece size =>
    simp only [perform, Reading.size, lastScene, Action.map_run]
    cases reader.read size scene with
    | ok piece after => exact ⟨piece, rfl⟩
    | error failure after => exact ⟨[], rfl⟩
  | whole => exact collect_ends dwindles _ [] scene (Nat.lt_succ_self _)

variable {view : τ × ρ → κ}

private theorem lastOf_rest (read : Action.Leaves view (reader.read pieceSize)) (fuel : Nat)
    (scene : Scene (τ × ρ)) : view (reader.lastOf fuel scene).rest = view scene.rest := by
  induction fuel generalizing scene with
  | zero => rfl
  | succ fuel ih =>
    have left := read scene
    simp only [Action.sceneAfter] at left
    unfold lastOf
    cases ran : reader.read pieceSize scene with
    | error failure after => rfl
    | ok piece after =>
      simp only [ran] at left
      by_cases last : piece.isEmpty
      · simp only [last, if_true]
      · simp only [last]
        exact (ih after).trans left

private theorem lastScene_rest (read : Action.Leaves view (reader.read pieceSize))
    (reading : Reading) (scene : Scene (τ × ρ)) :
    view (reader.lastScene reading scene).rest = view scene.rest := by
  cases reading with
  | piece size => rfl
  | whole => exact lastOf_rest read _ scene

private theorem perform_leaves (reads : ∀ size, Action.Leaves view (reader.read size))
    (reading : Reading) :
    Action.Leaves view (reader.perform reading) := by
  cases reading with
  | piece size => exact reads size
  | whole => exact readAll_leaves (reads pieceSize)

/-- A call on a stream, in the scene in which it is made. -/
structure Made (ρ τ : Type) where
  reading : Reading
  before : Scene (τ × ρ)

/-- A call that is yet to be made, and all that happens before it to everything but the stream. -/
structure Turn (ρ : Type) where
  meanwhile : Scene ρ → Scene ρ
  reading : Reading

/-- The calls that are made on a stream, one after the other. -/
def history (reader : StreamReader ρ τ) : List (Turn ρ) → τ → Scene ρ → List (Made ρ τ)
  | [], _, _ => []
  | turn :: rest, stream, scene =>
    let scene := turn.meanwhile scene
    let before := scene.withRest (stream, scene.rest)
    let after := (reader.perform turn.reading).sceneAfter before
    ⟨turn.reading, before⟩ :: history reader rest after.rest.1 after.outer

private theorem history_keeps {look : τ → κ}
    (reads : ∀ size, Action.Leaves (fun state => look state.1) (reader.read size))
    (turns : List (Turn ρ)) (stream : τ) (scene : Scene ρ) :
    ∀ made ∈ reader.history turns stream scene, look made.before.rest.1 = look stream := by
  induction turns generalizing stream scene with
  | nil => exact fun made member => absurd member List.not_mem_nil
  | cons turn rest ih =>
    intro made member
    rcases List.mem_cons.mp member with rfl | later
    · rfl
    · exact (ih _ _ made later).trans (perform_leaves reads turn.reading _)

/-- What no read changes of a stream is the same at the last read of every call. -/
theorem history_lastScene {look : τ → κ}
    (reads : ∀ size, Action.Leaves (fun state => look state.1) (reader.read size))
    (turns : List (Turn ρ)) (stream : τ) (scene : Scene ρ) :
    ∀ made ∈ reader.history turns stream scene,
      look (reader.lastScene made.reading made.before).rest.1 = look stream := by
  intro made member
  have before := history_keeps reads turns stream scene made member
  exact (lastScene_rest (reads pieceSize) made.reading made.before).trans before

end StreamReader
end ClaimCheck
