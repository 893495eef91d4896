import ClaimCheck.Failure
import ClaimCheck.Identifier

/-!
Actions run on a scene: the present instant, the cancellation signals raised, the caller's own task,
the identifiers and warnings given out, and whatever the collaborators of the action keep. What an
action did before it fails stays done.
-/
namespace ClaimCheck

/-- A cancellation signal that a caller may pass along with a call, by its number. -/
abbrev Signal := Nat

/-- The task that a caller runs in: whether its cancellation was asked for, and whether it is yet to
be noticed, which happens when the task next waits. -/
structure CallerTask where
  cancelled : Bool
  pending : Bool
  deriving DecidableEq, Repr

structure Scene (ρ : Type) where
  now : Instant
  raised : List Signal
  task : CallerTask
  ids : IdSource
  warnings : List String
  rest : ρ

abbrev Action (ρ α : Type) := EStateM Failure (Scene ρ) α

namespace Scene

def withRest (scene : Scene ρ) (rest : σ) : Scene σ :=
  { scene with rest }

def isRaised (scene : Scene ρ) (signal : Signal) : Bool :=
  scene.raised.contains signal

def raise (scene : Scene ρ) (signal : Signal) : Scene ρ :=
  if scene.isRaised signal then scene else { scene with raised := signal :: scene.raised }

/-- Whether a signal was passed along and is raised. -/
def isCancelled (scene : Scene ρ) (signal : Option Signal) : Bool :=
  signal.any scene.isRaised

/-- Whether a cancellation met during a call is the caller's own doing. -/
def callerCancelled (scene : Scene ρ) (signal : Option Signal) : Bool :=
  scene.isCancelled signal || scene.task.cancelled

end Scene

/-- A part of a state, to be taken out and put back. -/
structure Part (σ π : Type) where
  get : σ → π
  put : π → σ → σ

namespace Part

def whole : Part σ σ := ⟨id, fun state _ => state⟩

def first : Part (α × β) α := ⟨Prod.fst, fun a pair => (a, pair.2)⟩

def second : Part (α × β) β := ⟨Prod.snd, fun b pair => (pair.1, b)⟩

/-- The same part next to something else. -/
def beside (part : Part σ π) : Part (τ × σ) (τ × π) :=
  ⟨fun pair => (pair.1, part.get pair.2), fun value pair => (value.1, part.put value.2 pair.2)⟩

def compose (outer : Part σ π) (inner : Part π κ) : Part σ κ :=
  ⟨fun state => inner.get (outer.get state),
    fun value state => outer.put (inner.put value (outer.get state)) state⟩

end Part

namespace Action

/-- An action on a part of what the scene holds. -/
def on (part : Part σ π) (action : Action π α) : Action σ α := fun scene =>
  match action (scene.withRest (part.get scene.rest)) with
  | .ok value after => .ok value (after.withRest (part.put after.rest scene.rest))
  | .error failure after => .error failure (after.withRest (part.put after.rest scene.rest))

/-- An action with a state of its own, which is gone afterwards. -/
def within (state : τ) (action : Action (τ × ρ) α) : Action ρ α := fun scene =>
  match action (scene.withRest (state, scene.rest)) with
  | .ok value after => .ok value (after.withRest after.rest.2)
  | .error failure after => .error failure (after.withRest after.rest.2)

/-- Run a second action after a first one in any case. A failure of the second one wins. -/
def andFinally (action : Action ρ α) (final : Action ρ Unit) : Action ρ α := fun scene =>
  match action scene with
  | .ok value after =>
    match final after with
    | .ok _ after => .ok value after
    | .error failure after => .error failure after
  | .error failure after =>
    match final after with
    | .ok _ after => .error failure after
    | .error failure after => .error failure after

/-- Hand every failure to another action. -/
def recover (action : Action ρ α) (handle : Failure → Action ρ α) : Action ρ α := fun scene =>
  match action scene with
  | .ok value after => .ok value after
  | .error failure after => handle failure after

def ofExcept (result : Except Failure α) : Action ρ α := fun scene =>
  match result with
  | .ok value => .ok value scene
  | .error failure => .error failure scene

def inspect (view : ρ → α) : Action ρ α := fun scene =>
  .ok (view scene.rest) scene

def update (change : ρ → ρ) : Action ρ Unit := fun scene =>
  .ok () { scene with rest := change scene.rest }

def warn (text : String) : Action ρ Unit := fun scene =>
  .ok () { scene with warnings := scene.warnings ++ [text] }

def now : Action ρ Instant := fun scene =>
  .ok scene.now scene

def freshId : Action ρ String := fun scene =>
  .ok scene.ids.next.1 { scene with ids := scene.ids.next.2 }

def freshMessageId : Action ρ String := fun scene =>
  .ok scene.ids.nextForMessage.1 { scene with ids := scene.ids.nextForMessage.2 }

/-- Fail if the caller has already raised the signal. -/
def ensureNotCancelled (signal : Option Signal) : Action ρ Unit := fun scene =>
  if scene.isCancelled signal then .error .cancelledByCaller scene else .ok () scene

def ensure (condition : Bool) (failure : Failure) : Action ρ Unit := fun scene =>
  if condition then .ok () scene else .error failure scene

end Action
end ClaimCheck
