import ClaimCheck.Payload.Stream
import ClaimCheck.Proofs.ActionOutcome

/-!
What actions leave alone. An action leaves a part of the state alone if no step of it, failed or
not, changes what is seen of that part.
-/
namespace ClaimCheck

namespace Action

variable {ρ σ τ κ α β : Type}

/-- Whether an action leaves alone what is seen of its state, even when it fails. -/
def Leaves (view : ρ → κ) (action : Action ρ α) : Prop :=
  ∀ scene, view (action.sceneAfter scene).rest = view scene.rest

variable {view : ρ → κ}

theorem Leaves.of_ok {action : Action ρ α} (left : Leaves view action) {scene after : Scene ρ}
    {value : α} (ran : action scene = .ok value after) : view after.rest = view scene.rest := by
  have same := left scene
  rwa [sceneAfter, ran] at same

theorem Leaves.of_error {action : Action ρ α} (left : Leaves view action) {scene after : Scene ρ}
    {failure : Failure} (failed : action scene = .error failure after) :
    view after.rest = view scene.rest := by
  have same := left scene
  rwa [sceneAfter, failed] at same

theorem leaves_pure (value : α) : Leaves view (pure value) := fun _ => rfl

theorem leaves_throw (failure : Failure) : Leaves view (throw failure : Action ρ α) :=
  fun _ => rfl

theorem leaves_inspect (look : ρ → α) : Leaves view (inspect look) := fun _ => rfl

theorem leaves_ofExcept (result : Except Failure α) : Leaves view (ofExcept result) := by
  intro scene
  cases result <;> rfl

theorem leaves_ensure (condition : Bool) (failure : Failure) :
    Leaves view (ensure condition failure) := by
  intro scene
  cases condition <;> rfl

theorem leaves_ensureNotCancelled (signal : Option Signal) :
    Leaves view (ensureNotCancelled signal) := by
  intro scene
  rw [sceneAfter, ensureNotCancelled_run]
  cases scene.isCancelled signal <;> rfl

theorem sceneAfter_map (change : α → β) (action : Action ρ α) (scene : Scene ρ) :
    (change <$> action).sceneAfter scene = action.sceneAfter scene := by
  simp only [sceneAfter, map_run]
  cases action scene <;> rfl

theorem Leaves.map {action : Action ρ α} (left : Leaves view action) (change : α → β) :
    Leaves view (change <$> action) := by
  intro scene
  rw [sceneAfter_map]
  exact left scene

/-- What is seen of a part is seen of the whole. -/
theorem Leaves.comp {action : Action ρ α} (left : Leaves view action) (look : κ → τ) :
    Leaves (fun state => look (view state)) action :=
  fun scene => congrArg look (left scene)

theorem sceneAfter_bind (action : Action ρ α) (next : α → Action ρ β) (scene : Scene ρ) :
    (action >>= next).sceneAfter scene =
      match action scene with
      | .ok value after => (next value).sceneAfter after
      | .error _ after => after := by
  simp only [sceneAfter, bind_run]
  cases action scene <;> rfl

theorem Leaves.bind {action : Action ρ α} {next : α → Action ρ β} (first : Leaves view action)
    (second : ∀ value, Leaves view (next value)) : Leaves view (action >>= next) := by
  intro scene
  have left := first scene
  rw [sceneAfter_bind]
  cases ran : action scene with
  | ok value after =>
    simp only [sceneAfter, ran] at left
    exact (second value after).trans left
  | error failure after => simpa only [sceneAfter, ran] using left

theorem Leaves.andFinally {action : Action ρ α} {final : Action ρ Unit}
    (first : Leaves view action) (second : Leaves view final) :
    Leaves view (action.andFinally final) := by
  intro scene
  have left := first scene
  simp only [sceneAfter] at left ⊢
  simp only [Action.andFinally]
  cases ran : action scene with
  | ok value after =>
    have closed := second after
    cases last : final after <;> simp_all [sceneAfter]
  | error failure after =>
    have closed := second after
    cases last : final after <;> simp_all [sceneAfter]

/-- What an action does within a state of its own leaves the rest alone if it does so itself. -/
theorem Leaves.within {action : Action (τ × ρ) α} (state : τ)
    (left : Leaves (fun both : τ × ρ => view both.2) action) : Leaves view (action.within state) := by
  intro scene
  have left := left (scene.withRest (state, scene.rest))
  simp only [sceneAfter, Action.within] at left ⊢
  cases ran : action (scene.withRest (state, scene.rest)) <;> simp_all

theorem leaves_on_second (action : Action ρ α) :
    Leaves (fun both : τ × ρ => both.1) (action.on .second) := by
  intro scene
  simp only [sceneAfter, Action.on]
  cases action (scene.withRest (Part.second.get scene.rest)) <;> rfl

theorem leaves_on_beside_second (action : Action (σ × ρ) α) :
    Leaves (fun all : σ × τ × ρ => all.2.1) (action.on (Part.beside .second)) := by
  intro scene
  simp only [sceneAfter, Action.on]
  cases action (scene.withRest (Part.second.beside.get scene.rest)) <;> rfl

end Action

namespace StreamReader

variable {ρ τ κ : Type} {reader : StreamReader ρ τ} {view : τ × ρ → κ}

private theorem collect_leaves (read : Action.Leaves view (reader.read pieceSize)) (fuel : Nat)
    (pieces : List Bytes) : Action.Leaves view (reader.collect fuel pieces) := by
  induction fuel generalizing pieces with
  | zero => exact Action.leaves_throw _
  | succ fuel ih =>
    apply read.bind
    intro piece
    by_cases last : piece.isEmpty
    · simp only [last, if_true]
      exact Action.leaves_pure _
    · simp only [last]
      exact ih _

theorem readAll_leaves (read : Action.Leaves view (reader.read pieceSize)) :
    Action.Leaves view reader.readAll :=
  (Action.leaves_inspect id).bind fun _ => collect_leaves read _ _

/-- Reading a stream to its end, and closing it, leaves alone what every read does. -/
theorem drain_leaves (read : Action.Leaves view (reader.read pieceSize))
    (close : Action.Leaves view reader.close) : Action.Leaves view reader.drain :=
  (readAll_leaves read).andFinally close

end StreamReader
end ClaimCheck
