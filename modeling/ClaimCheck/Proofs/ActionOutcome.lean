import ClaimCheck.Action

/-!
How actions run: what each kind of action comes to on a scene, and when a sequence of two returns.
-/
namespace ClaimCheck

/-- The first of all instants. -/
def Instant.first : Instant := ⟨0, by decide⟩

@[simp] theorem mapError_ok {ε δ α : Type} (change : ε → δ) (value : α) :
    (Except.ok value).mapError change = .ok value := rfl

@[simp] theorem mapError_error {ε δ α : Type} (change : ε → δ) (failure : ε) :
    (Except.error failure : Except ε α).mapError change = .error (change failure) := rfl

theorem mapError_eq_ok {ε δ α : Type} {change : ε → δ} {result : Except ε α} {value : α} :
    result.mapError change = .ok value ↔ result = .ok value := by
  constructor
  · intro mapped
    cases result with
    | ok own =>
      cases mapped
      rfl
    | error failure => cases mapped
  · rintro rfl
    rfl

/-- Checks in sequence are passed if both are. -/
theorem exceptBind_eq_ok {ε α β : Type} {result : Except ε α} {next : α → Except ε β} {value : β} :
    (result >>= next) = .ok value ↔ ∃ middle, result = .ok middle ∧ next middle = .ok value := by
  cases result <;> simp [bind, Except.bind]

namespace Scene

/-- A scene with nothing in it but the given state. -/
def bare (state : ρ) : Scene ρ :=
  ⟨.first, [], ⟨false, false⟩, .initial [], [], state⟩

/-- The scene without the state of an action that runs within it. -/
def outer (scene : Scene (τ × ρ)) : Scene ρ :=
  scene.withRest scene.rest.2

@[simp] theorem isCancelled_none (scene : Scene ρ) : scene.isCancelled none = false := rfl

@[simp] theorem withRest_rest (scene : Scene ρ) (rest : σ) : (scene.withRest rest).rest = rest := rfl

end Scene

namespace Action

variable {ρ σ α β : Type}

/-- The scene that an action leaves behind, whether it fails or not. -/
def sceneAfter (action : Action ρ α) (scene : Scene ρ) : Scene ρ :=
  match action scene with
  | .ok _ after => after
  | .error _ after => after

@[simp] theorem pure_run (value : α) (scene : Scene ρ) :
    (pure value : Action ρ α) scene = .ok value scene := rfl

@[simp] theorem throw_run (failure : Failure) (scene : Scene ρ) :
    (throw failure : Action ρ α) scene = .error failure scene := rfl

@[simp] theorem inspect_run (view : ρ → α) (scene : Scene ρ) :
    inspect view scene = .ok (view scene.rest) scene := rfl

@[simp] theorem update_run (change : ρ → ρ) (scene : Scene ρ) :
    update change scene = .ok () { scene with rest := change scene.rest } := rfl

@[simp] theorem freshId_run (scene : Scene ρ) :
    freshId scene = .ok scene.ids.next.1 { scene with ids := scene.ids.next.2 } := rfl

@[simp] theorem ofExcept_ok (value : α) (scene : Scene ρ) :
    (ofExcept (.ok value) : Action ρ α) scene = .ok value scene := rfl

@[simp] theorem ofExcept_error (failure : Failure) (scene : Scene ρ) :
    (ofExcept (.error failure) : Action ρ α) scene = .error failure scene := rfl

@[simp] theorem ensureNotCancelled_none (scene : Scene ρ) :
    ensureNotCancelled none scene = .ok () scene := rfl

theorem bind_run (action : Action ρ α) (next : α → Action ρ β) (scene : Scene ρ) :
    (action >>= next) scene =
      match action scene with
      | .ok value after => next value after
      | .error failure after => .error failure after := by
  change EStateM.bind action next scene = _
  simp only [EStateM.bind]
  cases action scene <;> rfl

theorem bind_of_ok {action : Action ρ α} {scene after : Scene ρ} {value : α}
    (ran : action scene = .ok value after) (next : α → Action ρ β) :
    (action >>= next) scene = next value after := by
  rw [bind_run, ran]

theorem bind_of_error {action : Action ρ α} {scene after : Scene ρ} {failure : Failure}
    (ran : action scene = .error failure after) (next : α → Action ρ β) :
    (action >>= next) scene = .error failure after := by
  rw [bind_run, ran]

/-- A sequence returns exactly if both its parts do. -/
theorem bind_eq_ok {action : Action ρ α} {next : α → Action ρ β} {scene last : Scene ρ} {value : β} :
    (action >>= next) scene = .ok value last ↔
      ∃ middle after, action scene = .ok middle after ∧ next middle after = .ok value last := by
  constructor
  · intro ran
    cases first : action scene with
    | ok middle after =>
      rw [bind_of_ok first] at ran
      exact ⟨middle, after, rfl, ran⟩
    | error failure after =>
      rw [bind_of_error first] at ran
      cases ran
  · rintro ⟨middle, after, first, second⟩
    rw [bind_of_ok first, second]

@[simp] theorem map_run (change : α → β) (action : Action ρ α) (scene : Scene ρ) :
    (change <$> action) scene =
      match action scene with
      | .ok value after => .ok (change value) after
      | .error failure after => .error failure after := by
  change EStateM.map change action scene = _
  simp only [EStateM.map]
  cases action scene <;> rfl

theorem ensureNotCancelled_run (signal : Option Signal) (scene : Scene ρ) :
    ensureNotCancelled signal scene =
      if scene.isCancelled signal then .error .cancelledByCaller scene else .ok () scene := rfl

theorem ensure_eq_ok {condition : Bool} {failure : Failure} {scene after : Scene ρ} :
    ensure condition failure scene = .ok () after ↔ condition = true ∧ scene = after := by
  cases condition <;> simp [ensure]

theorem ofExcept_eq_ok {result : Except Failure α} {value : α} {scene after : Scene ρ} :
    ofExcept result scene = .ok value after ↔ result = .ok value ∧ scene = after := by
  cases result <;> simp

theorem ofExcept_eq_error {result : Except Failure α} {failure : Failure} {scene after : Scene ρ} :
    ofExcept result scene = .error failure after ↔ result = .error failure ∧ scene = after := by
  cases result <;> simp

end Action
end ClaimCheck
