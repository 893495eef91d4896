import ClaimCheck.Cancellation
import ClaimCheck.Proofs.ActionOutcome

/-!
Two actions side by side. They are alike if they end alike wherever they begin alike: both return, or
both fail for the same reason, and leave scenes that are alike again.
-/
namespace ClaimCheck

/-- Scenes that agree in all but their states, which are related, and in how many identifiers were
counted. -/
structure Scene.Alike {ρ σ : Type} (same : ρ → σ → Prop) (scene : Scene ρ) (other : Scene σ) :
    Prop where
  now : scene.now = other.now
  raised : scene.raised = other.raised
  task : scene.task = other.task
  given : scene.ids.given = other.ids.given
  warnings : scene.warnings = other.warnings
  rest : same scene.rest other.rest

/-- Two ends that cannot be told apart, as far as the relations go. -/
inductive EndAlike {ρ σ α β : Type} (scenes : Scene ρ → Scene σ → Prop) (values : α → β → Prop) :
    EStateM.Result Failure (Scene ρ) α → EStateM.Result Failure (Scene σ) β → Prop
  | returned {value : α} {other : β} {after : Scene ρ} {later : Scene σ}
      (same : values value other) (alike : scenes after later) :
      EndAlike scenes values (.ok value after) (.ok other later)
  | failed {failure : Failure} {after : Scene ρ} {later : Scene σ} (alike : scenes after later) :
      EndAlike scenes values (.error failure after) (.error failure later)

namespace Scene.Alike

variable {ρ σ : Type} {same : ρ → σ → Prop} {scene : Scene ρ} {other : Scene σ}

theorem isCancelled (alike : scene.Alike same other) (signal : Option Signal) :
    scene.isCancelled signal = other.isCancelled signal := by
  simp only [Scene.isCancelled]
  congr 1
  funext signal
  rw [Scene.isRaised, alike.raised, Scene.isRaised]

theorem withRest {π κ : Type} {wider : π → κ → Prop} (alike : scene.Alike same other) {rest : π}
    {rest' : κ} (kept : wider rest rest') :
    (scene.withRest rest).Alike wider (other.withRest rest') :=
  ⟨alike.now, alike.raised, alike.task, alike.given, alike.warnings, kept⟩

/-- Scenes alike to one scene are alike in all but their states. -/
theorem trans {π : Type} {step : σ → π → Prop} {later : Scene π} (first : scene.Alike same other)
    (second : other.Alike step later) : scene.Alike (fun _ _ => True) later where
  now := first.now.trans second.now
  raised := first.raised.trans second.raised
  task := first.task.trans second.task
  given := first.given.trans second.given
  warnings := first.warnings.trans second.warnings
  rest := trivial

theorem withTask (alike : scene.Alike same other) (task : CallerTask) :
    Scene.Alike same { scene with task } { other with task } :=
  ⟨alike.now, alike.raised, rfl, alike.given, alike.warnings, alike.rest⟩

end Scene.Alike

namespace Action

variable {ρ σ α β γ δ : Type} {scenes : Scene ρ → Scene σ → Prop} {same : ρ → σ → Prop}

/-- Whether two actions end alike wherever they begin alike. -/
def Alike (scenes : Scene ρ → Scene σ → Prop) (values : α → β → Prop) (left : Action ρ α)
    (right : Action σ β) : Prop :=
  ∀ ⦃scene other⦄, scenes scene other → EndAlike scenes values (left scene) (right other)

variable {values : α → β → Prop} {results : γ → δ → Prop} {left : Action ρ α} {right : Action σ β}

theorem alike_pure {value : α} {other : β} (same : values value other) :
    Alike scenes values (pure value) (pure other) :=
  fun _ _ alike => .returned same alike

theorem alike_throw (failure : Failure) :
    Alike scenes values (throw failure) (throw failure) :=
  fun _ _ alike => .failed alike

theorem alike_warn (text : String) : Alike (Scene.Alike same) Eq (warn text) (warn text) := by
  intro scene other alike
  exact .returned rfl ⟨alike.now, alike.raised, alike.task, alike.given,
    congrArg (· ++ [text]) alike.warnings, alike.rest⟩

theorem Alike.bind {next : α → Action ρ γ} {other : β → Action σ δ}
    (first : Alike scenes values left right)
    (second : ∀ ⦃value value'⦄, values value value' →
      Alike scenes results (next value) (other value')) :
    Alike scenes results (left >>= next) (right >>= other) := by
  intro scene start alike
  have ends := first alike
  rw [bind_run, bind_run]
  generalize left scene = result, right start = result' at ends
  cases ends with
  | returned same alike => exact second same alike
  | failed alike => exact .failed alike

theorem Alike.map {change : α → γ} {change' : β → δ} (alike : Alike scenes values left right)
    (keeps : ∀ ⦃value value'⦄, values value value' → results (change value) (change' value')) :
    Alike scenes results (change <$> left) (change' <$> right) := by
  intro scene other start
  have ends := alike start
  rw [map_run, map_run]
  generalize left scene = result, right other = result' at ends
  cases ends with
  | returned same alike => exact .returned (keeps same) alike
  | failed alike => exact .failed alike

/-- An action whose failure is handed on as a value. -/
def caught (action : Action ρ α) : Action ρ (Except Failure α) := fun scene =>
  match action scene with
  | .ok value after => .ok (.ok value) after
  | .error failure after => .ok (.error failure) after

theorem Alike.caught {left : Action ρ α} {right : Action σ α} (alike : Alike scenes Eq left right) :
    Alike scenes Eq left.caught right.caught := by
  intro scene other start
  have ends := alike start
  simp only [Action.caught]
  generalize left scene = result, right other = result' at ends
  cases ends with
  | returned same alike => exact .returned (congrArg Except.ok same) alike
  | failed alike => exact .returned rfl alike

theorem Alike.recover {left : Action ρ α} {right : Action σ β} {handle : Failure → Action ρ α}
    {other : Failure → Action σ β} (first : Alike scenes values left right)
    (second : ∀ failure, Alike scenes values (handle failure) (other failure)) :
    Alike scenes values (left.recover handle) (right.recover other) := by
  intro scene start alike
  have ends := first alike
  simp only [Action.recover]
  generalize left scene = result, right start = result' at ends
  cases ends with
  | returned same alike => exact .returned same alike
  | failed alike => exact second _ alike

end Action

namespace Part

variable {ρ σ π : Type}

/-- Two parts of related states that hold the same, and stay related when the same is put. -/
structure Matches (same : ρ → σ → Prop) (left : Part ρ π) (right : Part σ π) : Prop where
  get : ∀ {state other}, same state other → left.get state = right.get other
  put : ∀ {state other} (value : π), same state other →
    same (left.put value state) (right.put value other)

end Part

/-- Where two calls stand, if they cannot be told apart. -/
inductive Progress.Alike {ρ σ α : Type} (scenes : Scene ρ → Scene σ → Prop) :
    Progress ρ α → Progress σ α → Prop
  | ended (result : Except Failure α) : Alike scenes (.ended result) (.ended result)
  | selfCancelled : Alike scenes .selfCancelled .selfCancelled
  | waiting {stop : Action ρ α} {stop' : Action σ α} {abandon : Scene ρ → Scene ρ}
      {abandon' : Scene σ → Scene σ} (stops : Action.Alike scenes Eq stop stop')
      (leaves : ∀ {scene other}, scenes scene other → scenes (abandon scene) (abandon' other)) :
      Alike scenes (.waiting stop abandon) (.waiting stop' abandon')

namespace Progress.Alike

variable {ρ σ α : Type} {scenes : Scene ρ → Scene σ → Prop} {progress : Progress ρ α}
  {other : Progress σ α}

theorem hasEnded (alike : progress.Alike scenes other) : progress.hasEnded = other.hasEnded := by
  cases alike <;> rfl

theorem outcome (alike : progress.Alike scenes other) : progress.outcome = other.outcome := by
  cases alike <;> rfl

theorem leave (alike : progress.Alike scenes other) {scene : Scene ρ} {later : Scene σ}
    (scenesAlike : scenes scene later) : scenes (progress.leave scene) (other.leave later) := by
  cases alike with
  | ended result => exact scenesAlike
  | selfCancelled => exact scenesAlike
  | waiting stops leaves => exact leaves scenesAlike

end Progress.Alike

namespace Call

variable {ρ σ π α : Type} {scenes : Scene ρ → Scene σ → Prop} {same : ρ → σ → Prop}

/-- Whether two calls, begun alike, pause alike. -/
def Alike (scenes : Scene ρ → Scene σ → Prop) (left : Call ρ α) (right : Call σ α) : Prop :=
  ∀ ⦃scene other⦄, scenes scene other →
    (left.start scene).1.Alike scenes (right.start other).1 ∧
      scenes (left.start scene).2 (right.start other).2

theorem Alike.after {before : Action ρ Unit} {before' : Action σ Unit} {left : Call ρ α}
    {right : Call σ α} (first : Action.Alike scenes Eq before before')
    (second : Alike scenes left right) :
    Alike scenes (left.after before) (right.after before') := by
  intro scene other alike
  have ends := first alike
  simp only [Call.after]
  generalize before scene = result, before' other = result' at ends
  cases ends with
  | returned _ alike => exact second alike
  | failed alike => exact ⟨.ended _, alike⟩

end Call
end ClaimCheck
