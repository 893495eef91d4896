import ClaimCheck.Proofs.ActionOutcome
import ClaimCheck.Store.Basic

/-!
Actions that keep a journal. The journal lies beside the state of a plain action; an action that
keeps it does what the plain one does, and writes down what happened.
-/
namespace ClaimCheck

/-- What an action ends with. -/
def Action.outcome {ρ α : Type} (action : Action ρ α) (scene : Scene ρ) : Except Failure α :=
  match action scene with
  | .ok value _ => .ok value
  | .error failure _ => .error failure

/-- Where a journal lies beside a plain state. -/
structure Ledger (ε π σ : Type) where
  join : List ε → π → σ
  journal : σ → List ε
  plain : σ → π
  journal_join : ∀ entries state, journal (join entries state) = entries
  plain_join : ∀ entries state, plain (join entries state) = state

namespace Ledger

variable {ε π σ τ α β : Type}

def pair : Ledger ε π (List ε × π) := ⟨Prod.mk, Prod.fst, Prod.snd, fun _ _ => rfl, fun _ _ => rfl⟩

/-- The same journal where the plain state has something next to it. -/
def beside (ledger : Ledger ε π σ) : Ledger ε (τ × π) (τ × σ) where
  join entries state := (state.1, ledger.join entries state.2)
  journal state := ledger.journal state.2
  plain state := (state.1, ledger.plain state.2)
  journal_join entries state := ledger.journal_join entries state.2
  plain_join entries state := congrArg (Prod.mk state.1) (ledger.plain_join entries state.2)

variable (ledger : Ledger ε π σ)

/-- A scene with a journal. -/
def opened (entries : List ε) (scene : Scene π) : Scene σ :=
  scene.withRest (ledger.join entries scene.rest)

/-- The end of a plain action, with a journal. -/
def closed (entries : List ε) :
    EStateM.Result Failure (Scene π) α → EStateM.Result Failure (Scene σ) α
  | .ok value after => .ok value (ledger.opened entries after)
  | .error failure after => .error failure (ledger.opened entries after)

@[simp] theorem closed_ok (entries : List ε) (value : α) (after : Scene π) :
    ledger.closed entries (.ok value after) = .ok value (ledger.opened entries after) := rfl

@[simp] theorem closed_error (entries : List ε) (failure : Failure) (after : Scene π) :
    (ledger.closed entries (.error failure after) : EStateM.Result Failure (Scene σ) α) =
      .error failure (ledger.opened entries after) := rfl

/-- What stands in the journal when an action has ended. -/
def written : EStateM.Result Failure (Scene σ) α → List ε
  | .ok _ after => ledger.journal after.rest
  | .error _ after => ledger.journal after.rest

theorem written_closed (entries : List ε) (result : EStateM.Result Failure (Scene π) α) :
    ledger.written (ledger.closed entries result) = entries := by
  cases result <;> exact ledger.journal_join entries _

/-- A plain action whose end is written down. -/
def record (entry : Except Failure α → ε) (action : Action π α) : Action σ α := fun scene =>
  let plain := scene.withRest (ledger.plain scene.rest)
  ledger.closed (ledger.journal scene.rest ++ [entry (action.outcome plain)]) (action plain)

/-- Whether an action does what a plain one does, and writes down what is noted of each run. -/
def Keeps (action : Action σ α) (plain : Action π α) (notes : Scene π → List ε) : Prop :=
  ∀ entries scene, action (ledger.opened entries scene) =
    ledger.closed (entries ++ notes scene) (plain scene)

variable {ledger} {action : Action σ α} {plain : Action π α} {notes : Scene π → List ε}

theorem keeps_record (entry : Except Failure α → ε) (action : Action π α) :
    ledger.Keeps (ledger.record entry action) action fun scene =>
      [entry (action.outcome scene)] := by
  intro entries scene
  simp only [record, opened, Scene.withRest, ledger.journal_join, ledger.plain_join]

private theorem keeps_ofExcept (result : Except Failure α) :
    ledger.Keeps (Action.ofExcept result) (Action.ofExcept result) fun _ => [] := by
  intro entries scene
  cases result <;> simp

theorem keeps_pure (value : α) : ledger.Keeps (pure value) (pure value) fun _ => [] :=
  keeps_ofExcept (.ok value)

theorem keeps_throw (failure : Failure) :
    ledger.Keeps (throw failure : Action σ α) (throw failure) fun _ => [] :=
  keeps_ofExcept (.error failure)

/-- What is noted of a sequence: what is noted of its first part, and then of the second if there is
one. -/
def follow (plain : Action π α) (notes : Scene π → List ε) (next : α → Scene π → List ε)
    (scene : Scene π) : List ε :=
  notes scene ++
    match plain scene with
    | .ok value after => next value after
    | .error _ _ => []

/-- Nothing is noted of a part that writes nothing down. -/
@[simp] theorem follow_silent (plain : Action π α) (notes : Scene π → List ε) :
    follow plain notes (fun _ _ => []) = notes := by
  funext scene
  rw [follow]
  cases plain scene <;> exact List.append_nil _

theorem Keeps.bind {next : α → Action σ β} {plainNext : α → Action π β}
    {later : α → Scene π → List ε} (first : ledger.Keeps action plain notes)
    (second : ∀ value, ledger.Keeps (next value) (plainNext value) (later value)) :
    ledger.Keeps (action >>= next) (plain >>= plainNext) (follow plain notes later) := by
  intro entries scene
  rw [Action.bind_run, first entries scene, Action.bind_run, follow]
  cases plain scene with
  | error failure after => simp
  | ok value after =>
    rw [← List.append_assoc]
    exact second value (entries ++ notes scene) after

theorem Keeps.andFinally {final : Action σ Unit} {plainFinal : Action π Unit}
    {later : Scene π → List ε} (first : ledger.Keeps action plain notes)
    (second : ledger.Keeps final plainFinal later) :
    ledger.Keeps (action.andFinally final) (plain.andFinally plainFinal) fun scene =>
      notes scene ++ later (plain.sceneAfter scene) := by
  intro entries scene
  simp only [Action.andFinally, first entries scene, Action.sceneAfter, ← List.append_assoc]
  cases plain scene with
  | error failure after =>
    simp only [closed_error]
    rw [second]
    cases plainFinal after <;> rfl
  | ok value after =>
    simp only [closed_ok]
    rw [second]
    cases plainFinal after <;> rfl

theorem Keeps.within {action : Action (τ × σ) α} {plain : Action (τ × π) α}
    {notes : Scene (τ × π) → List ε} (kept : ledger.beside.Keeps action plain notes) (state : τ) :
    ledger.Keeps (action.within state) (plain.within state) fun scene =>
      notes (scene.withRest (state, scene.rest)) := by
  intro entries scene
  have inner := kept entries (scene.withRest (state, scene.rest))
  simp only [opened, Scene.withRest, beside] at inner
  simp only [Action.within, opened, Scene.withRest, inner]
  cases plain { scene with rest := (state, scene.rest) } <;> rfl

/-- To keep a journal without writing anything down is to leave it as it is. -/
theorem keeps_silent_iff : (ledger.Keeps action plain fun _ => []) ↔
    ∀ entries scene, action (ledger.opened entries scene) = ledger.closed entries (plain scene) := by
  simp only [Keeps, List.append_nil]

theorem Keeps.recover {handle : Failure → Action σ α} {plainHandle : Failure → Action π α}
    (first : ledger.Keeps action plain fun _ => [])
    (second : ∀ failure, ledger.Keeps (handle failure) (plainHandle failure) fun _ => []) :
    ledger.Keeps (action.recover handle) (plain.recover plainHandle) fun _ => [] := by
  refine keeps_silent_iff.mpr fun entries scene => ?_
  simp only [Action.recover, keeps_silent_iff.mp first]
  cases plain scene with
  | ok value after => rfl
  | error failure after => exact keeps_silent_iff.mp (second failure) entries after

section

variable {entries : List ε} {scene after : Scene π}

theorem Keeps.silent_ok (kept : ledger.Keeps action plain fun _ => []) {value : α}
    (ran : plain scene = .ok value after) :
    action (ledger.opened entries scene) = .ok value (ledger.opened entries after) := by
  rw [keeps_silent_iff.mp kept, ran, closed_ok]

theorem Keeps.silent_error (kept : ledger.Keeps action plain fun _ => []) {failure : Failure}
    (failed : plain scene = .error failure after) :
    action (ledger.opened entries scene) = .error failure (ledger.opened entries after) := by
  rw [keeps_silent_iff.mp kept, failed, closed_error]

end

/-- The plain state as a part of the one with a journal. -/
def part (ledger : Ledger ε π σ) : Part σ π :=
  ⟨ledger.plain, fun state both => ledger.join (ledger.journal both) state⟩

theorem get_part (ledger : Ledger ε π σ) (entries : List ε) (scene : Scene π) :
    (ledger.opened entries scene).withRest
      (ledger.part.get (ledger.opened entries scene).rest) = scene := by
  simp only [opened, part, Scene.withRest, ledger.plain_join]

theorem put_part (ledger : Ledger ε π σ) (entries : List ε) (scene after : Scene π) :
    after.withRest (ledger.part.put after.rest (ledger.opened entries scene).rest) =
      ledger.opened entries after := by
  simp only [opened, part, Scene.withRest, ledger.journal_join]

/-- Nothing is noted of an action on the plain state. -/
theorem keeps_on (action : Action π α) :
    ledger.Keeps (action.on ledger.part) action fun _ => [] := by
  refine keeps_silent_iff.mpr fun entries scene => ?_
  simp only [Action.on, get_part]
  cases action scene <;> simp only [put_part, closed_ok, closed_error]

end Ledger
end ClaimCheck
