import ClaimCheck.Proofs.ActionOutcome
import ClaimCheck.Transport.Desk

/-!
Actions on parts. What is put together from actions on one part is an action on that part, so a
store, and a desk with it, may be moved into any larger state.
-/
namespace ClaimCheck

/-- A part that gives back what was put last, and nothing else. -/
structure Part.Lawful {σ π : Type} (part : Part σ π) : Prop where
  get_put : ∀ value state, part.get (part.put value state) = value
  put_get : ∀ state, part.put (part.get state) state = state
  put_put : ∀ last value state, part.put last (part.put value state) = part.put last state

namespace Part

variable {σ π κ τ : Type}

theorem lawful_first : (first : Part (σ × π) σ).Lawful :=
  ⟨fun _ _ => rfl, fun _ => rfl, fun _ _ _ => rfl⟩

theorem lawful_second : (second : Part (σ × π) π).Lawful :=
  ⟨fun _ _ => rfl, fun _ => rfl, fun _ _ _ => rfl⟩

theorem Lawful.beside {part : Part σ π} (lawful : part.Lawful) :
    (part.beside : Part (τ × σ) (τ × π)).Lawful where
  get_put value state := by simp [Part.beside, lawful.get_put]
  put_get state := by simp [Part.beside, lawful.put_get]
  put_put last value state := by simp [Part.beside, lawful.put_put]

end Part

namespace Action

variable {σ π τ α β : Type} {part : Part σ π}

theorem on_eq_ok_iff {action : Action π α} {scene after : Scene σ} {value : α} :
    action.on part scene = .ok value after ↔
      ∃ last, action (scene.withRest (part.get scene.rest)) = .ok value last ∧
        after = last.withRest (part.put last.rest scene.rest) := by
  simp only [on]
  cases action (scene.withRest (part.get scene.rest)) with
  | error failure last => simp
  | ok own last =>
    constructor
    · intro ran
      cases ran
      exact ⟨last, rfl, rfl⟩
    · rintro ⟨_, ran, rfl⟩
      cases ran
      rfl

theorem on_pure (lawful : part.Lawful) (value : α) :
    (pure value : Action π α).on part = pure value := by
  funext scene
  simp [on, lawful.put_get, Scene.withRest]

private theorem on_throw (lawful : part.Lawful) (failure : Failure) :
    (throw failure : Action π α).on part = throw failure := by
  funext scene
  simp [on, lawful.put_get, Scene.withRest]

theorem on_ofExcept (lawful : part.Lawful) (result : Except Failure α) :
    (ofExcept result : Action π α).on part = ofExcept result := by
  cases result with
  | ok value => exact on_pure lawful value
  | error failure => exact on_throw lawful failure

private theorem on_ensure (lawful : part.Lawful) (condition : Bool) (failure : Failure) :
    (ensure condition failure : Action π Unit).on part = ensure condition failure := by
  funext scene
  cases condition <;> simp [ensure, on, lawful.put_get, Scene.withRest]

/-- A sequence on a part is a sequence of actions on it. -/
theorem on_bind (lawful : part.Lawful) (action : Action π α) (next : α → Action π β) :
    (action >>= next).on part = action.on part >>= fun value => (next value).on part := by
  funext scene
  simp only [on, bind_run]
  cases action (scene.withRest (part.get scene.rest)) with
  | error failure after => rfl
  | ok value after =>
    simp only [Scene.withRest, lawful.get_put]
    cases next value after <;> simp [lawful.put_put]

private theorem on_andFinally (lawful : part.Lawful) (action : Action π α) (final : Action π Unit) :
    (action.andFinally final).on part = (action.on part).andFinally (final.on part) := by
  funext scene
  simp only [on, andFinally]
  cases action (scene.withRest (part.get scene.rest)) with
  | error failure after =>
    simp only [Scene.withRest, lawful.get_put]
    cases final after <;> simp [lawful.put_put]
  | ok value after =>
    simp only [Scene.withRest, lawful.get_put]
    cases final after <;> simp [lawful.put_put]

private theorem on_within (state : τ) (action : Action (τ × π) α) :
    (action.within state).on part = (action.on part.beside).within state := by
  funext scene
  simp only [on, within, Part.beside, Scene.withRest]
  cases action _ <;> rfl

end Action

namespace StreamReader

variable {σ π τ : Type} {part : Part σ π}

private theorem collect_on (lawful : part.Lawful) (reader : StreamReader π τ) (fuel : Nat)
    (read : List Bytes) :
    (reader.on part).collect fuel read = (reader.collect fuel read).on part.beside := by
  induction fuel generalizing read with
  | zero => exact (Action.on_throw lawful.beside _).symm
  | succ fuel ih =>
    simp only [collect, Action.on_bind lawful.beside]
    congr
    funext piece
    split
    · exact (Action.on_pure lawful.beside _).symm
    · exact ih _

private theorem drain_on (lawful : part.Lawful) (reader : StreamReader π τ) :
    (reader.on part).drain = reader.drain.on part.beside := by
  rw [drain, drain, Action.on_andFinally lawful.beside]
  congr
  simp only [readAll, Action.on_bind lawful.beside, ← collect_on lawful]
  funext scene
  simp [Action.on, Action.bind_run, Part.beside, lawful.put_get, Scene.withRest]
  rfl

end StreamReader

namespace Store

variable {σ π τ : Type} {part : Part σ π}

private theorem fetch_on (lawful : part.Lawful) (store : Store π τ) (reference : Option String)
    (signal : Option Signal) :
    (store.on part).fetch reference signal = (store.fetch reference signal).on part := by
  simp only [fetch, Action.on_bind lawful, Action.on_within, ← StreamReader.drain_on lawful]
  rfl

end Store

namespace Policy

variable {σ π τ : Type} {part : Part σ π}

private theorem prepare_on (lawful : part.Lawful) (policy : Policy) (store : Store π τ)
    (envelope : Envelope) (signal : Option Signal) :
    policy.prepare (some (store.on part)) (some envelope) none signal =
      (policy.prepare (some store) (some envelope) none signal).on part := by
  simp only [prepare]
  split
  · exact (Action.on_pure lawful _).symm
  · rw [Action.on_bind lawful]
    congr
    funext reference
    cases reference with
    | none => exact (Action.on_throw lawful _).symm
    | some reference =>
      simp only [Action.on_bind lawful, Action.on_ensure lawful, Action.on_pure lawful]

private theorem resolve_on (lawful : part.Lawful) (store : Store π τ) (envelope : Envelope)
    (signal : Option Signal) :
    resolve (some (store.on part)) (some envelope) signal =
      (resolve (some store) (some envelope) signal).on part := by
  simp only [resolve_eq]
  split
  · cases envelope.reference? with
    | none => exact (Action.on_throw lawful _).symm
    | some reference =>
      simp only [Action.on_bind lawful, Action.on_ofExcept lawful, Action.on_pure lawful,
        Store.fetch_on lawful]
  · exact (Action.on_pure lawful _).symm

end Policy

namespace Desk

variable {σ π τ : Type} {part : Part σ π}

/-- The same desk over a larger state. -/
def on (part : Part σ π) : Desk π τ → Desk σ τ
  | .vacant => .vacant
  | .staffed policy store => .staffed policy (store.on part)

theorem outbound_on (lawful : part.Lawful) (desk : Desk π τ) (envelope : Envelope)
    (signal : Option Signal) :
    (desk.on part).outbound envelope signal = (desk.outbound envelope signal).on part := by
  cases desk with
  | vacant => exact (Action.on_pure lawful envelope).symm
  | staffed policy store => exact Policy.prepare_on lawful policy store envelope signal

theorem inbound_on (lawful : part.Lawful) (desk : Desk π τ) (envelope : Envelope)
    (signal : Option Signal) :
    (desk.on part).inbound envelope signal = (desk.inbound envelope signal).on part := by
  cases desk with
  | vacant => exact (Action.on_pure lawful envelope).symm
  | staffed policy store => exact Policy.resolve_on lawful store envelope signal

end Desk
end ClaimCheck
