import ClaimCheck.Proofs.ActionFrame
import ClaimCheck.Proofs.ActionParts
import ClaimCheck.Transport.Bus

/-!
Runs of a bus: subscriptions, closings, publications and clearings, one after the other, and what
each of them comes to. The calls of handlers are written down as they begin.
-/
namespace ClaimCheck

/-- A call of a handler, as it begins. -/
structure Heard (η : Type) where
  handler : η
  message : Value
  context : Context

/-- The scene in which the next message gets the identifier. -/
def Scene.identified {ρ : Type} (id : String) (scene : Scene ρ) : Scene ρ :=
  { scene with ids := { scene.ids with given := id :: scene.ids.given } }

theorem Message.serialize_true :
    Message.serialize (.bool true) = .ok (Text.Utf8.encode "true") := by
  simp [Message.serialize, Message.serializeWithin, Json.write, Json.writeValue, Except.map]

namespace Outgoing

/-- The envelope of a message that is packed under an identifier at an instant. -/
def packed (outgoing : Outgoing) (id : String) (now : Instant) : Except Failure Envelope := do
  let body ← Message.serialize outgoing.message
  let headers ← Mapping.ofJson outgoing.givenHeaders
  let sentAt := match outgoing.sentAt with
    | some moment => .typed moment
    | none => .absent
  (Envelope.ofDraft now
    ⟨some (.text id), outgoing.correlationId, sentAt, .typed body, some headers⟩).mapError
      Envelope.DraftError.failure

/-- Packing takes an identifier, and changes nothing else. -/
theorem pack_run {ρ : Type} (outgoing : Outgoing) (scene : Scene ρ) :
    outgoing.pack scene =
      Action.ofExcept (outgoing.packed scene.ids.nextForMessage.1 scene.now)
        { scene with ids := scene.ids.nextForMessage.2 } := by
  simp only [pack, Action.bind_run, Action.freshMessageId, packed]
  cases Message.serialize outgoing.message with
  | error failure => rfl
  | ok body =>
    cases Mapping.ofJson outgoing.givenHeaders with
    | error failure => rfl
    | ok headers => rfl

private theorem pack_identified {ρ : Type} (outgoing : Outgoing) (id : String) (scene : Scene ρ) :
    outgoing.pack (scene.identified id) =
      Action.ofExcept (outgoing.packed id scene.now) scene := by
  rw [pack_run]
  rfl

section

variable {ρ : Type} {outgoing : Outgoing} {id : String} {scene : Scene ρ}

theorem pack_of_packed {envelope : Envelope} (packed : outgoing.packed id scene.now = .ok envelope) :
    outgoing.pack (scene.identified id) = .ok envelope scene :=
  (outgoing.pack_identified id scene).trans (Action.ofExcept_eq_ok.mpr ⟨packed, rfl⟩)

theorem pack_of_unpacked {failure : Failure}
    (unpacked : outgoing.packed id scene.now = .error failure) :
    outgoing.pack (scene.identified id) = .error failure scene :=
  (outgoing.pack_identified id scene).trans (Action.ofExcept_eq_error.mpr ⟨unpacked, rfl⟩)

end

/-- What a small message is packed into. -/
theorem packed_true {id : String} (shown : Text.blank id = false) (now : Instant) :
    (ofMessage (.bool true)).packed id now =
      .ok ⟨id, none, now, Text.Utf8.encode "true", ∅, shown⟩ := by
  have given : id.isEmpty = false := by
    cases empty : id.isEmpty with
    | false => rfl
    | true =>
      obtain rfl := String.isEmpty_iff.mp empty
      cases shown
  have text : Field.nonEmptyText (.text id) = .ok id := by
    change (if id.isEmpty then _ else _) = _
    rw [given]
    rfl
  have named : Envelope.readMessageId (.text id) = .ok ⟨id, shown⟩ := by
    rw [Envelope.readMessageId, text]
    exact dif_pos shown
  simp only [packed, ofMessage, Message.serialize_true, Envelope.ofDraft, Field.required, named]
  rfl

theorem pack_leaves {ρ κ : Type} (view : ρ → κ) (outgoing : Outgoing) :
    Action.Leaves view outgoing.pack := by
  intro scene
  rw [Action.sceneAfter, pack_run]
  cases outgoing.packed scene.ids.nextForMessage.1 scene.now <;> rfl

end Outgoing

/-- Who was called, and with what message. -/
def Heard.call {η : Type} (heard : Heard η) : η × Value :=
  (heard.handler, heard.message)

/-- The truth value that a message is, if it is one. -/
def Value.truth? : Value → Option Bool
  | .bool b => some b
  | _ => none

private theorem Value.truth?_eq_some {message : Value} {b : Bool}
    (same : message.truth? = some b) : message = .bool b := by
  cases message with
  | bool _ => exact congrArg Value.bool (Option.some.inj same)
  | _ => cases same

/-- Messages cannot be compared, but truth values can. -/
theorem calls_of_truths {η : Type} {calls : List (η × Value)} {told : List (η × Bool)}
    (same : calls.map (Prod.map id Value.truth?) = told.map (Prod.map id some)) :
    calls = told.map (Prod.map id Value.bool) := by
  induction told generalizing calls with
  | nil => simpa using same
  | cons first rest ih =>
    cases calls with
    | nil => cases same
    | cons call calls =>
      obtain ⟨head, tail⟩ := List.cons.inj same
      obtain ⟨handler, message⟩ := Prod.mk.inj head
      rw [List.map_cons, ← ih tail]
      exact congrArg (· :: calls) (Prod.ext handler (Value.truth?_eq_some message))

namespace Bus

variable {η ρ τ : Type}

theorem publishBy_run (passage : Passage (Bus η × ρ)) (deliver : Delivery η ρ)
    (outgoing : Outgoing) (signal : Option Signal) (scene : Scene (Bus η × ρ)) :
    publishBy passage deliver outgoing signal scene =
      match transfer passage outgoing signal scene with
      | .ok (live, received) after =>
        deliverAll deliver signal outgoing.message live received.context after
      | .error failure after => .error failure after := by
  rw [publishBy, Action.bind_run]
  cases transfer passage outgoing signal scene <;> rfl

/-- Only what was subscribed can be closed. -/
def closeIssued (bus : Bus η) (subscription : Subscription) : Bus η :=
  if subscription < bus.issued then bus.close subscription else bus

/-- What an application may do with a bus; the next envelope gets the identifier that a publication
comes with. -/
inductive Step (η : Type)
  | subscribe (handler : Option η)
  | close (subscription : Subscription)
  | clear
  | publish (id : String) (outgoing : Outgoing) (signal : Option Signal)
  /-- Time goes on. -/
  | pass (now : Instant)

/-- Publish under an identifier given beforehand. -/
def publishAs (desk : Desk ρ τ) (deliver : Delivery η ρ) (id : String) (outgoing : Outgoing)
    (signal : Option Signal) : Action (Bus η × ρ) Unit := fun scene =>
  publish desk deliver outgoing signal (scene.identified id)

/-- Take a step. A subscription that is made is returned. -/
def Step.perform (desk : Desk ρ τ) (deliver : Delivery η ρ) :
    Step η → Action (Bus η × ρ) (Option Subscription)
  | .subscribe handler => some <$> Bus.subscribe handler
  | .close subscription => do
    Action.update fun state => (state.1.closeIssued subscription, state.2)
    return none
  | .clear => do
    Action.update fun state => (state.1.clear, state.2)
    return none
  | .publish id outgoing signal => do
    publishAs desk deliver id outgoing signal
    return none
  | .pass now => fun scene => .ok none { scene with now }

/-- A step that was taken, with what it was taken in, gave and left. -/
structure Event (η ρ : Type) where
  step : Step η
  before : Scene (Bus η × ρ)
  outcome : Except Failure (Option Subscription)
  after : Scene (Bus η × ρ)

def Event.of (desk : Desk ρ τ) (deliver : Delivery η ρ) (step : Step η)
    (scene : Scene (Bus η × ρ)) : Event η ρ :=
  match step.perform desk deliver scene with
  | .ok made after => ⟨step, scene, .ok made, after⟩
  | .error failure after => ⟨step, scene, .error failure, after⟩

/-- The events of a run that takes the steps one after the other, whatever they come to. -/
def history (desk : Desk ρ τ) (deliver : Delivery η ρ) :
    Scene (Bus η × ρ) → List (Step η) → List (Event η ρ)
  | _, [] => []
  | scene, step :: rest =>
    let event := Event.of desk deliver step scene
    event :: history desk deliver event.after rest

/-- The scene that a run ends in. -/
def ending (desk : Desk ρ τ) (deliver : Delivery η ρ) :
    Scene (Bus η × ρ) → List (Step η) → Scene (Bus η × ρ)
  | scene, [] => scene
  | scene, step :: rest => ending desk deliver (Event.of desk deliver step scene).after rest

/-- Write a call down before it is made, in a journal that is part of what the handlers share. -/
def noting (journal : Part ρ (List (Heard η))) (deliver : Delivery η ρ) : Delivery η ρ :=
  fun handler message context => do
    Action.update fun state =>
      (state.1, journal.put (journal.get state.2 ++ [⟨handler, message, context⟩]) state.2)
    deliver handler message context

end Bus
end ClaimCheck
