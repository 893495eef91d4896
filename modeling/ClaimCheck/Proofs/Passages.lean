import ClaimCheck.Proofs.BusRuns
import ClaimCheck.Proofs.Journals

/-!
The way of a message through a transport, whatever checks claims on it. A message is packed and sent
out, or it is held back by the first of these steps that fails; nothing of this depends on whether
something else is written down beside it.
-/
namespace ClaimCheck

theorem Desk.passage_on {σ π τ : Type} {part : Part σ π} (lawful : part.Lawful) (desk : Desk π τ) :
    (desk.on part).passage = desk.passage.on part := by
  have out : (desk.on part).outbound = (desk.passage.on part).outbound := by
    funext envelope signal
    exact desk.outbound_on lawful envelope signal
  have back : (desk.on part).inbound = (desk.passage.on part).inbound := by
    funext envelope signal
    exact desk.inbound_on lawful envelope signal
  rw [Desk.passage, out, back]

namespace Passage

variable {ρ : Type}

/-- The envelope that is made of a message, and the one that is transmitted for it. -/
inductive Departs (passage : Passage ρ) (outgoing : Outgoing) (signal : Option Signal)
    (scene : Scene ρ) (envelope transmitted : Envelope) (sent : Scene ρ) : Prop
  | intro {packed : Scene ρ} (made : outgoing.pack scene = .ok envelope packed)
      (transmits : passage.outbound envelope signal packed = .ok transmitted sent)

/-- Why nothing is transmitted for a message. -/
inductive HeldBack (passage : Passage ρ) (outgoing : Outgoing) (signal : Option Signal)
    (scene : Scene ρ) (failure : Failure) (after : Scene ρ) : Prop
  | unpacked (failed : outgoing.pack scene = .error failure after)
  | unsent {envelope : Envelope} {packed : Scene ρ}
      (made : outgoing.pack scene = .ok envelope packed)
      (failed : passage.outbound envelope signal packed = .error failure after)

/-- The envelope that is made of a message, and the one that is received for it in the end. -/
inductive Arrives (passage : Passage ρ) (outgoing : Outgoing) (signal : Option Signal)
    (scene : Scene ρ) (envelope received : Envelope) (after : Scene ρ) : Prop
  | intro {transmitted : Envelope} {sent : Scene ρ}
      (departs : passage.Departs outgoing signal scene envelope transmitted sent)
      (handed : passage.inbound transmitted signal sent = .ok received after)

/-- A message departs, or it is held back. -/
theorem departs_or_heldBack (passage : Passage ρ) (outgoing : Outgoing) (signal : Option Signal)
    (scene : Scene ρ) :
    (∃ envelope transmitted sent,
      passage.Departs outgoing signal scene envelope transmitted sent) ∨
      ∃ failure after, passage.HeldBack outgoing signal scene failure after := by
  cases made : outgoing.pack scene with
  | error failure after => exact .inr ⟨failure, after, .unpacked made⟩
  | ok envelope packed =>
    cases transmits : passage.outbound envelope signal packed with
    | error failure after => exact .inr ⟨failure, after, .unsent made transmits⟩
    | ok transmitted sent => exact .inl ⟨envelope, transmitted, sent, .intro made transmits⟩

section

variable {passage : Passage ρ} {outgoing : Outgoing} {signal : Option Signal}
  {scene sent after : Scene ρ} {envelope transmitted : Envelope} {failure : Failure}

theorem Departs.not_heldBack
    (departs : passage.Departs outgoing signal scene envelope transmitted sent) :
    ¬ passage.HeldBack outgoing signal scene failure after := by
  obtain ⟨made, transmits⟩ := departs
  rintro (failed | ⟨again, failed⟩)
  · cases made.symm.trans failed
  · cases made.symm.trans again
    cases transmits.symm.trans failed

/-- What letting out leaves alone is as it was when a message is held back. -/
theorem HeldBack.leaves {κ : Type} {view : ρ → κ}
    (held : passage.HeldBack outgoing signal scene failure after)
    (left : ∀ envelope signal, Action.Leaves view (passage.outbound envelope signal)) :
    view after.rest = view scene.rest := by
  have packing := outgoing.pack_leaves view
  cases held with
  | unpacked failed => exact packing.of_error failed
  | unsent made failed => exact ((left _ _).of_error failed).trans (packing.of_ok made)

end

end Passage

namespace Outgoing

/-- Packing has nothing to do with the rest of a scene. -/
theorem pack_on {σ π : Type} {part : Part σ π} (lawful : part.Lawful) (outgoing : Outgoing) :
    (outgoing.pack : Action π Envelope).on part = outgoing.pack := by
  funext scene
  simp only [Action.on, pack_run, Scene.withRest]
  cases outgoing.packed scene.ids.nextForMessage.1 scene.now <;> simp [lawful.put_get]

private theorem pack_keeps {ε π σ : Type} {ledger : Ledger ε π σ} (outgoing : Outgoing) :
    ledger.Keeps outgoing.pack outgoing.pack fun _ => [] := by
  refine Ledger.keeps_silent_iff.mpr fun entries scene => ?_
  have same : outgoing.packed (ledger.opened entries scene).ids.nextForMessage.1
      (ledger.opened entries scene).now = outgoing.packed scene.ids.nextForMessage.1 scene.now := rfl
  rw [pack_run, pack_run, same]
  cases outgoing.packed scene.ids.nextForMessage.1 scene.now <;> rfl

end Outgoing

namespace Passage

variable {ε ρ σ : Type} {ledger : Ledger ε ρ σ} {passage : Passage ρ} {outgoing : Outgoing}
  {signal : Option Signal} {scene after : Scene ρ} {failure : Failure}
  {envelope transmitted received : Envelope} {entries : List ε}

private theorem outbound_keeps (passage : Passage ρ) (envelope : Envelope)
    (signal : Option Signal) :
    ledger.Keeps ((passage.on ledger.part).outbound envelope signal)
      (passage.outbound envelope signal) fun _ => [] :=
  Ledger.keeps_on _

theorem inbound_keeps (passage : Passage ρ) (envelope : Envelope) (signal : Option Signal) :
    ledger.Keeps ((passage.on ledger.part).inbound envelope signal)
      (passage.inbound envelope signal) fun _ => [] :=
  Ledger.keeps_on _

theorem Departs.beside (departs : passage.Departs outgoing signal scene envelope transmitted after) :
    (passage.on ledger.part).Departs outgoing signal (ledger.opened entries scene) envelope
      transmitted (ledger.opened entries after) := by
  cases departs with
  | intro made transmits =>
    exact .intro (outgoing.pack_keeps.silent_ok made)
      ((passage.outbound_keeps _ _).silent_ok transmits)

theorem Arrives.beside (arrives : passage.Arrives outgoing signal scene envelope received after) :
    (passage.on ledger.part).Arrives outgoing signal (ledger.opened entries scene) envelope
      received (ledger.opened entries after) := by
  cases arrives with
  | intro departs handed =>
    exact .intro departs.beside ((passage.inbound_keeps _ _).silent_ok handed)

theorem HeldBack.beside (held : passage.HeldBack outgoing signal scene failure after) :
    (passage.on ledger.part).HeldBack outgoing signal (ledger.opened entries scene) failure
      (ledger.opened entries after) := by
  cases held with
  | unpacked failed => exact .unpacked (outgoing.pack_keeps.silent_error failed)
  | unsent made failed =>
    exact .unsent (outgoing.pack_keeps.silent_ok made)
      ((passage.outbound_keeps _ _).silent_error failed)

end Passage

namespace Bus

variable {η ρ : Type}

/-- The scene after an envelope is recorded as transmitted. -/
def recorded (transmitted : Envelope) (sent : Scene (Bus η × ρ)) : Scene (Bus η × ρ) :=
  sent.withRest (sent.rest.1.record transmitted, sent.rest.2)

/-- The envelope that a publication has received in the end, and the scene in which it looks for live
subscriptions. -/
inductive Receives (passage : Passage (Bus η × ρ)) (outgoing : Outgoing) (signal : Option Signal)
    (scene : Scene (Bus η × ρ)) (received : Envelope) (reached : Scene (Bus η × ρ)) : Prop
  | intro {envelope transmitted : Envelope} {sent : Scene (Bus η × ρ)}
      (spoken : outgoing.message.isNull = false)
      (departs : passage.Departs outgoing signal scene envelope transmitted sent)
      (handed : passage.inbound transmitted signal (recorded transmitted sent) =
        .ok received reached)

section

variable {passage : Passage (Bus η × ρ)} {outgoing : Outgoing} {signal : Option Signal}
  {scene sent after reached : Scene (Bus η × ρ)} {failure : Failure}
  {envelope transmitted received : Envelope} {live : List (Subscription × η)}

theorem transfer_of_null (null : outgoing.message.isNull = true) :
    transfer passage outgoing signal scene = .error (.misuse .noMessage) scene := by
  have refused : Action.ensure (!outgoing.message.isNull) (.misuse .noMessage) scene =
      .error (.misuse .noMessage) scene := by simp [Action.ensure, null]
  rw [transfer, Action.bind_of_error refused]

private theorem isSpoken_run (spoken : outgoing.message.isNull = false) :
    Action.ensure (!outgoing.message.isNull) (.misuse .noMessage) scene = .ok () scene :=
  Action.ensure_eq_ok.mpr ⟨by rw [spoken, Bool.not_false], rfl⟩

theorem transfer_of_heldBack (spoken : outgoing.message.isNull = false)
    (held : passage.HeldBack outgoing signal scene failure after) :
    transfer passage outgoing signal scene = .error failure after := by
  rw [transfer, Action.bind_of_ok (isSpoken_run spoken)]
  cases held with
  | unpacked failed => exact Action.bind_of_error failed _
  | unsent made failed =>
    rw [Action.bind_of_ok made]
    exact Action.bind_of_error failed _

theorem transfer_of_unreceived (spoken : outgoing.message.isNull = false)
    (departs : passage.Departs outgoing signal scene envelope transmitted sent)
    (failed : passage.inbound transmitted signal (recorded transmitted sent) =
      .error failure after) :
    transfer passage outgoing signal scene = .error failure after := by
  obtain ⟨made, transmits⟩ := departs
  rw [transfer, Action.bind_of_ok (isSpoken_run spoken), Action.bind_of_ok made,
    Action.bind_of_ok transmits]
  exact Action.bind_of_error failed _

theorem transfer_of_receives (receives : Receives passage outgoing signal scene received reached) :
    transfer passage outgoing signal scene = .ok (reached.rest.1.live, received) reached := by
  obtain ⟨spoken, ⟨made, transmits⟩, handed⟩ := receives
  rw [transfer, Action.bind_of_ok (isSpoken_run spoken), Action.bind_of_ok made,
    Action.bind_of_ok transmits]
  exact Action.bind_of_ok handed _

theorem transfer_eq_ok_iff :
    transfer passage outgoing signal scene = .ok (live, received) reached ↔
      Receives passage outgoing signal scene received reached ∧ live = reached.rest.1.live := by
  constructor
  · intro ran
    obtain ⟨_, _, free, ran⟩ := Action.bind_eq_ok.mp ran
    obtain ⟨spoken, rfl⟩ := Action.ensure_eq_ok.mp free
    obtain ⟨envelope, _, made, ran⟩ := Action.bind_eq_ok.mp ran
    obtain ⟨transmitted, sent, transmits, ran⟩ := Action.bind_eq_ok.mp ran
    obtain ⟨_, _, noted, ran⟩ := Action.bind_eq_ok.mp ran
    cases noted
    obtain ⟨_, _, handed, ran⟩ := Action.bind_eq_ok.mp ran
    cases ran
    exact ⟨.intro (by simpa using spoken) (.intro made transmits) handed, rfl⟩
  · rintro ⟨receives, rfl⟩
    exact transfer_of_receives receives

end

/-- By way of a passage that does not know the bus, the envelope is recorded, and that is all that
becomes of the bus. -/
theorem receives_second_iff {passage : Passage ρ} {outgoing : Outgoing} {signal : Option Signal}
    {scene reached : Scene (Bus η × ρ)} {received : Envelope} :
    Receives (passage.on .second) outgoing signal scene received reached ↔
      outgoing.message.isNull = false ∧ ∃ envelope transmitted sent after,
        passage.Departs outgoing signal (scene.withRest scene.rest.2) envelope transmitted sent ∧
        passage.inbound transmitted signal sent = .ok received after ∧
        reached = after.withRest (scene.rest.1.record transmitted, after.rest) := by
  constructor
  · rintro ⟨spoken, ⟨made, transmits⟩, handed⟩
    rw [← outgoing.pack_on Part.lawful_second] at made
    obtain ⟨packed, packs, rfl⟩ := Action.on_eq_ok_iff.mp made
    obtain ⟨sent, sends, rfl⟩ := Action.on_eq_ok_iff.mp transmits
    obtain ⟨after, hands, rfl⟩ := Action.on_eq_ok_iff.mp handed
    exact ⟨spoken, _, _, sent, after, .intro packs sends, hands, rfl⟩
  · rintro ⟨spoken, envelope, transmitted, sent, after, ⟨packs, sends⟩, hands, rfl⟩
    have made : (outgoing.pack.on .second : Action (Bus η × ρ) Envelope) scene = _ :=
      Action.on_eq_ok_iff.mpr ⟨_, packs, rfl⟩
    rw [outgoing.pack_on Part.lawful_second] at made
    exact .intro spoken (.intro made (Action.on_eq_ok_iff.mpr ⟨sent, sends, rfl⟩))
      (Action.on_eq_ok_iff.mpr ⟨after, hands, rfl⟩)

end Bus
end ClaimCheck
