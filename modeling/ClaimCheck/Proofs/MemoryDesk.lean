import ClaimCheck.Proofs.Conducts
import ClaimCheck.Proofs.InlineBodies

/-!
A desk over a store in memory. What it sends on comes back from it at once, as far as applications
see, and nothing but the store and the count of identifiers has changed.
-/
namespace ClaimCheck.Desk

variable {ρ τ : Type} {policy : Policy} {envelope : Envelope} {signal : Option Signal}

/-- An envelope that is sent and received at once, and comes back as far as applications see. -/
structure Returns (desk : Desk ρ τ) (signal : Option Signal) (envelope : Envelope) (scene : Scene ρ)
    (sent received : Envelope) (after : Scene ρ) : Prop where
  outbound : desk.outbound envelope signal scene = .ok sent after
  inbound : desk.inbound sent signal after = .ok received after
  seen : received.context.view = envelope.context.view

theorem vacant_returns (envelope : Envelope) (signal : Option Signal) (scene : Scene ρ) :
    (vacant : Desk ρ τ).Returns signal envelope scene envelope envelope scene :=
  ⟨rfl, rfl, rfl⟩

private theorem returns_of_memory (sound : policy.isSound = true)
    (inline : envelope.isExternal = false) {scene : Scene MemoryStore}
    (free : scene.isCancelled signal = false) :
    ∃ sent received after, (staffed policy MemoryStore.store).Returns signal envelope scene sent
      received after ∧ scene.Alike (fun _ _ => True) after := by
  by_cases small : envelope.body.length ≤ policy.threshold
  · have prepared := policy.prepare_small MemoryStore.store envelope none signal small scene
    have resolved := Policy.resolve_inline MemoryStore.store envelope signal inline scene
    exact ⟨envelope, envelope, scene, ⟨prepared, resolved, rfl⟩, ⟨rfl, rfl, rfl, rfl, rfl, trivial⟩⟩
  · obtain ⟨key, normal, prepared⟩ := Policy.prepare_large sound (Nat.lt_of_not_le small) free
    generalize MemoryStore.referenceFor key scene = reference at normal prepared
    generalize stored : scene.drawn.withRest (scene.rest.put reference
      ⟨policy.encode envelope.body, none⟩) = after at prepared
    have free : after.isCancelled signal = false := stored ▸ free
    have held : after.rest.entries.get? reference = some ⟨policy.encode envelope.body, none⟩ := by
      subst stored
      exact MemoryStore.get?_put_self _ _ _
    have fetched := MemoryStore.fetch_lasting (Reference.accepted_some_iff.mpr normal) free held
    have resolved := Policy.resolve_claimed none (Reference.blank_of_normalize normal) fetched
    refine ⟨_, _, after, ⟨prepared, resolved, ?_⟩, ?_⟩
    · exact congrArg (Context.View.mk _ _) (Headers.visible_claim ..)
    · subst stored
      exact ⟨rfl, rfl, rfl, rfl, rfl, trivial⟩

/-- A desk over a store in memory, next to something else. -/
def overMemory (policy : Policy) : Desk (MemoryStore × ρ) ByteStream :=
  (staffed policy MemoryStore.store).on .first

theorem returns_overMemory (sound : policy.isSound = true) (inline : envelope.isExternal = false)
    {scene : Scene (MemoryStore × ρ)} (free : scene.isCancelled signal = false) :
    ∃ sent received after, (overMemory policy).Returns signal envelope scene sent received after ∧
      scene.Alike (fun state later => state.2 = later.2) after := by
  have free : (scene.withRest scene.rest.1).isCancelled signal = false := free
  obtain ⟨sent, received, after, returns, alike⟩ := returns_of_memory sound inline free
  refine ⟨sent, received, after.withRest (after.rest, scene.rest.2), ⟨?_, ?_, returns.seen⟩, ?_⟩
  · rw [overMemory, outbound_on Part.lawful_first]
    exact Action.on_eq_ok_iff.mpr ⟨after, returns.outbound, rfl⟩
  · rw [overMemory, inbound_on Part.lawful_first]
    exact Action.on_eq_ok_iff.mpr ⟨after, returns.inbound, rfl⟩
  · exact ⟨alike.now, alike.raised, alike.task, alike.given, alike.warnings, rfl⟩

end ClaimCheck.Desk
