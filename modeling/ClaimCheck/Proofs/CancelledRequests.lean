import ClaimCheck.Proofs.MemoryDesk
import ClaimCheck.Proofs.RequestGate

/-!
Requests that are cancelled before they are sent. Their handlers are not called. The sender hears of
a timeout if the body stays in its envelope; a body for the store is refused there, and the refusal
is not turned into a reply.
-/
namespace ClaimCheck

/-- An envelope without any header of a claim. -/
def Envelope.IsPlain (envelope : Envelope) : Prop :=
  ∀ name, Headers.isReserved name = true → envelope.headers.get? name = none

theorem Envelope.IsPlain.isExternal {envelope : Envelope} (plain : envelope.IsPlain) :
    envelope.isExternal = false := by
  have unmarked : envelope.headers.get? Headers.modeName = none := plain _ (by decide)
  rw [Envelope.isExternal, unmarked]
  rfl

namespace Desk

variable {ω : Type} {policy : Policy} {envelope : Envelope} {signal : Option Signal}
  {scene : Scene (MemoryStore × ω)}

private theorem outbound_small (small : envelope.body.length ≤ policy.threshold) :
    (overMemory policy).outbound envelope signal scene = .ok envelope scene := by
  rw [overMemory, outbound_on Part.lawful_first]
  exact Action.on_eq_ok_iff.mpr ⟨_, policy.prepare_small MemoryStore.store envelope none signal small
    (scene.withRest scene.rest.1), rfl⟩

private theorem inbound_inline (inline : envelope.isExternal = false) :
    (overMemory policy).inbound envelope signal scene = .ok envelope scene := by
  rw [overMemory, inbound_on Part.lawful_first]
  exact Action.on_eq_ok_iff.mpr ⟨_, Policy.resolve_inline MemoryStore.store envelope signal inline
    (scene.withRest scene.rest.1), rfl⟩

/-- Whether a desk leaves the body of an envelope where it is. -/
def LetsPass {ρ τ : Type} (desk : Desk ρ τ) (envelope : Envelope) : Prop :=
  match desk with
  | .vacant => True
  | .staffed policy _ => envelope.body.length ≤ policy.threshold

/-- A desk without a store, or over a store in memory. -/
def IsSimple (desk : Desk (MemoryStore × ω) ByteStream) : Prop :=
  desk = .vacant ∨ ∃ policy, desk = overMemory policy

private theorem outbound_cancelled (large : policy.threshold < envelope.body.length)
    (raised : scene.isCancelled signal = true) :
    (overMemory policy).outbound envelope signal scene = .error .cancelledByCaller scene := by
  have late : (scene.withRest scene.rest.1).isCancelled signal = true := raised
  have natural : ¬ ((policy.encode envelope.body).length : Int) < 0 := by omega
  have sized : ensureSizeHint (policy.offer envelope none signal).sizeHint = .ok () := by
    simp [Policy.offer, ensureSizeHint, natural]
  have unaccepted : MemoryStore.accepts (policy.offer envelope none signal)
      ((scene.withRest scene.rest.1).isCancelled signal) = .error .cancelledByCaller := by
    rw [MemoryStore.accepts, sized, late]
    rfl
  have ran : MemoryStore.store.upload (policy.offer envelope none signal)
      (scene.withRest scene.rest.1) = .error .cancelledByCaller (scene.withRest scene.rest.1) :=
    MemoryStore.upload_of_unaccepted unaccepted
  have unsent : policy.prepare (some MemoryStore.store) (some envelope) none signal
      (scene.withRest scene.rest.1) = .error .cancelledByCaller (scene.withRest scene.rest.1) := by
    rw [Policy.prepare_eq _ _ _ large]
    exact Action.bind_of_error ran _
  rw [overMemory, outbound_on Part.lawful_first]
  have sent : (staffed policy MemoryStore.store).outbound envelope signal
    (scene.withRest scene.rest.1) = _ := unsent
  simp only [Action.on, Part.first, sent]
  rfl

end Desk

namespace Requests

variable {ω α : Type} {limit : Value} {outgoing : Outgoing} {signal : Signal}
  {scene : Scene (MemoryStore × ω)} {envelope : Envelope} {desk : Desk (MemoryStore × ω) ByteStream}

private theorem course_of_passed {handle : Value → Context → Call (MemoryStore × ω) α}
    {after : Scene (MemoryStore × ω)} (valid : Timeout.isNegative limit = .ok false)
    (made : outgoing.pack scene = .ok envelope after) (plain : envelope.IsPlain)
    (raised : after.isCancelled (some signal) = true) (simple : desk.IsSimple)
    (passes : desk.LetsPass envelope) :
    Course desk.passage limit handle outgoing (some signal) scene []
      (.ok ⟨.timeout, none, some "Request was cancelled."⟩ after) := by
  rcases simple with rfl | ⟨policy, rfl⟩
  · exact .cancelled valid (.intro (.intro made rfl) rfl) raised
  · have handed : (Desk.overMemory policy).inbound envelope (some signal) after =
        .ok envelope after := Desk.inbound_inline plain.isExternal
    exact .cancelled valid (.intro (.intro made (Desk.outbound_small passes)) handed) raised

private theorem course_of_refused {handle : Value → Context → Call (MemoryStore × ω) α}
    {after : Scene (MemoryStore × ω)} (valid : Timeout.isNegative limit = .ok false)
    (made : outgoing.pack scene = .ok envelope after)
    (raised : after.isCancelled (some signal) = true) (simple : desk.IsSimple)
    (large : ¬ desk.LetsPass envelope) :
    Course desk.passage limit handle outgoing (some signal) scene []
      (.error .cancelledByCaller after) := by
  rcases simple with rfl | ⟨policy, rfl⟩
  · exact absurd trivial large
  · exact .heldBack valid (.unsent made (Desk.outbound_cancelled (Nat.lt_of_not_le large) raised))

/-- A request that is cancelled before it is sent does not call its handler. It is answered by a
timeout exactly if its desk lets the body pass. Else it ends in the cancellation. -/
theorem cancelled_request_answered_iff (valid : Timeout.isNegative limit = .ok false)
    (packed : outgoing.packed scene.ids.nextForMessage.1 scene.now = .ok envelope)
    (plain : envelope.IsPlain) (raised : scene.isRaised signal = true) (simple : desk.IsSimple)
    (handle : Value → Context → Call (MemoryStore × ω) α) :
    let sent := send desk limit handle outgoing (some signal) scene
    let after := { scene with ids := scene.ids.nextForMessage.2 }
    (∀ entries : List Asked,
      sendBy (desk.passage.on .second) limit (noting handle) outgoing (some signal)
        (Ledger.pair.opened entries scene) = Ledger.pair.closed entries sent) ∧
    ((∃ answer last, sent = .ok answer last ∧ answer.status = .timeout) ↔
      desk.LetsPass envelope) ∧
    (desk.LetsPass envelope →
      sent = .ok ⟨.timeout, none, some "Request was cancelled."⟩ after) ∧
    (¬ desk.LetsPass envelope → sent = .error .cancelledByCaller after) := by
  intro sent after
  have made : outgoing.pack scene = .ok envelope after := by
    rw [Outgoing.pack_run, packed]
    rfl
  have late : after.isCancelled (some signal) = true := raised
  obtain ⟨result, course, comes, verdict⟩ : ∃ result,
      Course desk.passage limit handle outgoing (some signal) scene [] result ∧
      (desk.LetsPass envelope → result = .ok ⟨.timeout, none, some "Request was cancelled."⟩ after) ∧
      (¬ desk.LetsPass envelope → result = .error .cancelledByCaller after) := by
    by_cases passes : desk.LetsPass envelope
    · exact ⟨_, course_of_passed valid made plain late simple passes, fun _ => rfl,
        fun large => absurd passes large⟩
    · exact ⟨_, course_of_refused valid made late simple passes,
        fun small => absurd small passes, fun _ => rfl⟩
  have same : sent = result := course.sends
  rw [same]
  refine ⟨?_, ?_, comes, verdict⟩
  · intro entries
    simpa using course.notes entries
  · constructor
    · rintro ⟨answer, last, answered, -⟩
      by_cases passes : desk.LetsPass envelope
      · exact passes
      · cases answered.symm.trans (verdict passes)
    · intro passes
      exact ⟨_, after, comes passes, rfl⟩

/-- A sender whose signal is raised. -/
def hasty : Scene (MemoryStore × Unit) :=
  { Scene.bare (.vacant, ()) with raised := [0] }

/-- A handler that would answer at once. -/
def assenting : Value → Context → Call (MemoryStore × Unit) Value :=
  fun _ _ => .ofAction (return .bool true)

private theorem packed_hasty :
    ∃ envelope, (Outgoing.ofMessage (.bool true)).packed hasty.ids.nextForMessage.1 hasty.now =
        .ok envelope ∧
      envelope.IsPlain ∧ envelope.body.length = 4 := by
  have shown : Text.blank hasty.ids.nextForMessage.1 = false := by decide
  have short : (Text.Utf8.encode "true").length = 4 := by decide
  exact ⟨_, Outgoing.packed_true shown hasty.now, fun _ _ => rfl, short⟩

theorem small_cancelled_request_answered :
    ∃ last, send (.overMemory .default) (.int 1) assenting (.ofMessage (.bool true)) (some 0) hasty =
      .ok ⟨.timeout, none, some "Request was cancelled."⟩ last := by
  obtain ⟨envelope, packed, plain, short⟩ := packed_hasty
  have passes : (Desk.overMemory .default : Desk (MemoryStore × Unit) ByteStream).LetsPass
      envelope := by
    change envelope.body.length ≤ Policy.default.threshold
    rw [short]
    decide
  have valid : Timeout.isNegative (.int 1) = .ok false := rfl
  have raised : hasty.isRaised 0 = true := rfl
  obtain ⟨-, -, answered, -⟩ := cancelled_request_answered_iff valid packed plain raised
    (.inr ⟨.default, rfl⟩) assenting
  exact ⟨_, answered passes⟩

/-- Four bytes are many for the policy, so the sender is left without a reply. -/
theorem large_cancelled_request_unanswered :
    (∃ last, send (.overMemory eager) (.int 1) assenting (.ofMessage (.bool true)) (some 0) hasty =
        .error .cancelledByCaller last) ∧
      ¬ ∃ answer last, send (.overMemory eager) (.int 1) assenting (.ofMessage (.bool true)) (some 0)
        hasty = .ok answer last ∧ answer.status = .timeout := by
  obtain ⟨envelope, packed, -, long⟩ := packed_hasty
  have made : (Outgoing.ofMessage (.bool true)).pack hasty =
      .ok envelope { hasty with ids := hasty.ids.nextForMessage.2 } := by
    rw [Outgoing.pack_run, packed]
    rfl
  have large : ¬ (Desk.overMemory eager : Desk (MemoryStore × Unit) ByteStream).LetsPass
      envelope := by
    change ¬ envelope.body.length ≤ eager.threshold
    rw [long]
    decide
  have valid : Timeout.isNegative (.int 1) = .ok false := rfl
  have course : Course (Desk.overMemory eager).passage (.int 1) assenting
      (.ofMessage (.bool true)) (some 0) hasty [] (.error .cancelledByCaller _) :=
    course_of_refused valid made rfl (.inr ⟨eager, rfl⟩) large
  have sent : send (.overMemory eager) (.int 1) assenting (.ofMessage (.bool true)) (some 0) hasty =
    _ := course.sends
  refine ⟨⟨_, sent⟩, ?_⟩
  rintro ⟨answer, last, answered, -⟩
  cases answered.symm.trans sent

end Requests
end ClaimCheck
