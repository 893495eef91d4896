import ClaimCheck.Proofs.ClaimRoundTrip

/-!
Claims on the store in memory. A claim is made in reserved headers only; where the root of all keys
begins with a sound character, every large body is taken in, and its reference stays as it is when
it is normalized.
-/
namespace ClaimCheck

open Text

namespace Headers

/-- The headers that applications see, in their order. -/
def visible (headers : Headers) : List (String × String) :=
  headers.entries.filter fun entry => !isReserved entry.1

private theorem visible_set {name : String} (reserved : isReserved name = true) (headers : Headers)
    (value : String) : visible (headers.set name value) = visible headers := by
  obtain ⟨entries, nodup⟩ := headers
  simp only [visible, Table.set]
  induction entries with
  | nil => simp [Entries.set, reserved]
  | cons entry rest ih =>
    have ih := ih (List.nodup_cons.mp nodup).2
    by_cases same : entry.1 = name
    · simp [Entries.set, same, reserved]
    · simp [Entries.set, same, List.filter_cons, ih]

private theorem visible_erase {name : String} (reserved : isReserved name = true)
    (headers : Headers) :
    visible (headers.erase name) = visible headers := by
  simp only [visible, Table.erase, List.filter_filter]
  apply List.filter_congr
  intro entry _
  by_cases same : entry.1 = name <;> simp [same, reserved]

/-- A claim is made in reserved headers only. -/
theorem visible_claim (policy : Policy) (envelope : Envelope) (reference : String)
    (marker : Option String) :
    visible (policy.claim envelope reference marker) = visible envelope.headers := by
  simp only [Policy.claim]
  cases policy.compresses <;> cases marker <;>
    simp (disch := decide) [visible_set, visible_erase]

end Headers

namespace Envelope

/-- Whether an envelope carries the message of another one: only reserved headers may differ. -/
structure Resembles (envelope other : Envelope) : Prop where
  messageId : envelope.messageId = other.messageId
  correlationId : envelope.correlationId = other.correlationId
  sentAt : envelope.sentAt = other.sentAt
  body : envelope.body = other.body
  headers : envelope.headers.visible = other.headers.visible

theorem Resembles.refl (envelope : Envelope) : envelope.Resembles envelope :=
  ⟨rfl, rfl, rfl, rfl, rfl⟩

theorem Resembles.trans {first second third : Envelope} (left : first.Resembles second)
    (right : second.Resembles third) : first.Resembles third :=
  ⟨left.messageId.trans right.messageId, left.correlationId.trans right.correlationId,
    left.sentAt.trans right.sentAt, left.body.trans right.body, left.headers.trans right.headers⟩

end Envelope

private theorem Text.trimChars_cons {drop : Char → Bool} {c : Char} (kept : drop c = false)
    (rest : List Char) : ∃ tail, trimChars drop (c :: rest) = c :: tail := by
  simp only [trimChars, List.dropWhile_cons, kept, Bool.false_eq_true, if_false,
    List.reverse_cons, List.dropWhile_append, List.dropWhile_nil]
  split
  · exact ⟨[], rfl⟩
  · exact ⟨_, List.reverse_append⟩

/-- A text that begins with a sound character has a normal form, which begins with it too. -/
theorem Reference.normalize_of_sound {text : String} {c : Char}
    (first : text.toList.head? = some c) (sound : isSound c = true) :
    ∃ normal, normalize text = .ok normal ∧ normal.toList.head? = some c := by
  let separates (c : Char) : Bool := c == separator
  obtain ⟨visible, inner⟩ : isBlank c = false ∧ separates c = false := by
    simpa [isSound, separates] using sound
  obtain ⟨rest, chars⟩ := List.head?_eq_some_iff.mp first
  obtain ⟨middle, trimmed⟩ := trimChars_cons visible rest
  obtain ⟨last, left⟩ := trimChars_cons inner middle
  have same : bare text = c :: last := by rw [bare, chars, trimmed, left]
  refine ⟨_, normalize_of_bare (by simp [same]), ?_⟩
  simp [same]

namespace Policy

/-- Whether the root of all keys begins with a character that trimming keeps. -/
def isSound (policy : Policy) : Bool :=
  policy.keyRoot.toList.head?.any Reference.isSound

variable {policy : Policy} {envelope : Envelope} {signal : Option Signal}
  {scene : Scene MemoryStore}

private theorem key_accepted (sound : policy.isSound = true) (envelope : Envelope) :
    ∃ key, Reference.accepted (some (policy.key envelope)) = .ok key ∧ startsBlank key = false := by
  obtain ⟨c, first, kept⟩ := Option.any_eq_true _ _ |>.mp sound
  have present : policy.keyRoot.toList ≠ [] := by
    intro empty
    simp [empty] at first
  have begins : (policy.key envelope).toList.head? = some c :=
    (Reference.head?_join present envelope.messageId).trans first
  obtain ⟨key, normal, same⟩ := Reference.normalize_of_sound begins kept
  refine ⟨key, Reference.accepted_some_iff.mpr normal, ?_⟩
  have visible : isBlank c = false := by
    simp only [Reference.isSound, Bool.and_eq_true] at kept
    simpa using kept.1
  simp [startsBlank, same, visible]

/-- A large body is stored under the next reference, which names nothing but itself, until the time
of its expiry. -/
theorem prepare_stored {expiresAt : Option Moment} {expires : Option Instant}
    (sound : policy.isSound = true)
    (due : (policy.offer envelope expiresAt signal).expiry = .ok expires)
    (large : policy.threshold < envelope.body.length) (free : scene.isCancelled signal = false) :
    ∃ key, let reference := MemoryStore.referenceFor key scene
      Reference.normalize reference = .ok reference ∧
      policy.prepare (some MemoryStore.store) (some envelope) expiresAt signal scene =
        .ok (policy.claimed envelope reference (expires.map Instant.iso))
          (scene.drawn.withRest
            (scene.rest.put reference ⟨policy.encode envelope.body, expires⟩)) := by
  obtain ⟨key, accepted, visible⟩ := policy.key_accepted sound envelope
  have normal := MemoryStore.normalize_referenceFor accepted visible scene
  refine ⟨key, normal, ?_⟩
  have shown : blank (MemoryStore.referenceFor key scene) = false :=
    Reference.blank_of_normalize normal
  have sized : ¬ ((policy.encode envelope.body).length : Int) < 0 := by omega
  have takes : MemoryStore.accepts (policy.offer envelope expiresAt signal) false = .ok key := by
    simpa [MemoryStore.accepts, offer, Source.ofStream, Source.ensureReadable, ensureSizeHint,
      sized] using accepted
  have uploaded : MemoryStore.store.upload (policy.offer envelope expiresAt signal) scene =
      .ok (some (MemoryStore.referenceFor key scene)) (scene.drawn.withRest
        (scene.rest.put (MemoryStore.referenceFor key scene)
          ⟨policy.encode envelope.body, expires⟩)) := by
    have ran := MemoryStore.upload_run (policy.offer envelope expiresAt signal) scene
    have free : scene.isCancelled (policy.offer envelope expiresAt signal).signal = false := free
    rw [free, takes] at ran
    refine ran.trans ?_
    simp only [MemoryStore.store?, due]
    rfl
  rw [prepare_eq _ _ _ large, Action.bind_of_ok uploaded]
  simp only [concluded, shown, due, Bool.false_eq_true, if_false]
  rfl

theorem prepare_large (sound : policy.isSound = true)
    (large : policy.threshold < envelope.body.length) (free : scene.isCancelled signal = false) :
    ∃ key, let reference := MemoryStore.referenceFor key scene
      Reference.normalize reference = .ok reference ∧
      policy.prepare (some MemoryStore.store) (some envelope) none signal scene =
        .ok (policy.claimed envelope reference none)
          (scene.drawn.withRest
            (scene.rest.put reference ⟨policy.encode envelope.body, none⟩)) := by
  have due : (policy.offer envelope none signal).expiry = .ok none := rfl
  exact prepare_stored sound due large free

end Policy
end ClaimCheck
