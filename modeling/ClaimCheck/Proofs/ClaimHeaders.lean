import ClaimCheck.Proofs.ClaimRoundTrip
import ClaimCheck.Proofs.InlineBodies
import ClaimCheck.Proofs.Likeness

/-!
The headers of a claim. They are determined by the body, the reference and the time of expiry; what
an envelope said under reserved names before makes no difference to the store, nor to what is sent.
-/
namespace ClaimCheck

private theorem Bytes.mem_digits_of_mem_hex {bytes : Bytes} {c : Char}
    (member : c ∈ bytes.hex.toList) :
    c ∈ "0123456789abcdef".toList := by
  have small : ∀ digit < 16, hexDigit digit ∈ "0123456789abcdef".toList := by decide
  obtain ⟨digit, below, rfl⟩ := Bytes.exists_of_mem_hex member
  exact small digit below

/-- Whether two envelopes differ at most in headers that are not looked at, or in the order of
headers. -/
structure Envelope.AgreesOn (looked : String → Bool) (envelope other : Envelope) : Prop where
  messageId : envelope.messageId = other.messageId
  correlationId : envelope.correlationId = other.correlationId
  sentAt : envelope.sentAt = other.sentAt
  body : envelope.body = other.body
  headers : ∀ name, looked name = true → envelope.headers.get? name = other.headers.get? name

namespace Policy

variable {ρ τ : Type} {policy : Policy} {envelope : Envelope} {expiresAt : Option Moment}
  {signal : Option Signal}

/-- Preparing a large body asks a store to take it, and for nothing else. -/
theorem prepare_watched_calls (store : Store ρ τ)
    (large : policy.threshold < envelope.body.length) (scene : Scene (List StoreCall × ρ)) :
    ((policy.prepare (some store.watched) (some envelope) expiresAt signal).sceneAfter
      scene).rest.1 = scene.rest.1 ++ [.upload (policy.offer envelope expiresAt signal)] := by
  rw [prepare_eq store.watched expiresAt signal large]
  have rest : Action.Leaves Prod.fst
      ((store.upload (policy.offer envelope expiresAt signal)).on
          (.second : Part (List StoreCall × ρ) ρ) >>= fun returned =>
        Action.ofExcept (policy.concluded envelope expiresAt signal returned)) := by
    apply (Action.leaves_on_second _).bind
    intro returned
    exact Action.leaves_ofExcept _
  have noted := rest { scene with
    rest := (scene.rest.1 ++ [.upload (policy.offer envelope expiresAt signal)], scene.rest.2) }
  simp only [Store.watched, bind_assoc, Store.note]
  rw [Action.sceneAfter_bind]
  exact noted

/-- What an envelope says whose large body went into a store. -/
structure Claims (policy : Policy) (envelope : Envelope) (expiresAt : Option Moment)
    (reference : String) (out : Envelope) : Prop where
  mode : out.headers.get? Headers.modeName = some Headers.externalMode
  referenced : out.headers.get? Headers.referenceName = some reference
  digest : out.headers.get? Headers.digestName = some (Digest.sha256 envelope.body).hex
  lowercase : ∀ c ∈ (Digest.sha256 envelope.body).hex.toList, c ∈ "0123456789abcdef".toList
  size : out.headers.get? Headers.sizeName = some (toString envelope.body.length)
  encoding : out.headers.get? Headers.encodingName =
    if policy.compresses then some Headers.gzipEncoding else none
  expires : out.headers.get? Headers.expiresName =
    (expiresAt.bind Moment.instant?).map Instant.iso
  expiring : (out.headers.get? Headers.expiresName).isSome = expiresAt.isSome
  others : ∀ name, Headers.isReserved name = false →
    out.headers.get? name = envelope.headers.get? name
  body : out.body = []
  messageId : out.messageId = envelope.messageId
  correlationId : out.correlationId = envelope.correlationId
  sentAt : out.sentAt = envelope.sentAt

private theorem expiry_offer (policy : Policy) (envelope : Envelope) (signal : Option Signal)
    (convertible : ∀ moment, expiresAt = some moment → moment.instant?.isSome = true) :
    ∃ expires, (policy.offer envelope expiresAt signal).expiry = .ok expires ∧
      expires = expiresAt.bind Moment.instant? ∧ expires.isSome = expiresAt.isSome := by
  cases expiresAt with
  | none => exact ⟨none, rfl, rfl, rfl⟩
  | some moment =>
    obtain ⟨instant, found⟩ := Option.isSome_iff_exists.mp (convertible moment rfl)
    refine ⟨some instant, ?_, found.symm, rfl⟩
    simp [Upload.expiry, offer, found]

private theorem claimed_body (policy : Policy) (envelope : Envelope) (reference : String)
    (marker : Option String) : (policy.claimed envelope reference marker).body = [] := rfl

private theorem claims_claimed {expires : Option Instant} (reference : String)
    (due : expires = expiresAt.bind Moment.instant?) (given : expires.isSome = expiresAt.isSome) :
    Claims policy envelope expiresAt reference
      (policy.claimed envelope reference (expires.map Instant.iso)) := by
  have said (name : String) (reserved : Headers.isReserved name = true) :=
    (policy.get?_claim envelope reference (expires.map Instant.iso) name).trans (if_pos reserved)
  have written := said Headers.expiresName (by decide)
  exact {
    mode := said _ (by decide)
    referenced := said _ (by decide)
    digest := said _ (by decide)
    lowercase := fun _ => Bytes.mem_digits_of_mem_hex
    size := said _ (by decide)
    encoding := said _ (by decide)
    expires := written.trans (congrArg (Option.map Instant.iso) due)
    expiring := (congrArg Option.isSome written).trans (Option.isSome_map.trans given)
    others := fun name visible =>
      (policy.get?_claim envelope reference _ name).trans (if_neg (by simp [visible]))
    body := claimed_body ..
    messageId := rfl
    correlationId := rfl
    sentAt := rfl }

/-- A claim does not depend on reserved headers, nor on the order of headers. -/
theorem claimed_agrees {other : Envelope}
    (same : envelope.AgreesOn (fun name => !Headers.isReserved name) other) (reference : String)
    (marker : Option String) :
    (policy.claimed envelope reference marker).AgreesOn (fun _ => true)
      (policy.claimed other reference marker) where
  messageId := same.messageId
  correlationId := same.correlationId
  sentAt := same.sentAt
  body := by rw [claimed_body, claimed_body]
  headers name _ := by
    change (policy.claim envelope reference marker).get? name =
      (policy.claim other reference marker).get? name
    rw [get?_claim, get?_claim, same.body]
    by_cases reserved : Headers.isReserved name = true
    · rw [if_pos reserved, if_pos reserved]
    · rw [if_neg reserved, if_neg reserved]
      exact same.headers name (by simpa using reserved)

private theorem offer_eq {looked : String → Bool} {other : Envelope}
    (same : envelope.AgreesOn looked other) :
    policy.offer other expiresAt signal = policy.offer envelope expiresAt signal := by
  simp only [offer, key, same.body, same.messageId]

private theorem concluded_alike {other : Envelope}
    (same : envelope.AgreesOn (fun name => !Headers.isReserved name) other)
    (returned : Option String) (scene : Scene ρ) :
    EndAlike Eq (Envelope.AgreesOn fun _ => true)
      (Action.ofExcept (policy.concluded envelope expiresAt signal returned) scene)
      (Action.ofExcept (policy.concluded other expiresAt signal returned) scene) := by
  cases returned with
  | none => exact .failed rfl
  | some reference =>
    simp only [concluded, offer_eq same]
    by_cases shown : Text.blank reference = true
    · rw [if_pos shown, if_pos shown]
      exact .failed rfl
    · rw [if_neg shown, if_neg shown]
      cases (policy.offer envelope expiresAt signal).expiry with
      | error failure => exact .failed rfl
      | ok expires => exact .returned (claimed_agrees same reference _) rfl

/-- Envelopes that differ in reserved headers alone end alike, whatever the store does. -/
theorem prepare_alike (store : Store ρ τ) {other : Envelope}
    (large : policy.threshold < envelope.body.length)
    (same : envelope.AgreesOn (fun name => !Headers.isReserved name) other) (scene : Scene ρ) :
    EndAlike Eq (Envelope.AgreesOn fun _ => true)
      (policy.prepare (some store) (some envelope) expiresAt signal scene)
      (policy.prepare (some store) (some other) expiresAt signal scene) := by
  rw [prepare_eq store _ _ large, prepare_eq store _ _ (same.body ▸ large), offer_eq same,
    Action.bind_run, Action.bind_run]
  cases store.upload (policy.offer envelope expiresAt signal) scene with
  | error failure after => exact .failed rfl
  | ok returned after => exact concluded_alike same returned after

/-- A large body is offered to its store in one call. Once the store has returned a reference that
is not blank, and unless the time of expiry has no place in the calendar, the envelope is sent on
with headers that say where the body is; all its other headers stay. Envelopes that differ in
reserved headers alone make the same call, and are sent on alike. -/
theorem large_bodies_become_claims (policy : Policy) (store : Store ρ τ) (envelope : Envelope)
    (expiresAt : Option Moment) (signal : Option Signal)
    (large : policy.threshold < envelope.body.length) :
    (∀ scene, ((policy.prepare (some store.watched) (some envelope) expiresAt signal).sceneAfter
      scene).rest.1 = scene.rest.1 ++ [.upload (policy.offer envelope expiresAt signal)]) ∧
    (∀ scene after reference,
      store.upload (policy.offer envelope expiresAt signal) scene = .ok (some reference) after →
      Text.blank reference = false →
      (∀ moment, expiresAt = some moment → moment.instant?.isSome = true) →
      ∃ out, policy.prepare (some store) (some envelope) expiresAt signal scene = .ok out after ∧
        Claims policy envelope expiresAt reference out) ∧
    ∀ other, envelope.AgreesOn (fun name => !Headers.isReserved name) other →
      (∀ scene, ((policy.prepare (some store.watched) (some other) expiresAt signal).sceneAfter
        scene).rest.1 = scene.rest.1 ++ [.upload (policy.offer envelope expiresAt signal)]) ∧
      ∀ scene, EndAlike Eq (Envelope.AgreesOn fun _ => true)
        (policy.prepare (some store) (some envelope) expiresAt signal scene)
        (policy.prepare (some store) (some other) expiresAt signal scene) := by
  refine ⟨prepare_watched_calls store large, ?_, ?_⟩
  · intro scene after reference uploaded shown convertible
    obtain ⟨expires, due, found, given⟩ := expiry_offer policy envelope signal convertible
    refine ⟨_, ?_, claims_claimed reference found given⟩
    rw [prepare_eq store _ _ large, Action.bind_of_ok uploaded]
    simp only [concluded, shown, Bool.false_eq_true, if_false, due]
    rfl
  · intro other same
    have also : policy.threshold < other.body.length := same.body ▸ large
    refine ⟨?_, prepare_alike store large same⟩
    rw [← offer_eq same]
    exact prepare_watched_calls store also

/-- A store that forgets its payloads, and whose references have blanks about them. -/
def forgetfulStore : Store Unit ByteStream where
  upload _ := return some " r "
  download _ _ := return .ofBytes []
  delete _ _ := return ()
  reader := ByteStream.reader

/-- A policy that compresses every body there is. -/
def thorough : Policy :=
  { Policy.default with threshold := 0, compresses := true }

/-- The envelope that `staleEnvelope` was before its earlier journey. -/
def freshEnvelope : Envelope :=
  (staleEnvelope "inline").withHeaders ∅

/-- Headers of an earlier journey do not show. -/
theorem stale_headers_replaced :
    let moment : Moment := ⟨0, some 0, by decide⟩
    ∃ out other, thorough.prepare (some forgetfulStore) (some (staleEnvelope "inline"))
        (some moment) none (.bare ()) = .ok out (.bare ()) ∧
      thorough.prepare (some forgetfulStore) (some freshEnvelope) (some moment) none (.bare ()) =
        .ok other (.bare ()) ∧
      Claims thorough (staleEnvelope "inline") (some moment) " r " out ∧
      out.AgreesOn (fun _ => true) other := by
  intro moment
  have same : (staleEnvelope "inline").AgreesOn (fun name => !Headers.isReserved name)
      freshEnvelope := by
    refine ⟨rfl, rfl, rfl, rfl, ?_⟩
    intro name visible
    have mode : name ≠ Headers.modeName := by
      rintro rfl
      exact absurd visible (by decide)
    have reference : name ≠ Headers.referenceName := by
      rintro rfl
      exact absurd visible (by decide)
    have stale : (staleEnvelope "inline").headers =
        ((∅ : Headers).set Headers.modeName "inline").set Headers.referenceName "r" := rfl
    have fresh : freshEnvelope.headers = ∅ := rfl
    simp [stale, fresh, mode, reference]
  have convertible : ∀ given, some moment = some given → given.instant?.isSome = true := by
    rintro _ ⟨⟩
    rfl
  obtain ⟨-, becomes, alike⟩ := large_bodies_become_claims thorough forgetfulStore
    (staleEnvelope "inline") (some moment) none (by decide)
  obtain ⟨out, prepared, claims⟩ := becomes _ _ " r " rfl (by decide) convertible
  obtain ⟨-, alike⟩ := alike freshEnvelope same
  have ends := alike (.bare ())
  rw [prepared] at ends
  generalize thorough.prepare (some forgetfulStore) (some freshEnvelope) (some moment) none
    (.bare ()) = result at ends
  cases ends with
  | returned alike after =>
    cases after
    exact ⟨out, _, prepared, rfl, claims, alike⟩

end Policy
end ClaimCheck
