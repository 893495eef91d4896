import ClaimCheck.Policy
import ClaimCheck.Proofs.GzipRoundTrip
import ClaimCheck.Proofs.Resolvability

/-!
A body that went into a store comes back out of it: as often as it is asked for, as long as nobody
touches its object, and whatever else happens in between.
-/
namespace ClaimCheck

/-- Hexadecimal texts consist of hexadecimal digits. -/
theorem Bytes.exists_of_mem_hex {bytes : Bytes} {c : Char} (member : c ∈ bytes.hex.toList) :
    ∃ digit < 16, c = hexDigit digit := by
  simp only [Bytes.hex, String.toList_ofList, List.mem_flatMap, List.mem_cons, List.not_mem_nil,
    or_false] at member
  obtain ⟨b, -, written⟩ := member
  have small := b.toNat_lt
  rcases written with rfl | rfl
  · exact ⟨_, by omega, rfl⟩
  · exact ⟨_, by omega, rfl⟩

namespace Text

private theorem lowerChar_hexDigit : ∀ digit < 16, lowerChar (hexDigit digit) = hexDigit digit := by
  decide

/-- Hexadecimal texts are the same in lower case. -/
theorem isWord_hex (bytes : Bytes) : isWord bytes.hex bytes.hex = true := by
  have kept : ∀ c ∈ bytes.hex.toList, lowerChar c = c := by
    intro c member
    obtain ⟨digit, small, rfl⟩ := Bytes.exists_of_mem_hex member
    exact lowerChar_hexDigit digit small
  have same : bytes.hex.toList.map lowerChar = bytes.hex.toList :=
    (List.map_congr_left kept).trans (List.map_id _)
  simp [isWord, same]

end Text

private theorem Headers.isReserved_iff {name : String} :
    isReserved name = true ↔ name = modeName ∨ name = referenceName ∨ name = digestName ∨
      name = sizeName ∨ name = encodingName ∨ name = expiresName := by
  simp [isReserved, reserved]

namespace Policy

/-- What a claim says under a reserved name. -/
def stated (policy : Policy) (body : Bytes) (reference : String) (marker : Option String)
    (name : String) : Option String :=
  if name = Headers.modeName then some Headers.externalMode
  else if name = Headers.referenceName then some reference
  else if name = Headers.digestName then some (Digest.sha256Hex body)
  else if name = Headers.sizeName then some (toString body.length)
  else if name = Headers.encodingName then
    if policy.compresses then some Headers.gzipEncoding else none
  else marker

theorem get?_claim (policy : Policy) (envelope : Envelope) (reference : String)
    (marker : Option String) (name : String) :
    (policy.claim envelope reference marker).get? name =
      if Headers.isReserved name then policy.stated envelope.body reference marker name
      else envelope.headers.get? name := by
  by_cases reserved : Headers.isReserved name = true
  · rw [if_pos reserved]
    rcases Headers.isReserved_iff.mp reserved with rfl | rfl | rfl | rfl | rfl | rfl
    all_goals
      cases compresses : policy.compresses <;> cases marker <;>
        simp [claim, stated, compresses, Headers.modeName, Headers.referenceName,
          Headers.digestName, Headers.encodingName, Headers.sizeName, Headers.expiresName]
  · rw [if_neg reserved]
    simp only [Headers.isReserved_iff, not_or] at reserved
    simp only [claim]
    cases policy.compresses <;> cases marker <;> simp [reserved]

/-- An envelope whose body went into a store under the reference. -/
def claimed (policy : Policy) (envelope : Envelope) (reference : String)
    (marker : Option String) : Envelope :=
  (envelope.withHeaders (policy.claim envelope reference marker)).withBody []

/-- What a policy offers to a store for a large body. -/
def offer (policy : Policy) (envelope : Envelope) (expiresAt : Option Moment)
    (signal : Option Signal) : Upload :=
  ⟨.ofStream (policy.encode envelope.body), some (policy.key envelope),
    some (policy.encode envelope.body).length, expiresAt, signal⟩

/-- What comes of a large body once its store has returned. -/
def concluded (policy : Policy) (envelope : Envelope) (expiresAt : Option Moment)
    (signal : Option Signal) (returned : Option String) : Except Failure Envelope :=
  match returned with
  | none => .error (.integrity .emptyReference)
  | some reference =>
    if Text.blank reference then .error (.integrity .emptyReference)
    else (policy.offer envelope expiresAt signal).expiry.map fun expires =>
      policy.claimed envelope reference (expires.map Instant.iso)

variable {ρ τ : Type} {policy : Policy} {store : Store ρ τ} {envelope : Envelope}

/-- A large body is offered once, and all else follows from what its store returns. -/
theorem prepare_eq (store : Store ρ τ) (expiresAt : Option Moment)
    (signal : Option Signal) (large : policy.threshold < envelope.body.length) :
    policy.prepare (some store) (some envelope) expiresAt signal =
      store.upload (policy.offer envelope expiresAt signal) >>= fun returned =>
        Action.ofExcept (policy.concluded envelope expiresAt signal returned) := by
  have long : ¬ envelope.body.length ≤ policy.threshold := by omega
  simp only [prepare, long, if_false]
  congr
  funext returned scene
  cases returned with
  | none => rfl
  | some reference =>
    by_cases shown : Text.blank reference = true
    · simp [concluded, shown, Action.bind_run, Action.ensure]
    · cases expiresAt with
      | none =>
        simp [concluded, shown, Action.bind_run, Action.ensure, Upload.expiry, offer, Except.map,
          claimed]
      | some moment =>
        cases found : moment.instant? <;>
          simp [concluded, shown, Action.bind_run, Action.ensure, Upload.expiry, offer, found,
            Except.map, claimed, Moment.expiresMarker, Moment.instant_run]

/-- A large body is sent on only after it was stored under a reference that is not blank. -/
theorem prepare_eq_ok {expiresAt : Option Moment} {signal : Option Signal}
    {scene after : Scene ρ} {out : Envelope} (large : policy.threshold < envelope.body.length)
    (ran : policy.prepare (some store) (some envelope) expiresAt signal scene = .ok out after) :
    ∃ reference marker,
      store.upload ⟨.ofStream (policy.encode envelope.body), some (policy.key envelope),
        some (policy.encode envelope.body).length, expiresAt, signal⟩ scene =
          .ok (some reference) after ∧
      Text.blank reference = false ∧ out = policy.claimed envelope reference marker := by
  rw [prepare_eq store expiresAt signal large] at ran
  obtain ⟨returned, middle, uploaded, ran⟩ := Action.bind_eq_ok.mp ran
  obtain ⟨ran, rfl⟩ := Action.ofExcept_eq_ok.mp ran
  cases returned with
  | none => cases ran
  | some reference =>
    by_cases shown : Text.blank reference = true
    · simp [concluded, shown] at ran
    · simp only [concluded, shown] at ran
      cases due : (policy.offer envelope expiresAt signal).expiry with
      | error failure => simp [due, Except.map] at ran
      | ok expires =>
        simp only [due] at ran
        cases ran
        exact ⟨reference, _, uploaded, by simpa using shown, rfl⟩

/-- What the headers of a claim say, whatever they said before. -/
theorem claimed_headers (policy : Policy) (envelope : Envelope) (reference : String)
    (marker : Option String) :
    let headers := (policy.claimed envelope reference marker).headers
    headers.get? Headers.modeName = some Headers.externalMode ∧
      headers.get? Headers.referenceName = some reference ∧
      headers.get? Headers.digestName = some (Digest.sha256Hex envelope.body) ∧
      headers.get? Headers.encodingName =
        if policy.compresses then some Headers.gzipEncoding else none := by
  have said (name : String) (reserved : Headers.isReserved name = true) :=
    (policy.get?_claim envelope reference marker name).trans (if_pos reserved)
  exact ⟨said _ (by decide), said _ (by decide), said _ (by decide), said _ (by decide)⟩

/-- Decoding undoes what the policy did to the body, as the headers of the claim say. -/
theorem decode_claimed (policy : Policy) (envelope : Envelope) (reference : String)
    (marker : Option String) :
    (policy.claimed envelope reference marker).decode (policy.encode envelope.body) =
      .ok envelope.body := by
  obtain ⟨-, -, -, encoding⟩ := policy.claimed_headers envelope reference marker
  have shown : Text.blank Headers.gzipEncoding = false := by decide
  have gzip : Text.isWord Headers.gzipEncoding Headers.gzipEncoding = true := by decide
  cases compresses : policy.compresses <;>
    simp [Envelope.decode_eq, encode, encoding, compresses, shown, gzip, Gzip.decompress_compress]

theorem verify_claimed (policy : Policy) (envelope : Envelope) (reference : String)
    (marker : Option String) :
    (policy.claimed envelope reference marker).verify envelope.body = .ok () := by
  obtain ⟨-, -, digest, -⟩ := policy.claimed_headers envelope reference marker
  have same : Text.isWord (Digest.sha256Hex envelope.body) (Digest.sha256Hex envelope.body) = true :=
    Text.isWord_hex _
  simp [Envelope.verify, digest, same]

/-- A claim is received as one, for its reference. -/
theorem claimed_isExternal (policy : Policy) (envelope : Envelope) {reference : String}
    (marker : Option String) (shown : Text.blank reference = false) :
    (policy.claimed envelope reference marker).isExternal = true ∧
      (policy.claimed envelope reference marker).reference? = some reference := by
  obtain ⟨mode, named, -, -⟩ := policy.claimed_headers envelope reference marker
  constructor
  · simp [Envelope.isExternal, mode]
    decide
  · simp [Envelope.reference?, named, shown]

/-- A body that can be fetched, decoded and verified as the headers say is put back. -/
theorem resolve_of_fetched {reference : String} {stored body : Bytes} {signal : Option Signal}
    {scene after : Scene ρ} (external : envelope.isExternal = true)
    (named : envelope.reference? = some reference)
    (fetched : store.fetch (some reference) signal scene = .ok stored after)
    (decoded : envelope.decode stored = .ok body) (verified : envelope.verify body = .ok ()) :
    resolve (some store) (some envelope) signal scene = .ok (envelope.withBody body) after := by
  have decoding : (envelope.decode stored).mapError Failure.integrity = .ok body :=
    mapError_eq_ok.mpr decoded
  have verifying : (envelope.verify body).mapError Failure.integrity = .ok () :=
    mapError_eq_ok.mpr verified
  simp only [resolve_eq, external, if_true, named, Action.bind_of_ok fetched, decoding,
    Action.bind_run, Action.ofExcept_ok, verifying, Action.pure_run]

/-- An envelope is restored as soon as its reference gives what was stored under it. -/
theorem resolve_claimed {reference : String} {signal : Option Signal} {scene after : Scene ρ}
    (marker : Option String) (shown : Text.blank reference = false)
    (fetched : store.fetch (some reference) signal scene =
      .ok (policy.encode envelope.body) after) :
    resolve (some store) (some (policy.claimed envelope reference marker)) signal scene =
      .ok (envelope.withHeaders (policy.claimed envelope reference marker).headers) after := by
  obtain ⟨external, named⟩ := policy.claimed_isExternal envelope marker shown
  exact resolve_of_fetched external named fetched (decode_claimed ..) (verify_claimed ..)

/-- What comes back for a claim was fetched under its reference, decoded, and verified. -/
theorem resolve_claimed_eq_ok {reference : String} {marker : Option String}
    {signal : Option Signal} {scene after : Scene ρ} {received : Envelope}
    (shown : Text.blank reference = false)
    (ran : resolve (some store) (some (policy.claimed envelope reference marker)) signal scene =
      .ok received after) :
    ∃ stored middle, store.fetch (some reference) signal scene = .ok stored middle ∧
      (policy.claimed envelope reference marker).decode stored = .ok received.body ∧
      (policy.claimed envelope reference marker).verify received.body = .ok () := by
  obtain ⟨external, found⟩ := policy.claimed_isExternal envelope marker shown
  simp only [resolve_eq, external, if_true, found] at ran
  obtain ⟨stored, middle, fetched, ran⟩ := Action.bind_eq_ok.mp ran
  obtain ⟨body, _, decoded, ran⟩ := Action.bind_eq_ok.mp ran
  obtain ⟨_, _, checked, returned⟩ := Action.bind_eq_ok.mp ran
  cases returned
  refine ⟨stored, middle, fetched, ?_, ?_⟩
  · exact mapError_eq_ok.mp (Action.ofExcept_eq_ok.mp decoded).1
  · exact mapError_eq_ok.mp (Action.ofExcept_eq_ok.mp checked).1

end Policy

/-- What may happen to a scene while an object is waited for: anything that leaves the object and
its expiry alone, at a time before the latter. -/
def Shelf.Keeps (shelf : Shelf ρ) (reference : String) (bytes : Bytes) (expires : Option Instant)
    (change : Scene ρ → Scene ρ) : Prop :=
  ∀ scene, shelf.Holds scene.rest reference bytes expires →
    shelf.Holds (change scene).rest reference bytes expires ∧
      shelf.IsAhead (change scene).rest expires

/-- What resolving one envelope again and again gives, with changes of the scene before each time. -/
def Store.resolutions {ρ τ : Type} (store : Store ρ τ) (envelope : Envelope) :
    List (Scene ρ → Scene ρ) → Scene ρ → List (Except Failure Envelope)
  | [], _ => []
  | change :: rest, scene =>
    match Policy.resolve (some store) (some envelope) none (change scene) with
    | .ok restored after => .ok restored :: store.resolutions envelope rest after
    | .error failure after => .error failure :: store.resolutions envelope rest after

variable {ρ τ : Type} {store : Store ρ τ} {shelf : Shelf ρ} {naming : Naming}

private theorem resolutions_claimed (works : store.WorksOn shelf naming) {policy : Policy}
    {envelope : Envelope} {reference : String} {marker : Option String} {expires : Option Instant}
    (shown : Text.blank reference = false)
    (accepted : Reference.accepted (some reference) = .ok reference)
    (changes : List (Scene ρ → Scene ρ)) (scene : Scene ρ)
    (kept : ∀ change ∈ changes,
      shelf.Keeps reference (policy.encode envelope.body) expires change)
    (holds : shelf.Holds scene.rest reference (policy.encode envelope.body) expires) :
    store.resolutions (policy.claimed envelope reference marker) changes scene =
      changes.map fun _ =>
        .ok (envelope.withHeaders (policy.claimed envelope reference marker).headers) := by
  induction changes generalizing scene with
  | nil => rfl
  | cons change rest ih =>
    obtain ⟨holds, ahead⟩ := kept change (by simp) scene holds
    obtain ⟨after, fetched, holds⟩ := works.fetch accepted holds ahead
    have resolved := Policy.resolve_claimed marker shown fetched
    simp only [Store.resolutions, resolved, List.map_cons]
    rw [ih after (fun change member => kept change (by simp [member])) holds]

/-- A large body that was sent on is restored every time, byte for byte, while its object is left
alone and has not expired; all else that the envelope says is as it was, but for the headers. -/
theorem prepared_resolves (provided : Provided store shelf naming) (policy : Policy)
    (envelope : Envelope) (expiresAt : Option Moment) (signal : Option Signal)
    (scene after : Scene ρ) (out : Envelope) (tidy : naming.IsTidy)
    (root : Reference.isTidy policy.keyRoot = true)
    (identified : Reference.isTidy envelope.messageId = true)
    (large : policy.threshold < envelope.body.length)
    (prepared : policy.prepare (some store) (some envelope) expiresAt signal scene =
      .ok out after) :
    out.body = [] ∧ ∃ reference expires,
      out.headers.get? Headers.referenceName = some reference ∧
      shelf.Holds after.rest reference (policy.encode envelope.body) expires ∧
      (∀ instant ∈ expires, expiresAt.bind Moment.instant? = some instant) ∧
      ∀ changes : List (Scene ρ → Scene ρ),
        (∀ change ∈ changes,
          shelf.Keeps reference (policy.encode envelope.body) expires change) →
        store.resolutions out changes after =
          changes.map fun _ => .ok (envelope.withHeaders out.headers) := by
  obtain ⟨reference, marker, uploaded, shown, rfl⟩ := Policy.prepare_eq_ok large prepared
  have works := provided.worksOn
  obtain ⟨key, expires, accepted, returned, holds, due⟩ := works.upload uploaded
  have tidyKey : Reference.isTidy (policy.key envelope) = true :=
    Reference.isTidy_join root identified
  have same : key = policy.key envelope := by
    have normal := Reference.accepted_some_iff.mp accepted
    rw [Reference.normalize_of_isTidy tidyKey] at normal
    exact (Except.ok.inj normal).symm
  have whole : (Source.ofStream (policy.encode envelope.body)).remaining =
      policy.encode envelope.body := by
    simp [Source.remaining, Source.ofStream, Source.isHeld]
  rw [whole] at holds
  cases returned
  have normal := Reference.normalize_of_isTidy
    (naming.reference_isTidy tidy (same ▸ tidyKey) scene.ids)
  obtain ⟨-, named, -, -⟩ := policy.claimed_headers envelope
    (naming.reference scene.ids key) marker
  refine ⟨rfl, _, expires, named, holds, due, ?_⟩
  intro changes kept
  exact resolutions_claimed works shown (Reference.accepted_some_iff.mpr normal) changes after kept
    holds

def sampleEnvelope : Envelope :=
  ⟨"m", none, .first, [1, 2, 3], .ofList [(Headers.modeName, "inline")], by decide⟩

def compressing : Policy :=
  { Policy.default with threshold := 2, compresses := true }

/-- Other objects come and go. -/
def traffic : List (Scene (Table Bytes) → Scene (Table Bytes)) :=
  [id, fun scene => scene.withRest (scene.rest.set "other" [9]),
    fun scene => scene.withRest (scene.rest.erase "other")]

theorem bucketStore_resolves :
    ∃ out after, compressing.prepare (some (bucketStore "p")) (some sampleEnvelope) none none
        (.bare ∅) = .ok out after ∧
      (Naming.under (some "p")).IsTidy ∧ Reference.isTidy compressing.keyRoot = true ∧
      Reference.isTidy sampleEnvelope.messageId = true ∧
      compressing.threshold < sampleEnvelope.body.length ∧
      (bucketStore "p").resolutions out traffic after =
        traffic.map fun _ => .ok (sampleEnvelope.withHeaders out.headers) := by
  have tidy : (Naming.under (some "p")).IsTidy := by
    rintro _ ⟨⟩
    decide
  obtain ⟨out, after, prepared, named⟩ : ∃ out after,
      compressing.prepare (some (bucketStore "p")) (some sampleEnvelope) none none (.bare ∅) =
        .ok out after ∧ out.headers.get? Headers.referenceName = some "p/payload/m" :=
    ⟨_, _, rfl, rfl⟩
  obtain ⟨-, reference, expires, same, -, -, resolves⟩ := prepared_resolves
    (bucketStore_provided "p") compressing sampleEnvelope none none _ after out tidy (by decide)
    (by decide) (by decide) prepared
  refine ⟨out, after, prepared, tidy, by decide, by decide, by decide, resolves traffic ?_⟩
  cases named.symm.trans same
  intro change member scene holds
  simp only [traffic, List.mem_cons, List.not_mem_nil, or_false] at member
  have free : ∀ instant ∈ expires, ∃ now ∈ (none : Option Instant), now.micros < instant.micros := by
    rw [← holds.2]
    rintro _ ⟨⟩
  rcases member with rfl | rfl | rfl
  · exact ⟨holds, free⟩
  · exact ⟨by simpa [Shelf.Holds, Shelf.ofObjects] using holds, free⟩
  · exact ⟨by simpa [Shelf.Holds, Shelf.ofObjects] using holds, free⟩

end ClaimCheck
