import ClaimCheck.Digest
import ClaimCheck.Envelope
import ClaimCheck.Gzip.Member
import ClaimCheck.Store.Basic

/-!
The claim-check policy. A body above the threshold goes into a store and its envelope carries
headers in its place; an envelope with such headers gets its body back, checked against its digest.
-/
namespace ClaimCheck

structure Policy where
  threshold : Nat
  compresses : Bool
  keyRoot : String
  named : Text.blank keyRoot = false

namespace Policy

def defaultThreshold : Nat := 200 * 1024

def default : Policy := ⟨defaultThreshold, false, "payload", by decide⟩

/-- A root for keys, kept as it is; it must not be blank. -/
def readKeyRoot (json : Json) : Checked { root : String // Text.blank root = false } := do
  let root ← Field.text json
  if shown : Text.blank root = false then .ok ⟨root, shown⟩ else .fault .blankKeyPrefix

/-- A policy of given settings; those not given are the default ones. -/
def ofFields (threshold compresses keyRoot : Option Json) : Checked Policy :=
  let fields :=
    (Checked.inField "threshold_bytes"
      (Field.optional defaultThreshold Field.natural threshold)).both <|
    (Checked.inField "use_compression" (Field.optional false Field.boolean compresses)).both <|
    Checked.inField "key_prefix"
      (Field.optional ⟨default.keyRoot, default.named⟩ readKeyRoot keyRoot)
  Checked.sorted (fields.map fun found => ⟨found.1, found.2.1, found.2.2.val, found.2.2.property⟩)

/-- The bytes that go into a store for a body. -/
def encode (policy : Policy) (body : Bytes) : Bytes :=
  if policy.compresses then Gzip.compress body else body

def key (policy : Policy) (envelope : Envelope) : String :=
  policy.keyRoot ++ "/" ++ envelope.messageId

/-- The headers of an envelope whose body went into a store. Those of an earlier journey are
replaced or removed. -/
def claim (policy : Policy) (envelope : Envelope) (reference : String)
    (expiresMarker : Option String) : Headers :=
  let headers := envelope.headers
    |>.set Headers.modeName Headers.externalMode
    |>.set Headers.referenceName reference
    |>.set Headers.digestName (Digest.sha256Hex envelope.body)
    |>.set Headers.sizeName (toString envelope.body.length)
  let headers := if policy.compresses then headers.set Headers.encodingName Headers.gzipEncoding
    else headers.erase Headers.encodingName
  match expiresMarker with
  | some marker => headers.set Headers.expiresName marker
  | none => headers.erase Headers.expiresName

variable {ρ τ : Type}

/-- An envelope to send on: as it is if its body is small, or else with its body in the store. -/
def prepare (policy : Policy) (store : Option (Store ρ τ)) (envelope : Option Envelope)
    (expiresAt : Option Moment) (signal : Option Signal) : Action ρ Envelope := do
  let some envelope := envelope | throw (.misuse .noEnvelope)
  let some store := store | throw (.misuse .noStore)
  if envelope.body.length ≤ policy.threshold then return envelope
  else
    let encoded := policy.encode envelope.body
    let reference ← store.upload
      ⟨.ofStream encoded, some (policy.key envelope), some encoded.length, expiresAt, signal⟩
    let some reference := reference | throw (.integrity .emptyReference)
    Action.ensure (!Text.blank reference) (.integrity .emptyReference)
    let marker ← match expiresAt with
      | some moment => some <$> moment.expiresMarker
      | none => pure none
    return (envelope.withHeaders (policy.claim envelope reference marker)).withBody []

end Policy

namespace Envelope

/-- Whether the headers say that the body lies in a store. -/
def isExternal (envelope : Envelope) : Bool :=
  (envelope.headers.get? Headers.modeName).any (Text.isWord Headers.externalMode)

/-- The reference that the headers give, unless it is missing or blank. -/
def reference? (envelope : Envelope) : Option String :=
  (envelope.headers.get? Headers.referenceName).filter fun reference => !Text.blank reference

/-- What was taken from a store, decompressed by the given means if the headers say so. -/
def decodeBy {m : Type → Type} [Monad m] (decompress : Bytes → m (Option Bytes))
    (refuse : IntegrityError → m Bytes) (envelope : Envelope) (stored : Bytes) : m Bytes := do
  match envelope.headers.get? Headers.encodingName with
  | none => return stored
  | some encoding =>
    if Text.blank encoding then return stored
    else if Text.isWord Headers.gzipEncoding encoding then
      match ← decompress stored with
      | some body => return body
      | none => refuse .undecodable
    else refuse (.unsupportedEncoding encoding)

def decode (envelope : Envelope) (stored : Bytes) : Except IntegrityError Bytes :=
  envelope.decodeBy (fun bytes => .ok (Gzip.decompress bytes)) .error stored

theorem decode_eq (envelope : Envelope) (stored : Bytes) :
    envelope.decode stored =
      match envelope.headers.get? Headers.encodingName with
      | none => .ok stored
      | some encoding =>
        if Text.blank encoding then .ok stored
        else if Text.isWord Headers.gzipEncoding encoding then
          match Gzip.decompress stored with
          | some body => .ok body
          | none => .error .undecodable
        else .error (.unsupportedEncoding encoding) := rfl

/-- A body is checked against the digest of the headers, if they give one. -/
def verify (envelope : Envelope) (body : Bytes) : Except IntegrityError Unit :=
  match envelope.headers.get? Headers.digestName with
  | none => .ok ()
  | some expected =>
    let actual := Digest.sha256Hex body
    if Text.blank expected || Text.isWord actual expected then .ok ()
    else .error (.digestMismatch expected actual)

end Envelope

namespace Policy

variable {ρ τ : Type}

/-- Resolving an envelope, with the means to decompress its body. Its headers stay. -/
def resolveBy (decompress : Bytes → Action ρ (Option Bytes)) (store : Store ρ τ)
    (envelope : Envelope) (signal : Option Signal) : Action ρ Envelope :=
  if envelope.isExternal then do
    let some reference := envelope.reference? | throw (.integrity .missingReference)
    let stored ← store.fetch (some reference) signal
    let body ← envelope.decodeBy decompress (fun problem => throw (.integrity problem)) stored
    Action.ofExcept ((envelope.verify body).mapError .integrity)
    return envelope.withBody body
  else return envelope

/-- An envelope as it was before its body went into a store. -/
def resolve (store : Option (Store ρ τ)) (envelope : Option Envelope)
    (signal : Option Signal) : Action ρ Envelope := do
  let some envelope := envelope | throw (.misuse .noEnvelope)
  let some store := store | throw (.misuse .noStore)
  resolveBy (fun bytes => return Gzip.decompress bytes) store envelope signal

private theorem decodeBy_silent (envelope : Envelope) (stored : Bytes) :
    (envelope.decodeBy (fun bytes => pure (Gzip.decompress bytes))
      (fun problem => throw (.integrity problem)) stored : Action ρ Bytes) =
      Action.ofExcept ((envelope.decode stored).mapError .integrity) := by
  funext scene
  rw [Envelope.decode_eq]
  unfold Envelope.decodeBy
  cases envelope.headers.get? Headers.encodingName with
  | none => rfl
  | some encoding =>
    dsimp only
    cases Text.blank encoding with
    | true => rfl
    | false =>
      cases Text.isWord Headers.gzipEncoding encoding with
      | false => rfl
      | true =>
        simp only [Bool.false_eq_true, if_false, if_true, pure_bind]
        cases Gzip.decompress stored <;> rfl

/-- With no trace of the decompression, a body is decoded in one step. -/
theorem resolve_eq (store : Store ρ τ) (envelope : Envelope) (signal : Option Signal) :
    resolve (some store) (some envelope) signal =
      if envelope.isExternal then do
        let some reference := envelope.reference? | throw (.integrity .missingReference)
        let stored ← store.fetch (some reference) signal
        let body ← Action.ofExcept ((envelope.decode stored).mapError .integrity)
        Action.ofExcept ((envelope.verify body).mapError .integrity)
        return envelope.withBody body
      else return envelope := by
  simp only [resolve, resolveBy, decodeBy_silent]

end Policy
end ClaimCheck
