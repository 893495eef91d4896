import ClaimCheck.Proofs.InlineBodies
import ClaimCheck.Proofs.Recordings

/-!
What happens while an envelope is resolved. At most one payload is downloaded, its stream is read to
its end and closed before anything is made of the bytes, and nothing but the body of the envelope is
changed.
-/
namespace ClaimCheck

namespace Text

private theorem lowerChar_of_isBlank {c : Char} (blank : isBlank c = true) : lowerChar c = c := by
  have upper : ¬ ('A' ≤ c ∧ c ≤ 'Z') := by
    rintro ⟨low, high⟩
    have low : 65 ≤ c.toNat := low
    have high : c.toNat ≤ 90 := high
    simp only [isBlank, blankRanges, List.any_cons, List.any_nil, Bool.or_false, Bool.or_eq_true,
      Bool.and_eq_true, decide_eq_true_eq] at blank
    omega
  have kelvin : (c == '\u212a') = false := by
    rw [beq_eq_false_iff_ne]
    rintro rfl
    revert blank
    decide
  simp [lowerChar, upper, kelvin]

private theorem blank_of_isWord {word text : String} (same : isWord word text = true)
    (shown : blank word = false) : blank text = false := by
  cases empty : blank text with
  | false => rfl
  | true =>
    have kept : text.toList.map lowerChar = text.toList := by
      refine (List.map_congr_left fun c member => ?_).trans (List.map_id _)
      exact lowerChar_of_isBlank (List.all_eq_true.mp empty c member)
    have chars : text.toList = word.toList := by
      rw [isWord, kept] at same
      exact eq_of_beq same
    rw [blank, ← chars] at shown
    exact absurd (shown.symm.trans empty) (by decide)

end Text

namespace Envelope

/-- Whether the headers say that the body is compressed. -/
def isZipped (envelope : Envelope) : Bool :=
  (envelope.headers.get? Headers.encodingName).any (Text.isWord Headers.gzipEncoding)

private theorem body_of_decode {envelope : Envelope} {stored body : Bytes}
    (decoded : envelope.decode stored = .ok body) :
    if envelope.isZipped then Gzip.decompress stored = some body else body = stored := by
  cases said : envelope.headers.get? Headers.encodingName with
  | none => simpa [decode_eq, isZipped, said, eq_comm] using decoded
  | some encoding =>
    by_cases zipped : Text.isWord Headers.gzipEncoding encoding = true
    · have shown := Text.blank_of_isWord zipped (by decide)
      cases unzipped : Gzip.decompress stored <;>
        simp_all [decode_eq, isZipped]
    · by_cases blank : Text.blank encoding = true <;>
        simp_all [decode_eq, isZipped]

/-- Decompression that is written down before anything comes of it. -/
def unzipping {ρ : Type} (bytes : Bytes) : Action (List Happening × ρ) (Option Bytes) :=
  Ledger.pair.record (fun _ => .decompress bytes) (pure (Gzip.decompress bytes))

private theorem unzipping_keeps {ρ : Type} (bytes : Bytes) :
    Ledger.pair.Keeps (unzipping bytes) (pure (Gzip.decompress bytes) : Action ρ (Option Bytes))
      fun _ => [.decompress bytes] :=
  Ledger.keeps_record (fun _ => Happening.decompress bytes) (pure (Gzip.decompress bytes))

/-- What happens while a body is decoded. -/
def decoding (envelope : Envelope) (stored : Bytes) : List Happening :=
  if envelope.isZipped then [.decompress stored] else []

private theorem decodeBy_keeps {ρ : Type} (envelope : Envelope) (stored : Bytes) :
    Ledger.pair.Keeps
      (envelope.decodeBy unzipping (fun problem => throw (.integrity problem)) stored)
      (Action.ofExcept ((envelope.decode stored).mapError .integrity) : Action ρ Bytes)
      fun _ => envelope.decoding stored := by
  intro entries scene
  cases said : envelope.headers.get? Headers.encodingName with
  | none => simp [decodeBy, decode_eq, decoding, isZipped, said]
  | some encoding =>
    by_cases zipped : Text.isWord Headers.gzipEncoding encoding = true
    · have shown := Text.blank_of_isWord zipped (by decide)
      simp only [decodeBy, decode_eq, decoding, isZipped, said, shown, zipped, Bool.false_eq_true,
        if_false, if_true, Action.bind_run, unzipping_keeps stored entries scene, Action.pure_run,
        Ledger.closed_ok, Option.any_some]
      cases Gzip.decompress stored <;> simp
    · by_cases blank : Text.blank encoding = true <;>
        simp [decodeBy, decode_eq, decoding, isZipped, said, blank, zipped]

end Envelope

namespace Policy

variable {ρ τ : Type}

/-- What happens while an envelope is resolved. -/
def resolving (store : Store ρ τ) (envelope : Envelope) (signal : Option Signal)
    (scene : Scene ρ) : List Happening :=
  if envelope.isExternal then
    match envelope.reference? with
    | none => []
    | some reference =>
      Ledger.follow (store.fetch (some reference) signal) (store.fetching (some reference) signal)
        (fun stored _ => envelope.decoding stored) scene
  else []

private theorem resolve_keeps (store : Store ρ τ) (envelope : Envelope) (signal : Option Signal) :
    Ledger.pair.Keeps (resolveBy Envelope.unzipping store.recorded envelope signal)
      (resolve (some store) (some envelope) signal) (resolving store envelope signal) := by
  have checks (body : Bytes) : Ledger.pair.Keeps
      (do
        Action.ofExcept ((envelope.verify body).mapError .integrity)
        return envelope.withBody body)
      (do
        Action.ofExcept ((envelope.verify body).mapError .integrity)
        return envelope.withBody body : Action ρ Envelope)
      fun _ => ([] : List Happening) := by
    intro entries scene
    cases envelope.verify body <;> simp
  intro entries scene
  cases external : envelope.isExternal with
  | false => simp [resolveBy, resolve_eq, resolving, external]
  | true =>
    cases named : envelope.reference? with
    | none => simp [resolveBy, resolve_eq, resolving, external, named]
    | some reference =>
      have steps := (store.fetch_keeps (some reference) signal).bind fun stored =>
        (envelope.decodeBy_keeps stored).bind fun body => checks body
      simp only [Ledger.follow_silent] at steps
      simpa only [resolveBy, resolve_eq, resolving, external, named, if_true] using
        steps entries scene

/-- All that resolving an envelope comes to, with what happens meanwhile. -/
inductive Resolves (envelope : Envelope) (signal : Option Signal) :
    List Happening → Except Failure Envelope → Prop
  | inline (inline : envelope.isExternal = false) : Resolves envelope signal [] (.ok envelope)
  | unnamed (external : envelope.isExternal = true) (unnamed : envelope.reference? = none) :
      Resolves envelope signal [] (.error (.integrity .missingReference))
  | refused {reference : String} {failure : Failure} (external : envelope.isExternal = true)
      (named : envelope.reference? = some reference) :
      Resolves envelope signal [.download (some reference) signal (.error failure)]
        (.error failure)
  /-- A read fails. -/
  | broken {reference : String} {reads : List Happening} {failure : Failure}
      (external : envelope.isExternal = true) (named : envelope.reference? = some reference)
      (collects : StreamReader.Collects reads (.error failure)) :
      Resolves envelope signal
        (.download (some reference) signal (.ok ()) :: (reads ++ [.close])) (.error failure)
  /-- What was stored does not fit the headers. -/
  | rejected {reference : String} {reads : List Happening} {stored : Bytes}
      {problem : IntegrityError} (external : envelope.isExternal = true)
      (named : envelope.reference? = some reference)
      (collects : StreamReader.Collects reads (.ok stored))
      (refuted : envelope.decode stored >>= envelope.verify = .error problem) :
      Resolves envelope signal
        (.download (some reference) signal (.ok ()) ::
          (reads ++ [.close] ++ envelope.decoding stored))
        (.error (.integrity problem))
  | restored {reference : String} {reads : List Happening} {stored body : Bytes}
      (external : envelope.isExternal = true) (named : envelope.reference? = some reference)
      (collects : StreamReader.Collects reads (.ok stored))
      (decoded : envelope.decode stored = .ok body)
      (whole : if envelope.isZipped then Gzip.decompress stored = some body else body = stored)
      (verified : envelope.verify body = .ok ()) :
      Resolves envelope signal
        (.download (some reference) signal (.ok ()) ::
          (reads ++ [.close] ++ envelope.decoding stored))
        (.ok (envelope.withBody body))

/-- What comes of an envelope whose body was fetched. -/
def checked (envelope : Envelope) (stored : Bytes) : Except Failure Envelope :=
  (envelope.decode stored >>= fun body =>
    (fun _ => envelope.withBody body) <$> envelope.verify body).mapError .integrity

variable {store : Store ρ τ} {envelope : Envelope} {signal : Option Signal} {reference : String}

private theorem resolve_outcome (external : envelope.isExternal = true)
    (named : envelope.reference? = some reference) (scene : Scene ρ) :
    (resolve (some store) (some envelope) signal).outcome scene =
      (store.fetch (some reference) signal).outcome scene >>= checked envelope := by
  simp only [resolve_eq, external, named, if_true, Action.outcome, Action.bind_run]
  cases store.fetch (some reference) signal scene with
  | error failure after => rfl
  | ok stored after =>
    cases decoded : envelope.decode stored with
    | error problem => simp [checked, decoded, bind, Except.bind]
    | ok body =>
      cases verified : envelope.verify body <;>
        simp [checked, decoded, verified, bind, Except.bind, Functor.map,
          Except.map]

private theorem resolving_external (external : envelope.isExternal = true)
    (named : envelope.reference? = some reference) (scene : Scene ρ) :
    resolving store envelope signal scene =
      store.fetching (some reference) signal scene ++
        match (store.fetch (some reference) signal).outcome scene with
        | .ok stored => envelope.decoding stored
        | .error _ => [] := by
  simp only [resolving, external, named, if_true, Ledger.follow, Action.outcome]
  cases store.fetch (some reference) signal scene <;> rfl

private theorem resolves_checked {reads : List Happening} {stored : Bytes}
    (external : envelope.isExternal = true) (named : envelope.reference? = some reference)
    (collects : StreamReader.Collects reads (.ok stored)) :
    Resolves envelope signal
      (.download (some reference) signal (.ok ()) :: (reads ++ [.close] ++ envelope.decoding stored))
      (checked envelope stored) := by
  have refutes (problem : IntegrityError)
      (refuted : envelope.decode stored >>= envelope.verify = .error problem) :
      Resolves envelope signal
        (.download (some reference) signal (.ok ()) ::
          (reads ++ [.close] ++ envelope.decoding stored))
        (.error (.integrity problem)) := .rejected external named collects refuted
  cases decoded : envelope.decode stored with
  | error problem =>
    have came : checked envelope stored = .error (.integrity problem) := by
      simp [checked, decoded, bind, Except.bind]
    exact came ▸ refutes problem (by rw [decoded]; rfl)
  | ok body =>
    cases verified : envelope.verify body with
    | error problem =>
      have came : checked envelope stored = .error (.integrity problem) := by
        simp [checked, decoded, verified, bind, Except.bind, Functor.map,
          Except.map]
      exact came ▸ refutes problem (by rw [decoded]; exact verified)
    | ok =>
      have came : checked envelope stored = .ok (envelope.withBody body) := by
        simp [checked, decoded, verified, bind, Except.bind, Functor.map,
          Except.map]
      exact came ▸ .restored external named collects decoded (Envelope.body_of_decode decoded)
        verified

/-- Resolving an envelope comes to one of these, whatever its store does. -/
theorem resolves (dwindles : store.reader.Dwindles)
    (closes : ∀ scene, ∃ after, store.reader.close scene = .ok () after) (envelope : Envelope)
    (signal : Option Signal) (scene : Scene ρ) :
    Resolves envelope signal (resolving store envelope signal scene)
      ((resolve (some store) (some envelope) signal).outcome scene) := by
  cases external : envelope.isExternal with
  | false => simpa [resolving, resolve_eq, external, Action.outcome] using Resolves.inline external
  | true =>
    cases named : envelope.reference? with
    | none =>
      simpa [resolving, resolve_eq, external, named, Action.outcome] using
        Resolves.unnamed external named
    | some reference =>
      rw [resolving_external external named, resolve_outcome external named]
      rcases Store.fetch_collects dwindles closes (some reference) signal scene with
        ⟨failure, failed, happened⟩ | ⟨reads, collects, happened⟩
      · rw [failed, happened]
        exact .refused external named
      · rw [happened]
        generalize (store.fetch (some reference) signal).outcome scene = given at collects
        cases given with
        | error failure =>
          have came : (.error failure >>= checked envelope) = .error failure := rfl
          simpa only [came, List.append_nil] using Resolves.broken external named collects
        | ok stored => exact resolves_checked external named collects

/-- Resolving an envelope, with all that happens written down, comes to what it comes to anyway. Where
the headers name a reference there is one download of it and no other call of the store; the stream
is closed once, after the last read and before anything is decompressed; failures of the store and of
the stream are passed on, and any other says that what was stored does not fit the headers. An
envelope that is restored has the body that was stored, decompressed if need be, and is otherwise as
it was. -/
theorem resolve_downloads_once {ρ τ : Type} (store : Store ρ τ) (dwindles : store.reader.Dwindles)
    (closes : ∀ scene, ∃ after, store.reader.close scene = .ok () after) (envelope : Envelope)
    (signal : Option Signal) (entries : List Happening) (scene : Scene ρ) :
    resolveBy (fun bytes => pure (Gzip.decompress bytes)) store envelope signal =
      resolve (some store) (some envelope) signal ∧
    ∃ happenings,
      resolveBy Envelope.unzipping store.recorded envelope signal
          (Ledger.pair.opened entries scene) =
        Ledger.pair.closed (entries ++ happenings)
          (resolve (some store) (some envelope) signal scene) ∧
      Resolves envelope signal happenings
        ((resolve (some store) (some envelope) signal).outcome scene) :=
  ⟨rfl, resolving store envelope signal scene,
    resolve_keeps store envelope signal entries scene,
    resolves dwindles closes envelope signal scene⟩

/-- A store whose streams give what they are told to, one read after the other. -/
def scripted (script : List (Except Failure Bytes)) : Store Unit (List (Except Failure Bytes)) where
  upload _ := return some "r"
  download _ _ := return script
  delete _ _ := return ()
  reader :=
    { read := fun _ scene =>
        match scene.rest.1 with
        | [] => .ok [] scene
        | given :: rest => Action.ofExcept given (scene.withRest (rest, ()))
      close := return ()
      pieces := List.length }

private theorem scripted_dwindles (script : List (Except Failure Bytes)) :
    (scripted script).reader.Dwindles := by
  intro scene piece after ran more
  cases left : scene.rest.1 with
  | nil =>
    simp only [scripted, left] at ran
    cases ran
    exact absurd rfl more
  | cons given rest =>
    simp only [scripted, left] at ran
    obtain ⟨-, rfl⟩ := Action.ofExcept_eq_ok.mp ran
    simp [scripted]

/-- A stream that is cancelled at its second piece is closed all the same, and nothing else is done. -/
theorem cancelled_stream_is_closed :
    (scripted [.ok [1], .error (.cancelled "")]).reader.Dwindles ∧
    (∀ scene, ∃ after, (scripted [.ok [1], .error (.cancelled "")]).reader.close scene =
      .ok () after) ∧
    ∃ happenings after,
      resolveBy Envelope.unzipping (scripted [.ok [1], .error (.cancelled "")]).recorded
        (staleEnvelope "External") none (.bare ([], ())) = .error (.cancelled "") after ∧
      after.rest.1 = happenings ∧
      happenings = [.download (some "r") none (.ok ()), .read 81920 (.ok [1]),
        .read 81920 (.error (.cancelled "")), .close] ∧
      Resolves (staleEnvelope "External") none happenings (.error (.cancelled "")) := by
  have dwindles : (scripted [.ok [1], .error (.cancelled "")]).reader.Dwindles :=
    scripted_dwindles _
  have closes : ∀ scene, ∃ after,
      (scripted [.ok [1], .error (.cancelled "")]).reader.close scene = .ok () after :=
    fun scene => ⟨scene, rfl⟩
  obtain ⟨-, happenings, ran, resolves⟩ :=
    resolve_downloads_once (scripted [.ok [1], .error (.cancelled "")]) dwindles closes
      (staleEnvelope "External") none [] (.bare ())
  obtain ⟨after, traced, journal⟩ : ∃ after,
      resolveBy Envelope.unzipping (scripted [.ok [1], .error (.cancelled "")]).recorded
        (staleEnvelope "External") none (.bare ([], ())) = .error (.cancelled "") after ∧
      after.rest.1 = [.download (some "r") none (.ok ()), .read 81920 (.ok [1]),
        .read 81920 (.error (.cancelled "")), .close] := ⟨_, rfl, rfl⟩
  have written : after.rest.1 = happenings := by
    cases traced.symm.trans ran
    rfl
  exact ⟨dwindles, closes, happenings, after, traced, written, written.symm.trans journal, resolves⟩

end Policy
end ClaimCheck
