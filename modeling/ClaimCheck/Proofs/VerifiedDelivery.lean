import ClaimCheck.Proofs.ClaimRoundTrip
import ClaimCheck.Proofs.RequestGate

/-!
Bodies that come back from a store have the digest that they left with, whatever the store does. So
a handler sees nothing of a message whose body was not restored: until then, what a transport does
is the same for all handlers.
-/
namespace ClaimCheck

namespace Bytes

private theorem hexDigit_injective : ∀ m < 16, ∀ n < 16, hexDigit m = hexDigit n → m = n := by
  decide

private theorem hex_injective : Function.Injective hex := by
  intro bytes others same
  have digits := congrArg String.toList same
  simp only [hex, String.toList_ofList] at digits
  clear same
  induction bytes generalizing others with
  | nil =>
    cases others with
    | nil => rfl
    | cons other rest => simp at digits
  | cons b bytes ih =>
    cases others with
    | nil => simp at digits
    | cons other rest =>
      simp only [List.flatMap_cons, List.cons_append, List.nil_append, List.cons.injEq] at digits
      obtain ⟨high, low, digits⟩ := digits
      have small := b.toNat_lt
      have bounded := other.toNat_lt
      have highs := hexDigit_injective _ (by omega) _ (by omega) high
      have lows := hexDigit_injective _ (by omega) _ (by omega) low
      have byte : b = other := UInt8.toNat_inj.mp (by omega)
      rw [byte, ih digits]

end Bytes

namespace Text

private theorem eq_of_isWord_hex {bytes others : Bytes}
    (same : isWord bytes.hex others.hex = true) :
    bytes = others := by
  have lower := isWord_hex others
  simp only [isWord, beq_iff_eq] at same lower
  exact Bytes.hex_injective (String.toList_injective (same.symm.trans lower))

private theorem blank_hex {bytes : Bytes} (present : bytes ≠ []) : blank bytes.hex = false := by
  have shown : ∀ digit < 16, isBlank (hexDigit digit) = false := by decide
  obtain ⟨b, rest, rfl⟩ := List.exists_cons_of_ne_nil present
  have small := b.toNat_lt
  simp [blank, Bytes.hex, shown (b.toNat / 16) (by omega)]

end Text

namespace Digest

private theorem sha256_ne_nil (message : Bytes) : sha256 message ≠ [] := by
  simp [sha256, Words.toList, Bytes.littleEndian]

end Digest

namespace Policy

variable {ρ τ : Type} {policy : Policy} {store : Store ρ τ} {envelope : Envelope}

private theorem digest_of_verify {reference : String} {marker : Option String} {body : Bytes}
    (verified : (policy.claimed envelope reference marker).verify body = .ok ()) :
    Digest.sha256 body = Digest.sha256 envelope.body := by
  obtain ⟨-, -, digest, -⟩ := policy.claimed_headers envelope reference marker
  have shown : Text.blank (Digest.sha256Hex envelope.body) = false :=
    Text.blank_hex (Digest.sha256_ne_nil _)
  simp only [Envelope.verify, digest, shown, Bool.false_or] at verified
  split at verified
  · next same => exact Text.eq_of_isWord_hex same
  · cases verified

/-- Whatever a store gives for a claim, only a body of the right digest is handed on. -/
theorem digest_of_resolve {reference : String} {marker : Option String} {signal : Option Signal}
    {scene after : Scene ρ} {received : Envelope} (shown : Text.blank reference = false)
    (ran : resolve (some store) (some (policy.claimed envelope reference marker)) signal scene =
      .ok received after) : Digest.sha256 received.body = Digest.sha256 envelope.body := by
  obtain ⟨_, _, -, -, verified⟩ := resolve_claimed_eq_ok shown ran
  exact digest_of_verify verified

/-- What was sent on after it was prepared is restored with its digest, or not at all. -/
theorem digest_of_prepare {expiresAt : Option Moment} {sending receiving : Option Signal}
    {other : Store ρ τ} {scene middle later after : Scene ρ} {out received : Envelope}
    (large : policy.threshold < envelope.body.length)
    (prepared : policy.prepare (some store) (some envelope) expiresAt sending scene =
      .ok out middle)
    (resolved : resolve (some other) (some out) receiving later = .ok received after) :
    Digest.sha256 received.body = Digest.sha256 envelope.body := by
  obtain ⟨reference, marker, -, shown, rfl⟩ := prepare_eq_ok large prepared
  exact digest_of_resolve shown resolved

end Policy

namespace Checked

variable {α β : Type}

theorem both_eq_ok {left : Checked α} {right : Checked β} {first : α} {second : β} :
    left.both right = .ok (first, second) ↔ left = .ok first ∧ right = .ok second := by
  cases left <;> cases right <;> simp [both]

end Checked

/-- An envelope of a draft has the body and the headers that are read from the draft. -/
theorem Envelope.read_of_ofDraft {now : Instant} {draft : Draft} {envelope : Envelope}
    (made : ofDraft now draft = .ok envelope) :
    readBody draft.body = .ok envelope.body ∧
      Field.required Field.texts draft.headers = .ok envelope.headers := by
  simp only [ofDraft] at made
  split at made
  · cases made
  · split at made
    · cases made
    · next read =>
      cases made
      simp only [Checked.sorted, Checked.inField, mapError_eq_ok, Checked.both_eq_ok] at read
      obtain ⟨-, -, -, body, headers⟩ := read
      exact ⟨body, headers⟩

namespace Outgoing

variable {ρ : Type}

private theorem pack_eq_ok {outgoing : Outgoing} {scene after : Scene ρ} {envelope : Envelope}
    (packed : outgoing.pack scene = .ok envelope after) :
    Message.serialize outgoing.message = .ok envelope.body := by
  obtain ⟨_, _, -, packed⟩ := Action.bind_eq_ok.mp packed
  obtain ⟨body, _, written, packed⟩ := Action.bind_eq_ok.mp packed
  obtain ⟨_, _, -, packed⟩ := Action.bind_eq_ok.mp packed
  obtain ⟨now, _, -, made⟩ := Action.bind_eq_ok.mp packed
  obtain ⟨drafted, -⟩ := Action.ofExcept_eq_ok.mp made
  obtain ⟨same, -⟩ := Envelope.read_of_ofDraft (mapError_eq_ok.mp drafted)
  rw [← Except.ok.inj same]
  exact (Action.ofExcept_eq_ok.mp written).1

end Outgoing

/-- The way of a message by a store: the envelope that was packed, the one that was sent on for it, and
the one that was restored from that, each where the step before had left off. -/
inductive Policy.Restores {ρ τ : Type} (policy : Policy) (store : Store ρ τ) (outgoing : Outgoing)
    (signal : Option Signal) (scene : Scene ρ) (envelope transmitted received : Envelope)
    (after : Scene ρ) : Prop
  | intro {packed sent : Scene ρ} (made : outgoing.pack scene = .ok envelope packed)
      (prepared : policy.prepare (some store) (some envelope) none signal packed =
        .ok transmitted sent)
      (resolved : resolve (some store) (some transmitted) signal sent = .ok received after)

namespace Policy.Restores

variable {ρ τ : Type} {policy : Policy} {store : Store ρ τ} {outgoing : Outgoing}
  {signal : Option Signal} {scene sent after : Scene ρ} {envelope transmitted received : Envelope}

private theorem of_departs
    (departs : (Desk.staffed policy store).passage.Departs outgoing signal scene envelope transmitted
      sent)
    (handed : (Desk.staffed policy store).passage.inbound transmitted signal sent =
      .ok received after) :
    policy.Restores store outgoing signal scene envelope transmitted received after := by
  obtain ⟨made, prepared⟩ := departs
  exact .intro made prepared handed

/-- A large body is restored with its digest. -/
theorem digest {body : Bytes}
    (restores : policy.Restores store outgoing signal scene envelope transmitted received after)
    (serialized : Message.serialize outgoing.message = .ok body)
    (large : policy.threshold < body.length) :
    Digest.sha256 received.body = Digest.sha256 body := by
  obtain ⟨made, prepared, resolved⟩ := restores
  cases serialized.symm.trans (Outgoing.pack_eq_ok made)
  exact digest_of_prepare large prepared resolved

/-- Once a message was restored, its handlers are told of what was. -/
theorem publish_eq {η : Type} {scene : Scene (Bus η × ρ)}
    (restores : policy.Restores store outgoing signal (scene.withRest scene.rest.2) envelope
      transmitted received after)
    (spoken : outgoing.message.isNull = false) (deliver : Bus.Delivery η ρ) :
    Bus.publish (.staffed policy store) deliver outgoing signal scene =
      Bus.deliverAll deliver signal outgoing.message scene.rest.1.live received.context
        (after.withRest (scene.rest.1.record transmitted, after.rest)) := by
  obtain ⟨made, prepared, resolved⟩ := restores
  have receives : Bus.Receives ((Desk.staffed policy store).passage.on .second) outgoing signal scene
      received (after.withRest (scene.rest.1.record transmitted, after.rest)) :=
    Bus.receives_second_iff.mpr ⟨spoken, envelope, transmitted, _, after, .intro made prepared,
      resolved, rfl⟩
  rw [Bus.publish, Bus.publishBy_run, Bus.transfer_of_receives receives]
  rfl

private theorem send_eq {α : Type} {limit : Value}
    (restores : policy.Restores store outgoing signal scene envelope transmitted received after)
    (valid : Timeout.isNegative limit = .ok false) (free : after.isCancelled signal = false)
    (handle : Value → Context → Call ρ α) :
    Requests.send (.staffed policy store) limit handle outgoing signal scene =
      Requests.await envelope.messageId limit signal (handle outgoing.message received.context)
        after := by
  obtain ⟨made, prepared, resolved⟩ := restores
  exact Requests.sendBy_of_transfer
    (Requests.transfer_eq_ok_iff.mpr ⟨valid, .intro (.intro made prepared) resolved, free⟩)

end Policy.Restores

/-- Whatever a store does, a large body comes back from it with the digest that it was sent with, or
not at all. Of a message with such a body, handlers are told once it has come back for the envelope
that was sent on; until then, what publishing or sending it comes to does not depend on them. -/
theorem bodies_are_restored {ρ τ η α : Type} (policy : Policy) (store : Store ρ τ) :
    (∀ (envelope out received : Envelope) (expiresAt : Option Moment)
      (sending receiving : Option Signal) (scene middle later after : Scene ρ),
      policy.threshold < envelope.body.length →
      policy.prepare (some store) (some envelope) expiresAt sending scene = .ok out middle →
      Policy.resolve (some store) (some out) receiving later = .ok received after →
      Digest.sha256 received.body = Digest.sha256 envelope.body) ∧
    (∀ (outgoing : Outgoing) (body : Bytes) (signal : Option Signal)
      (scene : Scene (Bus η × ρ)),
      Message.serialize outgoing.message = .ok body → policy.threshold < body.length →
      (∃ envelope transmitted received after,
        policy.Restores store outgoing signal (scene.withRest scene.rest.2) envelope transmitted
          received after ∧
        Digest.sha256 received.body = Digest.sha256 body ∧
        ∀ deliver : Bus.Delivery η ρ,
          Bus.publish (.staffed policy store) deliver outgoing signal scene =
            Bus.deliverAll deliver signal outgoing.message scene.rest.1.live received.context
              (after.withRest (scene.rest.1.record transmitted, after.rest))) ∨
      ∃ failure after, ∀ deliver : Bus.Delivery η ρ,
        Bus.publish (.staffed policy store) deliver outgoing signal scene =
          .error failure after) ∧
    (∀ (outgoing : Outgoing) (body : Bytes) (limit : Value) (signal : Option Signal)
      (scene : Scene ρ),
      Message.serialize outgoing.message = .ok body → policy.threshold < body.length →
      (∃ envelope transmitted received after,
        policy.Restores store outgoing signal scene envelope transmitted received after ∧
        Digest.sha256 received.body = Digest.sha256 body ∧
        ∀ handle : Value → Context → Call ρ α,
          Requests.send (.staffed policy store) limit handle outgoing signal scene =
            Requests.await envelope.messageId limit signal
              (handle outgoing.message received.context) after) ∨
      ∃ result, ∀ handle : Value → Context → Call ρ α,
        Requests.send (.staffed policy store) limit handle outgoing signal scene = result) := by
  refine ⟨?_, ?_, ?_⟩
  · intro envelope out received expiresAt sending receiving scene middle later after large prepared
    exact Policy.digest_of_prepare large prepared
  · intro outgoing body signal scene serialized large
    cases ran : Bus.transfer ((Desk.staffed policy store).passage.on .second) outgoing signal
        scene with
    | ok found reached =>
      left
      obtain ⟨live, received⟩ := found
      obtain ⟨receives, rfl⟩ := Bus.transfer_eq_ok_iff.mp ran
      obtain ⟨spoken, envelope, transmitted, sent, after, departs, handed, -⟩ :=
        Bus.receives_second_iff.mp receives
      have restores := Policy.Restores.of_departs departs handed
      exact ⟨envelope, transmitted, received, after, restores, restores.digest serialized large,
        restores.publish_eq spoken⟩
    | error failure after =>
      right
      refine ⟨failure, after, ?_⟩
      intro deliver
      rw [Bus.publish, Bus.publishBy_run, ran]
  · intro outgoing body limit signal scene serialized large
    cases ran : (Requests.transfer (Desk.staffed policy store).passage limit outgoing signal :
      Action ρ (Except (Reply α) (Envelope × Envelope))) scene with
    | ok found after =>
      cases found with
      | ok envelopes =>
        left
        obtain ⟨envelope, received⟩ := envelopes
        obtain ⟨valid, ⟨departs, handed⟩, free⟩ := Requests.transfer_eq_ok_iff.mp ran
        have restores := Policy.Restores.of_departs departs handed
        exact ⟨envelope, _, received, after, restores, restores.digest serialized large,
          restores.send_eq valid free⟩
      | error reply =>
        right
        refine ⟨.ok reply after, ?_⟩
        intro handle
        exact Action.bind_of_ok ran _
    | error failure after =>
      right
      refine ⟨.error failure after, ?_⟩
      intro handle
      exact Action.bind_of_error ran _

/-- A store that gives the same bytes for every reference. -/
def constantStore (bytes : Bytes) : Store Unit ByteStream where
  upload _ := return some "r"
  download _ _ := return .ofBytes bytes
  delete _ _ := return ()
  reader := ByteStream.reader

private theorem constantStore_fetch (bytes : Bytes) (reference : Option String)
    (signal : Option Signal) (scene : Scene Unit) :
    (constantStore bytes).fetch reference signal scene = .ok bytes scene := by
  have opened : (constantStore bytes).download reference signal scene =
      .ok (.ofBytes bytes) scene := rfl
  rw [Store.fetch, Action.bind_of_ok opened]
  exact ByteStream.reads_ofBytes bytes Unit scene

/-- A policy for which three bytes are many. -/
def eager : Policy :=
  { Policy.default with threshold := 2 }

/-- A store that has the body of a small message for every reference. -/
def mindful : Store Unit ByteStream :=
  constantStore (Text.Utf8.encode "true")

private theorem mindful_restores :
    ∃ envelope transmitted received after,
      eager.Restores mindful (.ofMessage (.bool true)) none (.bare ()) envelope transmitted received
        after ∧ after.task.pending = false := by
  have shown : Text.blank (Scene.bare ()).ids.nextForMessage.1 = false := by decide
  have made := (Outgoing.ofMessage (.bool true)).pack_run (.bare ())
  rw [Outgoing.packed_true shown (Scene.bare ()).now] at made
  have fetched := constantStore_fetch (Text.Utf8.encode "true") (some "r") none
  exact ⟨_, _, _, _, .intro made rfl (Policy.resolve_claimed none (by decide) (fetched _)), rfl⟩

/-- What a store gives back is taken for what was put into it if it has the digest, and handlers are
told of it. -/
theorem constantStore_restores :
    (∃ out received, eager.threshold < sampleEnvelope.body.length ∧
      eager.prepare (some (constantStore [1, 2, 3])) (some sampleEnvelope) none none (.bare ()) =
        .ok out (.bare ()) ∧
      Policy.resolve (some (constantStore [1, 2, 3])) (some out) none (.bare ()) =
        .ok received (.bare ()) ∧
      Digest.sha256 received.body = Digest.sha256 [1, 2, 3]) ∧
    Message.serialize (.bool true) = .ok (Text.Utf8.encode "true") ∧
    eager.threshold < (Text.Utf8.encode "true").length ∧
    (∃ envelope transmitted received after,
      eager.Restores mindful (.ofMessage (.bool true)) none (.bare ()) envelope transmitted received
        after ∧
      Digest.sha256 received.body = Digest.sha256 (Text.Utf8.encode "true") ∧
      ∀ deliver : Bus.Delivery String Unit,
        Bus.publish (.staffed eager mindful) deliver (.ofMessage (.bool true)) none
            (.bare (Bus.empty.add "listener", ())) =
          (deliver "listener" (.bool true) received.context >>= fun _ => pure ())
            (after.withRest ((Bus.empty.add "listener").record transmitted, ()))) ∧
    ∃ envelope transmitted received after,
      eager.Restores mindful (.ofMessage (.bool true)) none (.bare ()) envelope transmitted received
        after ∧
      Digest.sha256 received.body = Digest.sha256 (Text.Utf8.encode "true") ∧
      ∀ handle : Value → Context → Call Unit Value,
        Requests.send (.staffed eager mindful) (.int 1) handle (.ofMessage (.bool true)) none
            (.bare ()) =
          Requests.await envelope.messageId (.int 1) none (handle (.bool true) received.context)
            after := by
  have long : eager.threshold < (Text.Utf8.encode "true").length := by decide
  obtain ⟨_, _, _, last, restores, idle⟩ := mindful_restores
  refine ⟨?_, Message.serialize_true, long, ?_, ?_⟩
  · have prepared : eager.prepare (some (constantStore [1, 2, 3])) (some sampleEnvelope) none none
        (.bare ()) = .ok (eager.claimed sampleEnvelope "r" none) (.bare ()) := rfl
    have shown : Text.blank "r" = false := by decide
    have large : eager.threshold < sampleEnvelope.body.length := by decide
    have fetched : (constantStore [1, 2, 3]).fetch (some "r") none (.bare ()) =
        .ok (eager.encode sampleEnvelope.body) (.bare ()) :=
      constantStore_fetch [1, 2, 3] (some "r") none (.bare ())
    have resolved := Policy.resolve_claimed none shown fetched
    obtain ⟨digests, -, -⟩ := @bodies_are_restored Unit ByteStream Unit Unit eager
      (constantStore [1, 2, 3])
    exact ⟨_, _, large, prepared, resolved,
      digests sampleEnvelope _ _ none none none _ _ _ _ large prepared resolved⟩
  · obtain ⟨-, publishes, -⟩ := @bodies_are_restored Unit ByteStream String Unit eager mindful
    let crowd : Scene (Bus String × Unit) := .bare (Bus.empty.add "listener", ())
    rcases publishes (.ofMessage (.bool true)) _ none crowd Message.serialize_true long with
      ⟨envelope, transmitted, received, after, restores, digest, told⟩ | ⟨failure, last, untold⟩
    · exact ⟨envelope, transmitted, received, after, restores, digest, told⟩
    · -- The publication does not fail if its handlers do not.
      have ran : Bus.publish (.staffed eager mindful) (fun _ _ context => pure context)
          (.ofMessage (.bool true)) none crowd = _ := restores.publish_eq rfl _
      cases ran.symm.trans (untold _)
  · obtain ⟨-, -, sends⟩ := @bodies_are_restored Unit ByteStream Unit Value eager mindful
    rcases sends (.ofMessage (.bool true)) _ (.int 1) none (.bare ()) Message.serialize_true long with
      ⟨envelope, transmitted, received, after, restores, digest, asked⟩ | ⟨result, same⟩
    · exact ⟨envelope, transmitted, received, after, restores, digest, asked⟩
    · -- What the request comes to depends on its handler.
      have answered (answer : Value) : Requests.send (.staffed eager mindful) (.int 1)
          (fun _ _ => .ofAction (pure answer)) (.ofMessage (.bool true)) none (.bare ()) =
            .ok (.success answer) last := by
        rw [restores.send_eq rfl rfl, Requests.await_of_timed rfl]
        simp only [Requests.settle, Call.ofAction, Action.pure_run, Progress.hasEnded,
          RaceVerdict.decide, idle, Bool.false_eq_true, if_false, if_true]
        rfl
      have yes := (same _).symm.trans (answered (.bool true))
      have no := (same _).symm.trans (answered (.bool false))
      cases yes.symm.trans no

end ClaimCheck
