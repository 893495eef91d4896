import ClaimCheck.Policy
import ClaimCheck.Proofs.ActionFrame
import ClaimCheck.Proofs.MemoryOperations

/-!
Small bodies travel with their envelopes. The sender goes by the size of the body and the receiver
by the headers, so they agree exactly if the headers do not say that the body lies in a store.
-/
namespace ClaimCheck

/-- A call of a store. -/
inductive StoreCall
  | upload (upload : Upload)
  | download (reference : Option String) (signal : Option Signal)
  | delete (reference : Option String) (signal : Option Signal)

namespace Store

variable {ρ τ : Type}

def note (call : StoreCall) : Action (List StoreCall × ρ) Unit :=
  Action.update fun state => (state.1 ++ [call], state.2)

/-- A store whose calls are written down before they are made. -/
def watched (store : Store ρ τ) : Store (List StoreCall × ρ) τ where
  upload given := do
    note (.upload given)
    (store.upload given).on .second
  download reference signal := do
    note (.download reference signal)
    (store.download reference signal).on .second
  delete reference signal := do
    note (.delete reference signal)
    (store.delete reference signal).on .second
  reader := store.reader.on .second

private theorem fetch_watched_calls (store : Store ρ τ) (reference : Option String)
    (signal : Option Signal) (scene : Scene (List StoreCall × ρ)) :
    ((store.watched.fetch reference signal).sceneAfter scene).rest.1 =
      scene.rest.1 ++ [.download reference signal] := by
  have reads (stream : τ) : Action.Leaves Prod.fst (store.watched.reader.drain.within stream) :=
    (StreamReader.drain_leaves (Action.leaves_on_beside_second _)
      (Action.leaves_on_beside_second _)).within stream
  have opens : Action.Leaves Prod.fst
      ((store.download reference signal).on (.second : Part (List StoreCall × ρ) ρ)) :=
    Action.leaves_on_second _
  have noted := opens.bind reads
    { scene with rest := (scene.rest.1 ++ [.download reference signal], scene.rest.2) }
  rw [Action.sceneAfter_bind] at noted
  simp only [fetch, watched, note, Action.sceneAfter_bind, Action.bind_run, Action.update_run]
  exact noted

end Store

namespace Policy

variable {ρ τ : Type} {policy : Policy} {store : Store ρ τ} {envelope : Envelope}

theorem prepare_small (policy : Policy) (store : Store ρ τ) (envelope : Envelope)
    (expiresAt : Option Moment) (signal : Option Signal)
    (small : envelope.body.length ≤ policy.threshold) (scene : Scene ρ) :
    policy.prepare (some store) (some envelope) expiresAt signal scene = .ok envelope scene := by
  simp [prepare, small]

theorem resolve_inline (store : Store ρ τ) (envelope : Envelope) (signal : Option Signal)
    (inline : envelope.isExternal = false) (scene : Scene ρ) :
    resolve (some store) (some envelope) signal scene = .ok envelope scene := by
  simp [resolve_eq, inline]

/-- What an envelope makes its receiver ask a store for. -/
def downloads (envelope : Envelope) (signal : Option Signal) : List StoreCall :=
  if envelope.isExternal then
    envelope.reference?.toList.map fun reference => .download (some reference) signal
  else []

/-- Resolving asks a store for what the headers name, and for nothing else. -/
theorem resolve_watched_calls (store : Store ρ τ) (envelope : Envelope) (signal : Option Signal)
    (scene : Scene (List StoreCall × ρ)) :
    ((resolve (some store.watched) (some envelope) signal).sceneAfter scene).rest.1 =
      scene.rest.1 ++ downloads envelope signal := by
  cases external : envelope.isExternal with
  | false => simp [Action.sceneAfter, resolve_inline _ _ _ external, downloads, external]
  | true =>
    cases named : envelope.reference? with
    | none =>
      simp [resolve_eq, external, named, downloads, Action.sceneAfter]
    | some reference =>
      have fetched := store.fetch_watched_calls (some reference) signal scene
      have checks (stored : Bytes) : Action.Leaves Prod.fst (do
          let body ← Action.ofExcept ((envelope.decode stored).mapError .integrity)
          Action.ofExcept ((envelope.verify body).mapError .integrity)
          return envelope.withBody body : Action (List StoreCall × ρ) Envelope) :=
        (Action.leaves_ofExcept _).bind fun _ =>
          (Action.leaves_ofExcept _).bind fun _ => Action.leaves_pure _
      have asked : downloads envelope signal = [.download (some reference) signal] := by
        simp [downloads, external, named]
      simp only [resolve_eq, external, if_true, named]
      rw [Action.sceneAfter_bind, asked, ← fetched]
      cases ran : store.watched.fetch (some reference) signal scene with
      | ok stored after =>
        have own : (store.watched.fetch (some reference) signal).sceneAfter scene = after := by
          simp only [Action.sceneAfter, ran]
        rw [own]
        exact checks stored after
      | error failure after => simp only [Action.sceneAfter, ran]

/-- A message on its way: sent on by one party and resolved by the other. -/
def relay (policy : Policy) (store : Store ρ τ) (envelope : Envelope) (expiresAt : Option Moment)
    (sending receiving : Option Signal) : Action ρ Envelope := do
  let sent ← policy.prepare (some store) (some envelope) expiresAt sending
  resolve (some store) (some sent) receiving

/-- An envelope with a small body arrives as it was, with no call of the store, exactly if its own
headers do not say that its body lies in a store. -/
theorem relay_untouched_iff (policy : Policy) (store : Store ρ τ) (envelope : Envelope)
    (expiresAt : Option Moment) (sending receiving : Option Signal)
    (scene : Scene (List StoreCall × ρ)) (small : envelope.body.length ≤ policy.threshold) :
    (∃ after, policy.relay store.watched envelope expiresAt sending receiving scene =
        .ok envelope after ∧ after.rest.1 = scene.rest.1) ↔
      envelope.isExternal = false := by
  have sent := policy.prepare_small store.watched envelope expiresAt sending small scene
  rw [relay, Action.bind_of_ok sent]
  constructor
  · rintro ⟨after, ran, quiet⟩
    cases external : envelope.isExternal with
    | false => rfl
    | true =>
      exfalso
      have calls := resolve_watched_calls store envelope receiving scene
      simp only [Action.sceneAfter, ran, quiet, downloads, external, if_true] at calls
      cases named : envelope.reference? with
      | none => simp [resolve_eq, external, named] at ran
      | some reference => simp [named] at calls
  · intro inline
    exact ⟨scene, resolve_inline _ _ _ inline scene, rfl⟩

/-- An envelope with a body of one byte, and headers of an earlier journey. -/
def staleEnvelope (mode : String) : Envelope :=
  ⟨"stale", none, .first, [120],
    .ofList [(Headers.modeName, mode), (Headers.referenceName, "r")], by decide⟩

theorem inline_untouched :
    (staleEnvelope "inline").body.length ≤ default.threshold ∧
      ∃ after, default.relay MemoryStore.store.watched (staleEnvelope "inline") none none none
          (.bare ([], .vacant)) = .ok (staleEnvelope "inline") after ∧
        after.rest.1 = [] :=
  ⟨by decide, (relay_untouched_iff default MemoryStore.store (staleEnvelope "inline") none none none
    (.bare ([], .vacant)) (by decide)).mpr (by decide)⟩

/-- Headers that were left over send the receiver to a store. -/
theorem stale_headers_touched :
    ∃ after, default.relay MemoryStore.store.watched (staleEnvelope "External") none none none
        (.bare ([], .vacant)) =
          .error (.store (.notFound (some "r"))) after ∧
      after.rest.1 = [.download (some "r") none] :=
  ⟨_, rfl, rfl⟩

end Policy
end ClaimCheck
