import ClaimCheck.Proofs.InlineBodies
import ClaimCheck.Proofs.MemoryClaims

/-!
Messages that are passed on from party to party, each with a policy of its own, over one store in
memory. The headers of a claim stay on an envelope that has its body back, so a later party may send
them on unchanged and make its receiver fetch the same object again.
-/
namespace ClaimCheck

/-- What a call of a store leaves behind, whatever it answers. -/
def StoreCall.perform {ρ τ : Type} (store : Store ρ τ) (call : StoreCall) (scene : Scene ρ) :
    Scene ρ :=
  match call with
  | .upload given => (store.upload given).sceneAfter scene
  | .download reference signal => (store.download reference signal).sceneAfter scene
  | .delete reference signal => (store.delete reference signal).sceneAfter scene

def StoreCall.isDeletion : StoreCall → Bool
  | .delete _ _ => true
  | _ => false

namespace MemoryStore

/-- What there is under a reference that ends in an identifier given out. -/
structure Remains (scene : Scene MemoryStore) (reference : String) (found : Option Entry) : Prop where
  numbered : ∃ front n, reference = front ++ "/" ++ IdSource.text 32 n ∧ n ≤ scene.ids.used
  held : scene.rest.entries.get? reference = found

/-- An object that stays for good, under a reference that ends in an identifier given out. -/
structure Retains (scene : Scene MemoryStore) (reference : String) (bytes : Bytes) : Prop where
  numbered : ∃ front n, reference = front ++ "/" ++ IdSource.text 32 n ∧ n ≤ scene.ids.used
  held : scene.rest.entries.get? reference = some ⟨bytes, none⟩

variable {scene : Scene MemoryStore} {reference : String} {bytes : Bytes} {found : Option Entry}

private theorem retains_iff :
    Retains scene reference bytes ↔ Remains scene reference (some ⟨bytes, none⟩) :=
  ⟨fun retains => ⟨retains.numbered, retains.held⟩, fun remains => ⟨remains.numbered, remains.held⟩⟩

/-- No upload overwrites what is there, nor puts anything where nothing is any more. -/
theorem Remains.stored {key : String} {entry : Entry} (remains : Remains scene reference found) :
    Remains (scene.drawn.withRest (scene.rest.put (referenceFor key scene) entry)) reference
      found := by
  obtain ⟨front, n, rfl, given⟩ := remains.numbered
  have fresh : front ++ "/" ++ IdSource.text 32 n ≠ referenceFor key scene := by
    intro same
    have number := IdSource.eq_of_join same
    omega
  refine ⟨⟨front, n, rfl, Nat.le_succ_of_le given⟩, ?_⟩
  exact (Table.get?_set _ _ _ _).trans ((if_neg fresh).trans remains.held)

/-- A lookup drops nothing but an entry whose time the clock has reached. -/
theorem Remains.opened {asked : String} (remains : Remains scene reference found) :
    Remains (Action.sceneAfter (open? asked) scene) reference found ∨
      Remains (Action.sceneAfter (open? asked) scene) reference none ∧
        ∃ entry, found = some entry ∧ scene.rest.clock.hasReached entry.expires = true := by
  simp only [Action.sceneAfter, open?]
  cases lookup : scene.rest.entries.get? asked with
  | none => exact .inl remains
  | some entry =>
    cases reading : entry.readAt scene.rest.clock with
    | error failure => simpa only [reading] using Or.inl remains
    | ok readable =>
      cases readable with
      | true => simpa only [reading] using Or.inl remains
      | false =>
        simp only [reading]
        by_cases same : reference = asked
        · subst same
          refine .inr ⟨⟨remains.numbered, ?_⟩, entry, remains.held.symm.trans lookup, ?_⟩
          · exact (Table.get?_erase _ _ _).trans (if_pos rfl)
          · exact hasReached_of_readAt reading
        · refine .inl ⟨remains.numbered, ?_⟩
          exact (Table.get?_erase _ _ _).trans ((if_neg same).trans remains.held)

/-- Short of a deletion, and of a lookup when its time has come, what is there stays. -/
theorem Remains.perform {call : StoreCall} (kept : call.isDeletion = false)
    (remains : Remains scene reference found) :
    Remains (call.perform store scene) reference found ∨
      Remains (call.perform store scene) reference none ∧
        ∃ entry, found = some entry ∧ scene.rest.clock.hasReached entry.expires = true := by
  cases call with
  | upload upload =>
    have ran : store.upload upload scene = _ := upload_run upload scene
    simp only [StoreCall.perform, Action.sceneAfter, ran, store?]
    cases accepts upload (scene.isCancelled upload.signal) with
    | error failure => exact .inl remains
    | ok key =>
      cases upload.expiry with
      | error failure =>
        obtain ⟨front, n, named, given⟩ := remains.numbered
        exact .inl ⟨⟨front, n, named, Nat.le_succ_of_le given⟩, remains.held⟩
      | ok expires => exact .inl remains.stored
  | download asked signal =>
    have ran : store.download asked signal scene = _ := download_run asked signal scene
    simp only [StoreCall.perform, Action.sceneAfter, ran]
    cases Reference.accepted asked with
    | error failure => exact .inl remains
    | ok name =>
      cases scene.isCancelled signal with
      | true => exact .inl remains
      | false => exact remains.opened
  | delete => cases kept

/-- Whatever is asked of the store, short of a deletion, an object without an expiry stays. -/
theorem Retains.perform {call : StoreCall} (kept : call.isDeletion = false)
    (retains : Retains scene reference bytes) :
    Retains (call.perform store scene) reference bytes := by
  rcases (retains_iff.mp retains).perform kept with remains | ⟨-, entry, same, reached⟩
  · exact retains_iff.mpr remains
  · cases same
    cases reached

end MemoryStore

namespace Envelope

/-- The claim that an envelope still makes in its headers, though it has its body: the object that
they name is there, and gives the same body. -/
structure IsBacked (envelope : Envelope) (scene : Scene MemoryStore) (reference : String) :
    Prop where
  named : envelope.reference? = some reference
  normal : Reference.normalize reference = .ok reference
  stored : ∃ bytes, MemoryStore.Retains scene reference bytes ∧
    envelope.decode bytes = .ok envelope.body
  verified : envelope.verify envelope.body = .ok ()

/-- An envelope with its body, whose headers claim nothing, or something that is so. -/
def IsSettled (envelope : Envelope) (scene : Scene MemoryStore) : Prop :=
  envelope.isExternal = true → ∃ reference, envelope.IsBacked scene reference

end Envelope

/-- One party after another: the policy that a party sends by, and what is asked of the store by
others, before the party sends and before the next one receives. -/
structure Hop where
  policy : Policy
  sending : List StoreCall
  receiving : List StoreCall
  sound : policy.isSound = true
  kept : ∀ call ∈ sending ++ receiving, call.isDeletion = false

namespace Hop

private theorem sending_kept (hop : Hop) : ∀ call ∈ hop.sending, call.isDeletion = false := by
  intro call member
  exact hop.kept call (List.mem_append_left _ member)

private theorem receiving_kept (hop : Hop) : ∀ call ∈ hop.receiving, call.isDeletion = false := by
  intro call member
  exact hop.kept call (List.mem_append_right _ member)

/-- Others make their calls. -/
def meanwhile (calls : List StoreCall) : Action MemoryStore Unit := fun scene =>
  .ok () (calls.foldl (fun scene call => call.perform MemoryStore.store scene) scene)

/-- An envelope is sent on, and received. -/
def carry (hop : Hop) (envelope : Envelope) : Action MemoryStore Envelope := do
  meanwhile hop.sending
  let sent ← hop.policy.prepare (some MemoryStore.store) (some envelope) none none
  meanwhile hop.receiving
  Policy.resolve (some MemoryStore.store) (some sent) none

/-- The envelopes that are received along a chain. -/
def forward : List Hop → Envelope → Action MemoryStore (List Envelope)
  | [], _ => pure []
  | hop :: rest, envelope => do
    let received ← hop.carry envelope
    let later ← forward rest received
    return received :: later

variable {envelope : Envelope} {scene : Scene MemoryStore} {calls : List StoreCall}

private theorem retains_meanwhile {reference : String} {bytes : Bytes}
    (kept : ∀ call ∈ calls, call.isDeletion = false)
    (retains : MemoryStore.Retains scene reference bytes) :
    MemoryStore.Retains ((meanwhile calls).sceneAfter scene) reference bytes := by
  simp only [meanwhile, Action.sceneAfter]
  induction calls generalizing scene with
  | nil => exact retains
  | cons call rest ih =>
    have first := retains.perform (kept call (by simp))
    exact ih (fun call member => kept call (by simp [member])) first

private theorem isSettled_meanwhile (kept : ∀ call ∈ calls, call.isDeletion = false)
    (settled : envelope.IsSettled scene) :
    envelope.IsSettled ((meanwhile calls).sceneAfter scene) := by
  intro external
  obtain ⟨reference, backed⟩ := settled external
  obtain ⟨bytes, retains, decoded⟩ := backed.stored
  exact ⟨reference, { backed with stored := ⟨bytes, retains_meanwhile kept retains, decoded⟩ }⟩

private theorem resolve_settled (settled : envelope.IsSettled scene) :
    Policy.resolve (some MemoryStore.store) (some envelope) none scene = .ok envelope scene := by
  cases external : envelope.isExternal with
  | false => exact Policy.resolve_inline _ _ _ external scene
  | true =>
    obtain ⟨reference, backed⟩ := settled external
    obtain ⟨bytes, retains, decoded⟩ := backed.stored
    have accepted := Reference.accepted_some_iff.mpr backed.normal
    have fetched := MemoryStore.fetch_lasting accepted scene.isCancelled_none retains.held
    exact Policy.resolve_of_fetched external backed.named fetched decoded backed.verified

private theorem carry_of_prepared {hop : Hop} {sent : Envelope} {middle : Scene MemoryStore}
    (prepared : hop.policy.prepare (some MemoryStore.store) (some envelope) none none
      ((meanwhile hop.sending).sceneAfter scene) = .ok sent middle) :
    hop.carry envelope scene = Policy.resolve (some MemoryStore.store) (some sent) none
      ((meanwhile hop.receiving).sceneAfter middle) := by
  have waited : meanwhile hop.sending scene = .ok () ((meanwhile hop.sending).sceneAfter scene) := rfl
  rw [carry, Action.bind_of_ok waited, Action.bind_of_ok prepared]
  rfl

/-- A small body travels with its envelope, whatever the headers still claim. -/
theorem carry_small {hop : Hop} (small : envelope.body.length ≤ hop.policy.threshold)
    (settled : envelope.IsSettled scene) :
    ∃ after, hop.carry envelope scene = .ok envelope after ∧ envelope.IsSettled after := by
  have before := isSettled_meanwhile hop.sending_kept settled
  have after := isSettled_meanwhile hop.receiving_kept before
  refine ⟨_, ?_, after⟩
  rw [carry_of_prepared (hop.policy.prepare_small _ _ _ _ small _)]
  exact resolve_settled after

/-- A body that is stored anew comes back, and its new headers claim what is so. -/
theorem carry_large {hop : Hop} (large : hop.policy.threshold < envelope.body.length)
    (scene : Scene MemoryStore) :
    ∃ received after, hop.carry envelope scene = .ok received after ∧
      received.IsSettled after ∧ received.Resembles envelope := by
  let before := (meanwhile hop.sending).sceneAfter scene
  obtain ⟨key, normal, prepared⟩ := Policy.prepare_large hop.sound large before.isCancelled_none
  generalize named : MemoryStore.referenceFor key before = reference at normal prepared
  generalize stored : before.drawn.withRest (before.rest.put reference
    ⟨hop.policy.encode envelope.body, none⟩) = middle at prepared
  have fresh : MemoryStore.Retains middle reference (hop.policy.encode envelope.body) := by
    subst stored named
    exact ⟨⟨key, before.ids.used + 1, rfl, Nat.le_refl _⟩, MemoryStore.get?_put_self _ _ _⟩
  have retains := retains_meanwhile hop.receiving_kept fresh
  have shown : Text.blank reference = false := Reference.blank_of_normalize normal
  have fetched := MemoryStore.fetch_lasting (Reference.accepted_some_iff.mpr normal)
    (Scene.isCancelled_none _) retains.held
  have carried := (carry_of_prepared prepared).trans (Policy.resolve_claimed none shown fetched)
  refine ⟨_, _, carried, ?_, ?_⟩
  · intro _
    refine ⟨reference, ?_, normal, ⟨_, retains, ?_⟩, ?_⟩
    · exact (hop.policy.claimed_isExternal envelope none shown).2
    · exact hop.policy.decode_claimed envelope reference none
    · exact hop.policy.verify_claimed envelope reference none
  · exact ⟨rfl, rfl, rfl, rfl, Headers.visible_claim ..⟩

/-- One hop keeps the message, and leaves no header that claims what is not so. -/
theorem carry_settled (hop : Hop) (settled : envelope.IsSettled scene) :
    ∃ received after, hop.carry envelope scene = .ok received after ∧
      received.IsSettled after ∧ received.Resembles envelope := by
  by_cases small : envelope.body.length ≤ hop.policy.threshold
  · obtain ⟨after, carried, kept⟩ := carry_small small settled
    exact ⟨envelope, after, carried, kept, .refl envelope⟩
  · exact carry_large (Nat.lt_of_not_le small) scene

private theorem forward_settled (hops : List Hop) (settled : envelope.IsSettled scene) :
    ∃ received after, forward hops envelope scene = .ok received after ∧
      received.length = hops.length ∧ ∀ each ∈ received, each.Resembles envelope := by
  induction hops generalizing envelope scene with
  | nil => exact ⟨[], scene, rfl, rfl, by simp⟩
  | cons hop rest ih =>
    obtain ⟨received, middle, carried, kept, same⟩ := carry_settled hop settled
    obtain ⟨later, after, forwarded, count, alike⟩ := ih kept
    refine ⟨received :: later, after, ?_, by simp [count], ?_⟩
    · simp only [forward]
      rw [Action.bind_of_ok carried, Action.bind_of_ok forwarded]
      rfl
    · intro each member
      rcases List.mem_cons.mp member with rfl | member
      · exact same
      · exact (alike each member).trans same

/-- A message that starts out with its body, and no claim in its headers, is received by every party
of a chain as it was sent by the first, whatever their policies are and whatever else is asked of
the store, as long as nothing is deleted. -/
theorem forward_keeps_message (hops : List Hop) (envelope : Envelope) (scene : Scene MemoryStore)
    (inline : envelope.isExternal = false) :
    ∃ received after, forward hops envelope scene = .ok received after ∧
      received.length = hops.length ∧ ∀ each ∈ received, each.Resembles envelope := by
  apply forward_settled
  intro external
  cases external.symm.trans inline

/-- Two parties that store what they send, around one that does not. -/
def sampleHops : List Hop :=
  [⟨compressing, [], [.upload ⟨.ofBytes [9], some "k", none, none, none⟩], by decide, by decide⟩,
    ⟨.default, [.download (some "r") none], [], by decide, by decide⟩,
    ⟨{ Policy.default with threshold := 0 }, [], [], by decide, by decide⟩]

theorem sampleHops_keep_message :
    sampleEnvelope.isExternal = false ∧
      ∃ received after, forward sampleHops sampleEnvelope (.bare .vacant) = .ok received after ∧
        received.length = 3 ∧ ∀ each ∈ received, each.Resembles sampleEnvelope :=
  ⟨by decide, forward_keeps_message sampleHops sampleEnvelope (.bare .vacant) (by decide)⟩

end Hop
end ClaimCheck
