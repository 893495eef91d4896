import ClaimCheck.Proofs.ActionFrame
import ClaimCheck.Proofs.Backends
import ClaimCheck.Proofs.ClaimRoundTrip
import ClaimCheck.Proofs.ObjectKeys

/-!
Bodies of different messages in one container. Messages whose identifiers have different stems are
kept apart: however many of them are sent, each gets its own body back.
-/
namespace ClaimCheck

namespace Call

private theorem run_rest_of_ended {ρ α : Type} {call : Call ρ α} {scene after : Scene ρ}
    {result : Except Failure α} (ended : call.start scene = (.ended result, after))
    (signal : Option Signal) : ((call.run signal).sceneAfter scene).rest = after.rest := by
  cases signal with
  | none =>
    rw [Action.sceneAfter, await_of_ended ended]
    cases result <;> rfl
  | some signal =>
    simp only [Action.sceneAfter, run, race, ended, RaceVerdict.decide, Progress.hasEnded]
    cases pending : after.task.pending with
    | true => rfl
    | false => cases result <;> rfl

end Call

/-- A client that keeps a map in which a put, whatever comes of it, touches its own object only. -/
structure Client.KeepsApart {ρ β : Type} (client : Client ρ β) (reading : CallReading)
    (objects : ρ → String → Option Bytes) (left : β → Bytes) : Prop where
  isMap : client.IsMap reading objects left
  apart : ∀ {key arguments name bytes other} (signal : Option Signal) (scene : Scene ρ),
    reading.stored? key arguments = some (name, bytes) → other ≠ name →
    objects (((client.put key arguments).run signal).sceneAfter scene).rest other =
      objects scene.rest other

private theorem Client.ofTable_keepsApart (reading : CallReading) (refuses : Arguments → Bool) :
    (ofTable reading refuses).KeepsApart reading Table.get? id where
  isMap := ofTable_isMap reading refuses
  apart {key arguments name bytes other} signal scene stored different := by
    cases refused : refuses arguments && scene.rest.contains name with
    | true =>
      have ended : ((ofTable reading refuses).put key arguments).start scene =
          (.ended (.error (.fault (.ofResponse (.bare "PutObject" "PreconditionFailed")
            (some 412)))), scene) := by
        simp only [ofTable, Call.ofAction, Action.bind_run, Action.inspect_run, id, stored, refused]
        rfl
      rw [Call.run_rest_of_ended ended]
    | false =>
      have ended : ((ofTable reading refuses).put key arguments).start scene =
          (.ended (.ok ()), { scene with rest := scene.rest.set name bytes }) := by
        simp only [ofTable, Call.ofAction, Action.bind_run, Action.inspect_run, id, stored, refused]
        rfl
      rw [Call.run_rest_of_ended ended]
      simp [different]

private theorem Moment.expiresMarker_leaves {ρ κ : Type} {view : ρ → κ} (moment : Moment) :
    Action.Leaves view moment.expiresMarker := by
  intro scene
  rw [Moment.expiresMarker, Action.sceneAfter, Action.bind_run, Moment.instant_run]
  cases moment.instant? <;> rfl

namespace CloudStore

variable {ρ β κ : Type} {view : ρ → κ}

/-- Whether a customization leaves alone what is seen of the client. -/
def IsQuiet (options : CloudOptions ρ) (view : ρ → κ) : Prop :=
  ∀ change ∈ options.customize, ∀ request, Action.Leaves view (change request)

private theorem accept_leaves (store : CloudStore ρ β) (upload : Upload) :
    Action.Leaves view (store.accept upload) := by
  intro scene
  rw [Action.sceneAfter, accept_run]
  exact Action.leaves_ofExcept _ scene

private theorem opening_leaves (store : CloudStore ρ β) (quiet : IsQuiet store.options view)
    (upload : Upload) : Action.Leaves view (store.opening upload) := by
  refine (store.accept_leaves upload).bind fun accepted => ?_
  refine Action.Leaves.bind ?_ fun _ => Action.leaves_pure _
  simp only [CloudStore.request, requestOf, UploadRequest.build]
  cases customize : store.options.customize with
  | none => exact (Action.leaves_pure _).bind fun _ => Action.leaves_pure _
  | some change => exact (quiet change (by simp [customize]) _).bind fun _ => Action.leaves_pure _

/-- An upload that returns hands out the reference that its key stands for. -/
theorem upload_returns {store : CloudStore ρ β} {upload : Upload} {scene after : Scene ρ}
    {returned : Option String} (ran : store.upload upload scene = .ok returned after) :
    ∃ key, Reference.accepted upload.key = .ok key ∧
      returned = some (Reference.under store.path key) := by
  obtain ⟨reference, _, _, _, opened, rfl, -⟩ := attempt_of_upload_ok ran
  obtain ⟨key, accepted, named, -⟩ := opening_eq_ok opened
  exact ⟨key, accepted, congrArg some named⟩

variable {backend : Backend} {client : Client ρ β} {options : CloudOptions ρ}
  {objects : ρ → String → Option Bytes} {left : β → Bytes}

private theorem attempt_leaves {α : Type} {call : Action ρ α} (left : Action.Leaves view call)
    (store : CloudStore ρ β) (purpose : Purpose) (reference : String) (signal : Option Signal)
    (gone : Option α) : Action.Leaves view (store.attempt purpose reference signal call gone) := by
  intro scene
  rw [attempt_rest]
  exact left scene

/-- An upload, whatever comes of it, touches no object but the one that its key stands for. -/
theorem upload_leaves (apart : client.KeepsApart (backend.reading options.container) objects left)
    (quiet : IsQuiet options objects) {upload : Upload} {other : String}
    (different : ∀ key, Reference.accepted upload.key = .ok key →
      other ≠ Reference.under (Reference.normalizePath options.path) key) :
    Action.Leaves (fun state => objects state other)
      (CloudStore.upload ⟨backend.service, client, options⟩ upload) := by
  intro scene
  have opens := (opening_leaves ⟨backend.service, client, options⟩ quiet upload).comp
    (fun seen => seen other) scene
  simp only [Action.sceneAfter, upload_run] at opens ⊢
  cases opened : opening ⟨backend.service, client, options⟩ upload scene with
  | error failure after => simpa only [opened] using opens
  | ok asked middle =>
    obtain ⟨reference, arguments⟩ := asked
    obtain ⟨key, accepted, named, -⟩ := opening_eq_ok opened
    have elsewhere : other ≠ reference := by
      rw [named]
      exact different key accepted
    have acquires : Action.Leaves (fun state => objects state other) client.acquire := by
      intro scene
      obtain ⟨after, acquired, same⟩ := apart.isMap.acquire scene
      simp [Action.sceneAfter, acquired, same]
    have puts : Action.Leaves (fun state => objects state other)
        ((client.put reference arguments).run upload.signal) := by
      intro scene
      exact apart.apart upload.signal scene (stored_opening opened) elsewhere
    have tried := attempt_leaves (acquires.bind fun _ => puts) ⟨backend.service, client, options⟩
      .uploading reference upload.signal none
    simp only [opened] at opens ⊢
    exact (tried.map (fun _ => some reference) middle).trans opens

end CloudStore

/-- An envelope on its way into a store. -/
structure Parcel where
  envelope : Envelope
  expiresAt : Option Moment
  signal : Option Signal

namespace Policy

variable {ρ β τ : Type} {policy : Policy} {envelope : Envelope} {path : Option String}
  {reference : String}

/-- Whether an envelope's body goes under a reference, in a store with a fixed path. -/
def Names (policy : Policy) (path : Option String) (envelope : Envelope) (reference : String) :
    Prop :=
  ∃ key, Reference.accepted (some (policy.key envelope)) = .ok key ∧
    reference = Reference.under (Reference.normalizePath path) key

/-- Two envelopes go under the same reference exactly if their identifiers have the same stem. -/
theorem Names.eq_iff {other : Envelope} {another : String}
    (named : policy.Names path envelope reference) (also : policy.Names path other another) :
    reference = another ↔ policy.stem envelope.messageId = policy.stem other.messageId := by
  obtain ⟨key, accepted, rfl⟩ := named
  obtain ⟨second, proposed, rfl⟩ := also
  have first := (Reference.normalize_eq_ok_iff.mp (Reference.accepted_some_iff.mp accepted)).1
  have last := (Reference.normalize_eq_ok_iff.mp (Reference.accepted_some_iff.mp proposed)).1
  rw [(Reference.under_injective _).eq_iff, ← policy.bare_key_eq_iff, ← first, ← last]
  exact String.toList_inj.symm

/-- Prepare a sequence of envelopes. What is sent on is listed with what it was made of; what fails
is left out. -/
def dispatch (policy : Policy) (store : Store ρ τ) :
    List Parcel → Scene ρ → List (Envelope × Envelope) × Scene ρ
  | [], scene => ([], scene)
  | parcel :: rest, scene =>
    match policy.prepare (some store) (some parcel.envelope) parcel.expiresAt parcel.signal
        scene with
    | .ok out after =>
      let (sent, last) := policy.dispatch store rest after
      ((parcel.envelope, out) :: sent, last)
    | .error _ after => policy.dispatch store rest after

variable {backend : Backend} {client : Client ρ β} {options : CloudOptions ρ}
  {objects : ρ → String → Option Bytes} {left : β → Bytes}

/-- Preparing an envelope touches no object but its own. -/
theorem prepare_leaves (apart : client.KeepsApart (backend.reading options.container) objects left)
    (quiet : CloudStore.IsQuiet options objects)
    (large : policy.threshold < envelope.body.length)
    (different : ¬ policy.Names options.path envelope reference) (expiresAt : Option Moment)
    (signal : Option Signal) :
    Action.Leaves (fun state => objects state reference)
      (policy.prepare (some (CloudStore.toStore ⟨backend.service, client, options⟩))
        (some envelope) expiresAt signal) := by
  have long : ¬ envelope.body.length ≤ policy.threshold := by omega
  simp only [prepare, long, if_false]
  have elsewhere : ∀ key, Reference.accepted (some (policy.key envelope)) = .ok key →
      reference ≠ Reference.under (Reference.normalizePath options.path) key :=
    fun key accepted same => different ⟨key, accepted, same⟩
  have uploads : Action.Leaves (fun state => objects state reference)
      (CloudStore.upload ⟨backend.service, client, options⟩
        ⟨.ofStream (policy.encode envelope.body), some (policy.key envelope),
          some (policy.encode envelope.body).length, expiresAt, signal⟩) :=
    CloudStore.upload_leaves apart quiet elsewhere
  refine uploads.bind fun returned => ?_
  cases returned with
  | none => exact Action.leaves_throw _
  | some returned =>
    refine (Action.leaves_ensure _ _).bind fun _ => ?_
    cases expiresAt with
    | none => exact (Action.leaves_pure _).bind fun _ => Action.leaves_pure _
    | some moment =>
      exact (moment.expiresMarker_leaves.map _).bind fun _ => Action.leaves_pure _

/-- Objects that no envelope of a sequence goes under are as they were after it. -/
theorem dispatch_leaves (apart : client.KeepsApart (backend.reading options.container) objects left)
    (quiet : CloudStore.IsQuiet options objects) (parcels : List Parcel) (scene : Scene ρ)
    (large : ∀ parcel ∈ parcels, policy.threshold < parcel.envelope.body.length)
    (different : ∀ parcel ∈ parcels, ¬ policy.Names options.path parcel.envelope reference) :
    objects (policy.dispatch (CloudStore.toStore ⟨backend.service, client, options⟩) parcels
      scene).2.rest reference = objects scene.rest reference := by
  induction parcels generalizing scene with
  | nil => rfl
  | cons parcel rest ih =>
    have ih (scene : Scene ρ) := ih scene (fun parcel member => large parcel (by simp [member]))
      fun parcel member => different parcel (by simp [member])
    have first := prepare_leaves apart quiet (large parcel (by simp)) (different parcel (by simp))
      parcel.expiresAt parcel.signal scene
    simp only [Action.sceneAfter] at first
    simp only [dispatch]
    cases ran : policy.prepare (some (CloudStore.toStore ⟨backend.service, client, options⟩))
        (some parcel.envelope) parcel.expiresAt parcel.signal scene with
    | ok out after => exact (ih after).trans (by simpa only [ran] using first)
    | error failure after => exact (ih after).trans (by simpa only [ran] using first)

/-- What was sent on is a claim for a reference of the envelope, under which its body lies. -/
def IsClaim (policy : Policy) (path : Option String) (objects : String → Option Bytes)
    (envelope out : Envelope) : Prop :=
  ∃ reference marker, out = policy.claimed envelope reference marker ∧
    Text.blank reference = false ∧ policy.Names path envelope reference ∧
    objects reference = some (policy.encode envelope.body)

private theorem prepare_names {expiresAt : Option Moment} {signal : Option Signal}
    {scene after : Scene ρ} {out : Envelope} (large : policy.threshold < envelope.body.length)
    (prepared : policy.prepare (some (CloudStore.toStore ⟨backend.service, client, options⟩))
      (some envelope) expiresAt signal scene = .ok out after) :
    ∃ reference, out.headers.get? Headers.referenceName = some reference ∧
      policy.Names options.path envelope reference := by
  obtain ⟨reference, marker, uploaded, -, rfl⟩ := prepare_eq_ok large prepared
  obtain ⟨-, named, -, -⟩ := policy.claimed_headers envelope reference marker
  obtain ⟨key, accepted, returned⟩ := CloudStore.upload_returns uploaded
  cases returned
  exact ⟨_, named, key, accepted, rfl⟩

/-- An envelope that is sent on leaves its body under its reference. -/
theorem prepare_claims (isMap : client.IsMap (backend.reading options.container) objects left)
    {expiresAt : Option Moment} {signal : Option Signal} {scene after : Scene ρ} {out : Envelope}
    (large : policy.threshold < envelope.body.length)
    (prepared : policy.prepare (some (CloudStore.toStore ⟨backend.service, client, options⟩))
      (some envelope) expiresAt signal scene = .ok out after) :
    policy.IsClaim options.path (objects after.rest) envelope out := by
  obtain ⟨reference, marker, uploaded, shown, rfl⟩ := prepare_eq_ok large prepared
  obtain ⟨key, accepted, returned, stored⟩ :=
    CloudStore.upload_eq_ok (backend.speaks options.container) isMap uploaded
  have whole : (Source.ofStream (policy.encode envelope.body)).remaining =
      policy.encode envelope.body := by
    simp [Source.remaining, Source.ofStream, Source.isHeld]
  cases returned
  exact ⟨_, marker, rfl, shown, ⟨key, accepted, rfl⟩, stored.trans (congrArg some whole)⟩

/-- Whatever comes after it in a sequence, what was sent on is a claim for its own body. -/
theorem dispatch_claims (apart : client.KeepsApart (backend.reading options.container) objects left)
    (quiet : CloudStore.IsQuiet options objects) (parcels : List Parcel) (scene : Scene ρ)
    (large : ∀ parcel ∈ parcels, policy.threshold < parcel.envelope.body.length)
    (distinct : parcels.Pairwise fun earlier later =>
      policy.stem earlier.envelope.messageId ≠ policy.stem later.envelope.messageId) :
    let dispatched := policy.dispatch (CloudStore.toStore ⟨backend.service, client, options⟩)
      parcels scene
    ∀ sent ∈ dispatched.1, (∃ parcel ∈ parcels, parcel.envelope = sent.1) ∧
      policy.IsClaim options.path (objects dispatched.2.rest) sent.1 sent.2 := by
  induction parcels generalizing scene with
  | nil => exact nofun
  | cons parcel rest ih =>
    obtain ⟨apartFirst, distinct⟩ := List.pairwise_cons.mp distinct
    have larger : ∀ parcel ∈ rest, policy.threshold < parcel.envelope.body.length :=
      fun parcel member => large parcel (by simp [member])
    have ih (scene : Scene ρ) := ih scene larger distinct
    simp only [dispatch]
    cases ran : policy.prepare (some (CloudStore.toStore ⟨backend.service, client, options⟩))
        (some parcel.envelope) parcel.expiresAt parcel.signal scene with
    | error failure after =>
      intro sent member
      obtain ⟨⟨source, among, same⟩, claim⟩ := ih after sent member
      exact ⟨⟨source, by simp [among], same⟩, claim⟩
    | ok out after =>
      intro sent member
      rcases List.mem_cons.mp member with rfl | member
      · obtain ⟨reference, marker, claimed, shown, named, stored⟩ :=
          prepare_claims apart.isMap (large parcel (by simp)) ran
        -- The envelopes that follow have other stems, so none of them goes under this reference.
        have different : ∀ other ∈ rest, ¬ policy.Names options.path other.envelope reference := by
          intro other among also
          exact apartFirst other among ((named.eq_iff also).mp rfl)
        have kept := dispatch_leaves apart quiet rest after larger different
        exact ⟨⟨parcel, by simp, rfl⟩, reference, marker, claimed, shown, named,
          kept.trans stored⟩
      · obtain ⟨⟨source, among, same⟩, claim⟩ := ih after sent member
        exact ⟨⟨source, by simp [among], same⟩, claim⟩

/-- A claim whose reference is in normal form gets its body back. -/
theorem IsClaim.resolves {out : Envelope} {scene : Scene ρ}
    (claim : policy.IsClaim options.path (objects scene.rest) envelope out)
    (isMap : client.IsMap (backend.reading options.container) objects left)
    (sound : ∀ key, Reference.accepted (some (policy.key envelope)) = .ok key →
      (Naming.under options.path).isSound key = true) :
    ∃ received after, resolve (some (CloudStore.toStore ⟨backend.service, client, options⟩))
      (some out) none scene = .ok received after ∧ received.body = envelope.body := by
  obtain ⟨reference, marker, rfl, shown, ⟨key, accepted, rfl⟩, stored⟩ := claim
  have proposed := Reference.accepted_some_iff.mp accepted
  have normal := ((Naming.under options.path).normalize_reference_iff proposed (.initial [])).mpr
    (sound key accepted)
  let store : CloudStore ρ β := ⟨backend.service, client, options⟩
  have speaks : store.service.Speaks store.options.container (backend.reading options.container) :=
    backend.speaks options.container
  have map : store.client.IsMap (backend.reading options.container) objects left := isMap
  obtain ⟨after, fetched, -⟩ :=
    CloudStore.fetch_held speaks map (Reference.accepted_some_iff.mpr normal) stored
  exact ⟨_, after, resolve_claimed marker shown fetched, rfl⟩

end Policy

/-- Two envelopes that are sent on name different references exactly if their identifiers have
different stems. If the stems in a sequence are all different, and trimming leaves no blank at the
end of a reference, each of them gets its own body back when all have been sent. -/
theorem prepared_apart_iff {ρ β : Type} (backend : Backend) (options : CloudOptions ρ)
    (policy : Policy) :
    (∀ (first second : Client ρ β) (left right outLeft outRight : Envelope)
      (expires expiresToo : Option Moment) (signal signalToo : Option Signal)
      (scene after later last : Scene ρ),
      policy.threshold < left.body.length → policy.threshold < right.body.length →
      policy.prepare (some (CloudStore.toStore ⟨backend.service, first, options⟩)) (some left)
        expires signal scene = .ok outLeft after →
      policy.prepare (some (CloudStore.toStore ⟨backend.service, second, options⟩)) (some right)
        expiresToo signalToo later = .ok outRight last →
      (outLeft.headers.get? Headers.referenceName ≠ outRight.headers.get? Headers.referenceName ↔
        policy.stem left.messageId ≠ policy.stem right.messageId)) ∧
    (∀ (client : Client ρ β) (objects : ρ → String → Option Bytes) (left : β → Bytes),
      client.KeepsApart (backend.reading options.container) objects left →
      CloudStore.IsQuiet options objects →
      ∀ (parcels : List Parcel) (scene : Scene ρ),
      (∀ parcel ∈ parcels, policy.threshold < parcel.envelope.body.length) →
      (parcels.Pairwise fun earlier later =>
        policy.stem earlier.envelope.messageId ≠ policy.stem later.envelope.messageId) →
      (∀ parcel ∈ parcels, ∀ key,
        Reference.accepted (some (policy.key parcel.envelope)) = .ok key →
        (Naming.under options.path).isSound key = true) →
      let store := CloudStore.toStore ⟨backend.service, client, options⟩
      ∀ sent ∈ (policy.dispatch store parcels scene).1, ∃ received after,
        Policy.resolve (some store) (some sent.2) none (policy.dispatch store parcels scene).2 =
          .ok received after ∧ received.body = sent.1.body) := by
  constructor
  · intro first second left right outLeft outRight _ _ _ _ _ _ _ _ large larger prepared preparedToo
    obtain ⟨reference, shown, named⟩ := Policy.prepare_names large prepared
    obtain ⟨another, shownToo, namedToo⟩ := Policy.prepare_names larger preparedToo
    rw [shown, shownToo, ne_eq, Option.some_inj, named.eq_iff namedToo]
  · intro client objects left apart quiet parcels scene large distinct sound store sent member
    obtain ⟨⟨parcel, among, same⟩, claim⟩ :=
      Policy.dispatch_claims apart quiet parcels scene large distinct sent member
    exact claim.resolves apart.isMap (same ▸ sound parcel among)

/-- A bucket whose uploads replace what is there. -/
def replacing : CloudOptions (Table Bytes) :=
  ⟨"bucket", some "p", true, false, true, none, none⟩

def replacingClient : Client (Table Bytes) Bytes :=
  .ofTable (.ofBucket "bucket") fun arguments => (arguments.get? "IfNoneMatch").isSome

def replacingStore : Store (Table Bytes) (CloudStream Bytes) :=
  CloudStore.toStore ⟨Bucket.service, replacingClient, replacing⟩

def letter (identifier : String) (body : Bytes) (identified : Text.blank identifier = false) :
    Parcel :=
  ⟨⟨identifier, none, .first, body, ∅, identified⟩, none, none⟩

def oneLetter : Parcel := letter "m" [1, 2, 3] rfl

def otherLetter : Parcel := letter "n" [4, 5, 6] rfl

def blankLetter : Parcel := letter "m " [4, 5, 6] rfl

def unpacked : Policy :=
  { Policy.default with threshold := 2 }

private theorem replacingClient_keepsApart :
    replacingClient.KeepsApart (Backend.objects.reading replacing.container) Table.get? id :=
  Client.ofTable_keepsApart _ _

/-- Two letters that overwrite nothing of each other. -/
theorem letters_apart :
    ∃ out outToo last,
      unpacked.dispatch replacingStore [oneLetter, otherLetter] (.bare ∅) =
        ([(oneLetter.envelope, out), (otherLetter.envelope, outToo)], last) ∧
      out.headers.get? Headers.referenceName ≠ outToo.headers.get? Headers.referenceName ∧
      (∃ received after, Policy.resolve (some replacingStore) (some out) none last =
        .ok received after ∧ received.body = [1, 2, 3]) ∧
      ∃ received after, Policy.resolve (some replacingStore) (some outToo) none last =
        .ok received after ∧ received.body = [4, 5, 6] := by
  have prepared : unpacked.prepare (some replacingStore) (some oneLetter.envelope) none none
      (.bare ∅) = .ok (unpacked.claimed oneLetter.envelope "p/payload/m" none)
        (.bare (Table.set ∅ "p/payload/m" [1, 2, 3])) := rfl
  have preparedToo : unpacked.prepare (some replacingStore) (some otherLetter.envelope) none none
      (.bare (Table.set ∅ "p/payload/m" [1, 2, 3])) =
        .ok (unpacked.claimed otherLetter.envelope "p/payload/n" none)
          (.bare (Table.set (.set ∅ "p/payload/m" [1, 2, 3]) "p/payload/n" [4, 5, 6])) := rfl
  have dispatched : unpacked.dispatch replacingStore [oneLetter, otherLetter] (.bare ∅) =
      ([(oneLetter.envelope, unpacked.claimed oneLetter.envelope "p/payload/m" none),
        (otherLetter.envelope, unpacked.claimed otherLetter.envelope "p/payload/n" none)],
        .bare (Table.set (.set ∅ "p/payload/m" [1, 2, 3]) "p/payload/n" [4, 5, 6])) := rfl
  have large : unpacked.threshold < oneLetter.envelope.body.length := by decide
  have larger : unpacked.threshold < otherLetter.envelope.body.length := by decide
  have distinct : unpacked.stem oneLetter.envelope.messageId ≠
    unpacked.stem otherLetter.envelope.messageId := by decide
  have quiet : CloudStore.IsQuiet replacing (Table.get? : Table Bytes → String → Option Bytes) :=
    nofun
  have sound : ∀ parcel ∈ [oneLetter, otherLetter], ∀ key,
      Reference.accepted (some (unpacked.key parcel.envelope)) = .ok key →
      (Naming.under replacing.path).isSound key = true := by
    intro parcel member key accepted
    simp only [List.mem_cons, List.not_mem_nil, or_false] at member
    rcases member with rfl | rfl
    · cases accepted
      decide
    · cases accepted
      decide
  obtain ⟨names, restores⟩ := @prepared_apart_iff (Table Bytes) Bytes .objects replacing unpacked
  have restored := restores replacingClient Table.get? id replacingClient_keepsApart quiet
    [oneLetter, otherLetter] (.bare ∅) (by simp [large, larger]) (by simp [distinct]) sound
  change ∀ sent ∈ (unpacked.dispatch replacingStore [oneLetter, otherLetter] (.bare ∅)).1,
    ∃ received after, Policy.resolve (some replacingStore) (some sent.2) none
      (unpacked.dispatch replacingStore [oneLetter, otherLetter] (.bare ∅)).2 =
        .ok received after ∧ received.body = sent.1.body at restored
  rw [dispatched] at restored
  refine ⟨_, _, _, dispatched, ?_, ?_, ?_⟩
  · exact (names replacingClient replacingClient oneLetter.envelope otherLetter.envelope _ _ none
      none none none _ _ _ _ large larger prepared preparedToo).mpr distinct
  · exact restored _ List.mem_cons_self
  · exact restored _ (List.mem_cons_of_mem _ List.mem_cons_self)

/-- A blank at the end of an identifier is trimmed away, and one letter replaces the other. -/
theorem trailing_blank_shared :
    oneLetter.envelope.messageId ≠ blankLetter.envelope.messageId ∧
      ∃ out outToo last,
        unpacked.dispatch replacingStore [oneLetter, blankLetter] (.bare ∅) =
          ([(oneLetter.envelope, out), (blankLetter.envelope, outToo)], last) ∧
        out.headers.get? Headers.referenceName = outToo.headers.get? Headers.referenceName ∧
        ∀ received after, Policy.resolve (some replacingStore) (some out) none last =
          .ok received after → received.body ≠ [1, 2, 3] := by
  have dispatched : unpacked.dispatch replacingStore [oneLetter, blankLetter] (.bare ∅) =
      ([(oneLetter.envelope, unpacked.claimed oneLetter.envelope "p/payload/m" none),
        (blankLetter.envelope, unpacked.claimed blankLetter.envelope "p/payload/m" none)],
        .bare (Table.set (.set ∅ "p/payload/m" [1, 2, 3]) "p/payload/m" [4, 5, 6])) := rfl
  obtain ⟨-, named, -, -⟩ := unpacked.claimed_headers oneLetter.envelope "p/payload/m" none
  obtain ⟨-, namedToo, -, -⟩ := unpacked.claimed_headers blankLetter.envelope "p/payload/m" none
  refine ⟨by decide, _, _, _, dispatched, named.trans namedToo.symm, ?_⟩
  intro received after ran
  have shown : Text.blank "p/payload/m" = false := by decide
  obtain ⟨stored, middle, fetched, decoded, -⟩ := Policy.resolve_claimed_eq_ok shown ran
  have replaced : ∃ last, replacingStore.fetch (some "p/payload/m") none
      (.bare (Table.set (.set ∅ "p/payload/m" [1, 2, 3]) "p/payload/m" [4, 5, 6])) =
        .ok [4, 5, 6] last := ⟨_, rfl⟩
  obtain ⟨_, replaced⟩ := replaced
  cases replaced.symm.trans fetched
  have unencoded : (unpacked.claimed oneLetter.envelope "p/payload/m" none).decode [4, 5, 6] =
      .ok [4, 5, 6] := rfl
  have same : received.body = [4, 5, 6] := (Except.ok.inj (unencoded.symm.trans decoded)).symm
  rw [same]
  decide

end ClaimCheck
