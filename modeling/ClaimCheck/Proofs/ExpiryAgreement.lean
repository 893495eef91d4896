import ClaimCheck.Proofs.ExpiryMarkers
import ClaimCheck.Proofs.ForwardingChains
import ClaimCheck.Proofs.RecordedExpiry

/-!
Sender, store and receiver agree on when a payload expires. The text in the headers of a claim is
what cloud stores record, and the instant that it denotes is when the store in memory stops giving
the payload back, for good.
-/
namespace ClaimCheck

/-- Whether a clock that can be read has reached an instant. -/
def Moment.IsLate (clock : Moment) (instant : Instant) : Prop :=
  clock.OnCalendar ∧ (instant.micros : Int) ≤ clock.utc

instance (clock : Moment) (instant : Instant) : Decidable (clock.IsLate instant) :=
  inferInstanceAs (Decidable (_ ∧ _))

private theorem Moment.hasReached_iff {clock : Moment} {instant : Instant} :
    clock.hasReached (some instant) = true ↔ clock.IsLate instant := by
  cases found : clock.instant? with
  | none =>
    have outside := instant?_eq_none.mp found
    simp [hasReached, found, IsLate, outside]
  | some now =>
    have inside : clock.OnCalendar := by
      apply Classical.not_not.mp
      intro outside
      rw [instant?_eq_none.mpr outside] at found
      cases found
    have same : (now.micros : Int) = clock.utc := instant?_eq_some.mp found
    simp only [hasReached, found, Instant.notAfter, decide_eq_true_eq, IsLate, inside, true_and]
    omega

private theorem Policy.resolve_of_unfetched {ρ τ : Type} {store : Store ρ τ} {envelope : Envelope}
    {reference : String} {signal : Option Signal} {scene after : Scene ρ} {failure : Failure}
    (external : envelope.isExternal = true) (named : envelope.reference? = some reference)
    (failed : store.fetch (some reference) signal scene = .error failure after) :
    resolve (some store) (some envelope) signal scene = .error failure after := by
  simp only [resolve_eq, external, if_true, named, Action.bind_run, failed]

/-- A time at which a claim is received: what the clock of the store shows then, and what others ask
of the store before. -/
structure Visit where
  reading : Moment
  calls : List StoreCall
  kept : ∀ call ∈ calls, call.isDeletion = false

namespace Visit

/-- What happens before the claim is received. -/
def before (visit : Visit) (scene : Scene MemoryStore) : Scene MemoryStore :=
  visit.calls.foldl (fun scene call => call.perform MemoryStore.store scene)
    (scene.withRest { scene.rest with clock := visit.reading })

/-- What a receiver gets at a visit, once the payload is gone or while it is there. -/
def Answers (visit : Visit) (reference : String) (restored : Envelope) (gone : Prop)
    (result : Except Failure Envelope) : Prop :=
  (gone → ∃ message, result = .error (.store (.notFound reference message))) ∧
    (¬ gone → visit.reading.OnCalendar → result = .ok restored) ∧
    (¬ gone → ¬ visit.reading.OnCalendar → result = .error .outOfRange)

end Visit

namespace MemoryStore

variable {scene : Scene MemoryStore} {reference : String} {entry : Entry} {instant : Instant}

private theorem open?_clock (asked : String) (scene : Scene MemoryStore) :
    (Action.sceneAfter (open? asked) scene).rest.clock = scene.rest.clock := by
  simp only [Action.sceneAfter, open?]
  cases scene.rest.entries.get? asked with
  | none => rfl
  | some entry =>
    cases reading : entry.readAt scene.rest.clock with
    | error failure => simp only [reading]
    | ok readable =>
      cases readable with
      | false =>
        simp only [reading]
        rfl
      | true => simp only [reading]

private theorem perform_clock (call : StoreCall) (scene : Scene MemoryStore) :
    (call.perform store scene).rest.clock = scene.rest.clock := by
  cases call with
  | upload upload =>
    have ran : store.upload upload scene = _ := upload_run upload scene
    simp only [StoreCall.perform, Action.sceneAfter, ran, store?]
    cases accepts upload (scene.isCancelled upload.signal) with
    | error failure => rfl
    | ok key => cases upload.expiry <;> rfl
  | download asked signal =>
    have ran : store.download asked signal scene = _ := download_run asked signal scene
    simp only [StoreCall.perform, Action.sceneAfter, ran]
    cases Reference.accepted asked with
    | error failure => rfl
    | ok name =>
      cases scene.isCancelled signal with
      | true => rfl
      | false => exact open?_clock name scene
  | delete asked signal =>
    have ran : store.delete asked signal scene = _ := delete_run asked signal scene
    simp only [StoreCall.perform, Action.sceneAfter, ran]
    cases Reference.accepted asked with
    | error failure => rfl
    | ok name => cases scene.isCancelled signal <;> rfl

/-- An entry that is there unless it is gone for good, or its time has come. -/
def Awaits (scene : Scene MemoryStore) (reference : String) (entry : Entry) (gone : Prop) : Prop :=
  Remains scene reference none ∧ (gone ∨ scene.rest.clock.hasReached entry.expires = true) ∨
    Remains scene reference (some entry) ∧ ¬ gone

theorem Awaits.perform {gone : Prop} {call : StoreCall} (kept : call.isDeletion = false)
    (awaits : Awaits scene reference entry gone) :
    Awaits (call.perform store scene) reference entry gone := by
  unfold Awaits
  rw [perform_clock]
  rcases awaits with ⟨absent, ended⟩ | ⟨present, early⟩
  · rcases absent.perform kept with absent | ⟨absent, -⟩ <;> exact .inl ⟨absent, ended⟩
  · rcases present.perform kept with present | ⟨absent, _, ⟨⟩, reached⟩
    · exact .inr ⟨present, early⟩
    · exact .inl ⟨absent, .inr reached⟩

private theorem awaits_meanwhile {gone : Prop} {calls : List StoreCall}
    (kept : ∀ call ∈ calls, call.isDeletion = false)
    (awaits : Awaits scene reference entry gone) :
    let after := calls.foldl (fun scene call => call.perform store scene) scene
    Awaits after reference entry gone ∧ after.rest.clock = scene.rest.clock := by
  induction calls generalizing scene with
  | nil => exact ⟨awaits, rfl⟩
  | cons call rest ih =>
    have first := awaits.perform (kept call (by simp))
    obtain ⟨later, clock⟩ := ih (fun call member => kept call (by simp [member])) first
    exact ⟨later, clock.trans (perform_clock call scene)⟩

/-- What is there between visits: the entry, unless it is gone for good. -/
structure Keeps (scene : Scene MemoryStore) (reference : String) (entry : Entry) (gone : Prop) :
    Prop where
  absent : gone → Remains scene reference none
  present : ¬ gone → Remains scene reference (some entry)

/-- The clock is set, and others make their calls. -/
theorem Keeps.before {gone : Prop} (keeps : Keeps scene reference entry gone) (visit : Visit) :
    Awaits (visit.before scene) reference entry gone ∧
      (visit.before scene).rest.clock = visit.reading := by
  apply awaits_meanwhile visit.kept
  by_cases ended : gone
  · exact .inl ⟨⟨(keeps.absent ended).numbered, (keeps.absent ended).held⟩, .inl ended⟩
  · exact .inr ⟨⟨(keeps.present ended).numbered, (keeps.present ended).held⟩, ended⟩

private theorem fetch_failed {failure : Failure} {after : Scene MemoryStore}
    (normal : Reference.normalize reference = .ok reference)
    (failed : open? reference scene = .error failure after) :
    store.fetch (some reference) none scene = .error failure after := by
  have asked : store.download (some reference) none scene = .error failure after := by
    have ran : store.download (some reference) none scene = _ :=
      download_run (some reference) none scene
    rw [ran, Reference.accepted_some_iff.mpr normal]
    exact failed
  simp only [Store.fetch, Action.bind_run, asked]

private theorem open?_awaited {gone : Prop} {data : Bytes} {clock : Moment}
    (awaits : Awaits scene reference ⟨data, some instant⟩ gone) (own : scene.rest.clock = clock) :
    ((gone ∨ clock.IsLate instant) ∧ ∃ message after,
      open? reference scene = .error (.store (.notFound reference message)) after ∧
        Remains after reference none) ∨
    (¬ (gone ∨ clock.IsLate instant) ∧ Remains scene reference (some ⟨data, some instant⟩) ∧
      ((clock.OnCalendar ∧ open? reference scene = .ok (.ofBytes data) scene) ∨
        (¬ clock.OnCalendar ∧ open? reference scene = .error .outOfRange scene))) := by
  subst own
  have late_iff : scene.rest.clock.hasReached (some instant) = true ↔
      scene.rest.clock.IsLate instant := Moment.hasReached_iff
  rcases awaits with ⟨absent, ended⟩ | ⟨present, early⟩
  · refine .inl ⟨ended.imp_right late_iff.mp, none, scene, ?_, absent⟩
    simp only [open?, absent.held]
  · have looked := present.held
    cases found : scene.rest.clock.instant? with
    | none =>
      have outside := Moment.instant?_eq_none.mp found
      have inTime : ¬ (gone ∨ scene.rest.clock.IsLate instant) :=
        fun ended => ended.elim early fun late => outside late.1
      refine .inr ⟨inTime, present, .inr ⟨outside, ?_⟩⟩
      simp only [open?, looked, Entry.readAt, found]
    | some now =>
      cases reached : instant.notAfter now with
      | true =>
        have late : scene.rest.clock.IsLate instant :=
          late_iff.mp (by simp [Moment.hasReached, found, reached])
        refine .inl ⟨.inr late, some s!"Payload reference '{reference}' has expired.",
          scene.withRest (scene.rest.drop reference), ?_, present.numbered, ?_⟩
        · simp only [open?, looked, Entry.readAt, found, reached, Bool.not_true]
          rfl
        · exact (Table.get?_erase _ _ _).trans (if_pos rfl)
      | false =>
        have inTime : ¬ (gone ∨ scene.rest.clock.IsLate instant) := by
          rintro (ended | late)
          · exact early ended
          · have reaches := late_iff.mpr late
            simp [Moment.hasReached, found, reached] at reaches
        have inside : scene.rest.clock.OnCalendar := by
          apply Classical.not_not.mp
          intro outside
          rw [Moment.instant?_eq_none.mpr outside] at found
          cases found
        refine .inr ⟨inTime, present, .inl ⟨inside, ?_⟩⟩
        simp only [open?, looked, Entry.readAt, found, reached, Bool.not_false]

/-- One visit: the receiver gets the payload back if its time has not come, and what is there
afterwards depends on that alone. -/
theorem Keeps.visit {gone : Prop} {policy : Policy} {envelope : Envelope}
    (keeps : Keeps scene reference ⟨policy.encode envelope.body, some instant⟩ gone)
    (normal : Reference.normalize reference = .ok reference) (marker : Option String) (visit : Visit)
    (changes : List (Scene MemoryStore → Scene MemoryStore)) :
    let claim := policy.claimed envelope reference marker
    ∃ result after, store.resolutions claim (visit.before :: changes) scene =
        result :: store.resolutions claim changes after ∧
      visit.Answers reference (envelope.withHeaders claim.headers)
        (gone ∨ visit.reading.IsLate instant) result ∧
      Keeps after reference ⟨policy.encode envelope.body, some instant⟩
        (gone ∨ visit.reading.IsLate instant) := by
  intro claim
  have shown := Reference.blank_of_normalize normal
  obtain ⟨external, named⟩ := policy.claimed_isExternal envelope marker shown
  obtain ⟨awaits, clock⟩ := keeps.before visit
  simp only [Store.resolutions]
  generalize visit.before scene = scene at awaits clock
  rcases open?_awaited awaits clock with
    ⟨ended, message, after, missing, absent⟩ | ⟨inTime, present, ⟨inside, found⟩ | ⟨outside, failed⟩⟩
  · have failed := Policy.resolve_of_unfetched external named (fetch_failed normal missing)
    refine ⟨_, after, by rw [failed], ⟨fun _ => ⟨message, rfl⟩, ?_, ?_⟩, ?_, ?_⟩
    · exact fun inTime => absurd ended inTime
    · exact fun inTime => absurd ended inTime
    · exact fun _ => absent
    · exact fun inTime => absurd ended inTime
  · have opened : store.download (some reference) none scene =
        .ok (.ofBytes (policy.encode envelope.body)) scene := by
      have ran : store.download (some reference) none scene = _ :=
        download_run (some reference) none scene
      rw [ran, Reference.accepted_some_iff.mpr normal]
      exact found
    have fetched : store.fetch (some reference) none scene =
        .ok (policy.encode envelope.body) scene := by
      rw [Store.fetch, Action.bind_of_ok opened]
      exact ByteStream.reads_ofBytes (policy.encode envelope.body) _ scene
    have resolved := Policy.resolve_claimed marker shown fetched
    refine ⟨_, scene, by rw [resolved], ⟨?_, fun _ _ => rfl, ?_⟩, ?_, fun _ => present⟩
    · exact fun ended => absurd ended inTime
    · exact fun _ outside => absurd inside outside
    · exact fun ended => absurd ended inTime
  · have failed := Policy.resolve_of_unfetched external named (fetch_failed normal failed)
    refine ⟨_, scene, by rw [failed], ⟨?_, ?_, fun _ _ => rfl⟩, ?_, fun _ => present⟩
    · exact fun ended => absurd ended inTime
    · exact fun _ inside => absurd inside outside
    · exact fun ended => absurd ended inTime

/-- The answer at each visit depends on the visits up to it, and on nothing else that happened. -/
theorem Keeps.visits {gone : Prop} {policy : Policy} {envelope : Envelope} {marker : Option String}
    {visits earlier later : List Visit} {visit : Visit}
    (keeps : Keeps scene reference ⟨policy.encode envelope.body, some instant⟩ gone)
    (normal : Reference.normalize reference = .ok reference)
    (split : visits = earlier ++ visit :: later) :
    let claim := policy.claimed envelope reference marker
    ∃ result, (store.resolutions claim (visits.map Visit.before) scene)[earlier.length]? =
        some result ∧
      visit.Answers reference (envelope.withHeaders claim.headers)
        (gone ∨ ∃ past ∈ earlier ++ [visit], past.reading.IsLate instant) result := by
  intro claim
  induction visits generalizing gone scene earlier with
  | nil => simp at split
  | cons first rest ih =>
    obtain ⟨result, after, ran, answers, keeps⟩ :=
      keeps.visit normal marker first (rest.map Visit.before)
    rw [List.map_cons, ran]
    cases earlier with
    | nil =>
      cases split
      have same : (gone ∨ ∃ past ∈ [] ++ [visit], past.reading.IsLate instant) =
          (gone ∨ visit.reading.IsLate instant) := by simp
      rw [same]
      exact ⟨result, rfl, answers⟩
    | cons past earlier =>
      cases split
      obtain ⟨result, found, answers⟩ := ih keeps rfl
      have same : (gone ∨ ∃ each ∈ (first :: earlier) ++ [visit], each.reading.IsLate instant) =
          ((gone ∨ first.reading.IsLate instant) ∨
            ∃ each ∈ earlier ++ [visit], each.reading.IsLate instant) := by
        simp [or_assoc]
      rw [same]
      exact ⟨result, found, answers⟩

end MemoryStore

/-- An expiring body that is large enough leaves its sender with a text for its time of expiry. Every
put that a cloud store makes for it says that text; and over the store in memory, the receivers of
its claim get it back until a clock that can be read has reached the instant of the text, and never
after. A clock that cannot be read in UTC fails a visit to a body that is still there. -/
theorem expiry_is_agreed (policy : Policy) (envelope : Envelope) (moment : Moment)
    (large : policy.threshold < envelope.body.length) (convertible : moment.OnCalendar) :
    ∃ text instant, Moment.ofIso? text = some (Instant.moment instant) ∧
      (instant.micros : Int) = moment.utc ∧
      (∀ {ρ β : Type} (backend : Backend) (client : Client ρ β) (options : CloudOptions ρ)
        (signal : Option Signal) (scene : Scene (List ClientCall × ρ)),
        options.emitExpiresMarker = true →
        let store : CloudStore ρ β := ⟨backend.service, client, options⟩
        let prepared :=
          policy.prepare (some store.watched.toStore) (some envelope) (some moment) signal
        ∃ calls, (prepared.sceneAfter scene).rest.1 = scene.rest.1 ++ calls ∧
          (∀ key arguments, .put key arguments ∈ calls → backend.SaysExpiry arguments text) ∧
          ∀ out after, prepared scene = .ok out after →
            out.headers.get? Headers.expiresName = some text ∧
              ∃ key arguments, .put key arguments ∈ calls) ∧
      (policy.isSound = true → ∀ scene, ∃ out after reference,
        policy.prepare (some MemoryStore.store) (some envelope) (some moment) none scene =
          .ok out after ∧
        out.headers.get? Headers.expiresName = some text ∧
        ∀ visits earlier visit later, visits = earlier ++ visit :: later →
          ∃ result,
            (MemoryStore.store.resolutions out (visits.map Visit.before) after)[earlier.length]? =
              some result ∧
            visit.Answers reference (envelope.withHeaders out.headers)
              (∃ past ∈ earlier ++ [visit], past.reading.IsLate instant) result) := by
  obtain ⟨instant, due⟩ := Moment.exists_instant convertible
  refine ⟨instant.iso, instant, instant.ofIso?_iso, Moment.instant?_eq_some.mp due, ?_, ?_⟩
  · intro ρ β backend client options signal scene emits
    exact Policy.records_expiry backend client options signal large due emits scene
  · intro sound scene
    have expiry : (policy.offer envelope (some moment) none).expiry = .ok (some instant) := by
      simp [Upload.expiry, Policy.offer, due]
    obtain ⟨key, normal, prepared⟩ :=
      Policy.prepare_stored sound expiry large scene.isCancelled_none
    have given : ∃ front n, MemoryStore.referenceFor key scene = front ++ "/" ++ IdSource.text 32 n ∧
        n ≤ scene.drawn.ids.used :=
      ⟨key, scene.ids.used + 1, rfl, Nat.le_refl _⟩
    generalize MemoryStore.referenceFor key scene = reference at normal prepared given
    refine ⟨_, _, reference, prepared, ?_, ?_⟩
    · exact (policy.get?_claim envelope reference _ _).trans (if_pos (by decide))
    · intro visits earlier visit later split
      have keeps : MemoryStore.Keeps (scene.drawn.withRest (scene.rest.put reference
          ⟨policy.encode envelope.body, some instant⟩)) reference
          ⟨policy.encode envelope.body, some instant⟩ False :=
        ⟨False.elim, fun _ => ⟨given, MemoryStore.get?_put_self _ _ _⟩⟩
      obtain ⟨result, found, answers⟩ := keeps.visits normal split
      rw [false_or] at answers
      exact ⟨result, found, answers⟩

private theorem val_lt_span (micros : Fin 60) : micros.val < Calendar.span :=
  Nat.lt_trans micros.isLt (by decide)

/-- A clock in UTC that shows the given count of microseconds. -/
def utcClock (micros : Fin 60) : Moment :=
  ⟨micros, some 0, val_lt_span micros⟩

def sampleExpiry : Moment := utcClock 5

/-- A time at which the clock is read, and nothing else is done. -/
def Visit.idle (reading : Moment) : Visit :=
  ⟨reading, [], List.forall_mem_nil _⟩

/-- A clock that comes to the time of expiry and is put back, next to the uploads of others. -/
def wanderingClock : List Visit :=
  [⟨utcClock 4, [.upload ⟨.ofBytes [9], some "k", none, none, none⟩], by decide⟩,
    .idle (utcClock 5), .idle (utcClock 4)]

theorem wandering_clock_is_agreed :
    compressing.threshold < sampleEnvelope.body.length ∧ sampleExpiry.OnCalendar ∧
      ∃ text, Moment.ofIso? text = some sampleExpiry ∧
        (∃ calls, ((compressing.prepare (some (CloudStore.watched ⟨Backend.objects.service,
            .ofTable (.ofBucket "bucket") fun _ => true, bucketOptions "p"⟩).toStore)
              (some sampleEnvelope) (some sampleExpiry) none).sceneAfter
                (.bare ([], ∅))).rest.1 = calls ∧
          ∃ key arguments, .put key arguments ∈ calls ∧
            Backend.objects.SaysExpiry arguments text) ∧
        ∃ out after reference message later,
          compressing.prepare (some MemoryStore.store) (some sampleEnvelope)
            (some sampleExpiry) none (.bare .vacant) = .ok out after ∧
          out.headers.get? Headers.expiresName = some text ∧
          let received := MemoryStore.store.resolutions out (wanderingClock.map Visit.before) after
          received[0]? = some (.ok (sampleEnvelope.withHeaders out.headers)) ∧
          received[1]? = some (.error (.store (.notFound reference message))) ∧
          received[2]? = some (.error (.store (.notFound reference later))) := by
  have inside : sampleExpiry.OnCalendar := by decide
  have later : sampleExpiry.utc = 5 := rfl
  obtain ⟨text, ⟨micros, inRange⟩, read, point, recorded, kept⟩ :=
    expiry_is_agreed compressing sampleEnvelope sampleExpiry (by decide) inside
  obtain rfl : micros = 5 := Int.ofNat.inj (point.trans later)
  refine ⟨by decide, inside, text, read, ?_, ?_⟩
  · obtain ⟨calls, made, said, sent⟩ := recorded .objects
      (.ofTable (.ofBucket "bucket") fun _ => true) (bucketOptions "p") none (.bare ([], ∅)) rfl
    obtain ⟨-, key, arguments, put⟩ := sent _ _ rfl
    exact ⟨calls, made, key, arguments, put, said key arguments put⟩
  · obtain ⟨out, after, reference, prepared, named, answers⟩ := kept (by decide) (.bare .vacant)
    obtain ⟨_, found, -, restores, -⟩ := answers wanderingClock [] _ _ rfl
    obtain ⟨_, missed, expires, -⟩ := answers wanderingClock (wanderingClock.take 1) _ _ rfl
    obtain ⟨_, gone, stays, -⟩ := answers wanderingClock (wanderingClock.take 2) _ _ rfl
    have early : ¬ (utcClock 4).IsLate ⟨5, by decide⟩ := by decide
    have late : sampleExpiry.IsLate ⟨5, by decide⟩ := by decide
    have restored := restores (by simpa using early) (by decide)
    obtain ⟨message, rfl⟩ := expires ⟨_, List.mem_append_right _ (List.mem_singleton.mpr rfl), late⟩
    obtain ⟨again, rfl⟩ := stays ⟨_, List.mem_append_left _ (.tail _ (.head _)), late⟩
    rw [restored] at found
    exact ⟨out, after, reference, message, again, prepared, named, found, missed, gone⟩

/-- A clock an hour ahead of UTC in the first hour of the calendar: in UTC it shows nothing. -/
def clockBeforeTime : Visit :=
  .idle { utcClock 0 with offset := some Calendar.hour }

/-- A clock that has not come to the time of expiry does not always give the payload back. -/
theorem clock_before_time_fails :
    ∃ out after instant,
      compressing.prepare (some MemoryStore.store) (some sampleEnvelope)
        (some sampleExpiry) none (.bare .vacant) = .ok out after ∧
      out.headers.get? Headers.expiresName = some (Instant.iso instant) ∧
      clockBeforeTime.reading.utc < instant.micros ∧
      MemoryStore.store.resolutions out [clockBeforeTime.before] after = [.error .outOfRange] :=
  ⟨_, _, ⟨5, by decide⟩, rfl, rfl, by decide, rfl⟩

end ClaimCheck
