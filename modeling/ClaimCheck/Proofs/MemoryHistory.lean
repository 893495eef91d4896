import ClaimCheck.Proofs.MemoryEvents

/-!
Whole runs of a store in memory. A run is that of an expiring map: a reference gives the bytes of
its own upload, from the upload on until the reference is deleted or read too late, and nothing
before or after that.
-/
namespace ClaimCheck.MemoryStore

open Event

/-- The events of a run that takes the steps one after the other. -/
def history : Scene MemoryStore → List Step → List Event
  | _, [] => []
  | scene, step :: rest => .of step scene :: history (Event.of step scene).after rest

/-- The scene that a run ends in. -/
def ending : Scene MemoryStore → List Step → Scene MemoryStore
  | scene, [] => scene
  | scene, step :: rest => ending (Event.of step scene).after rest

/-- Whether no event ends an entry of the given expiry under the reference. -/
def Spared (expires : Option Instant) (reference : String) (events : List Event) : Prop :=
  ∀ event ∈ events, event.deleting? ≠ some reference ∧
    ¬ (event.opening? = some reference ∧ event.reading.hasReached expires = true)

/-- What events show of an upload that is still to be read: none of those since has ended it, and
its time has not come at present. -/
def IsAlive (upload : Upload) (reference : String) (between : List Event) (present : Event) :
    Prop :=
  Spared upload.expires? reference between ∧ present.reading.hasReached upload.expires? = false

/-- What the events of an expiring map must be. -/
structure RefinesExpiringMap (events : List Event) : Prop where
  /-- No reference is handed out twice. -/
  distinct : (events.filterMap handedOut?).Nodup
  /-- An upload past its checks, with a time of expiry that can be converted, hands out a reference
  under which there was nothing, and its payload is there from then on. That is where downloads look
  for it, unless its key starts with a blank. -/
  stored : ∀ event ∈ events, ∀ upload key expires, event.step = .upload upload →
    accepts upload (event.before.isCancelled upload.signal) = .ok key →
    upload.expiry = .ok expires →
    ∃ reference, event.Stores upload reference ∧
      event.before.rest.entries.get? reference = none ∧
      event.after.rest = event.before.rest.put reference ⟨upload.source.remaining, expires⟩ ∧
      (Text.startsBlank key = false → Reference.normalize reference = .ok reference)
  /-- A download of a reference gives the bytes of its upload exactly if that is alive. -/
  reads : ∀ {earlier stored between present later upload reference},
    events = earlier ++ stored :: (between ++ present :: later) →
    stored.Stores upload reference → present.opening? = some reference →
    (present.Delivers upload.source.remaining ↔ IsAlive upload reference between present)
  /-- A download of anything else misses. -/
  missing : ∀ {earlier present later reference}, events = earlier ++ present :: later →
    present.opening? = some reference →
    (¬ ∃ before stored between upload, earlier = before ++ stored :: between ∧
      stored.Stores upload reference ∧ IsAlive upload reference between present) →
    present.Misses reference
  /-- A failure changes nothing, except that an expired entry that was found is gone. -/
  failed : ∀ event ∈ events, ∀ failure, event.outcome = .error failure →
    (event.after.rest = event.before.rest ∧ ∀ reference, ¬ event.FindsExpired reference) ∨
      ∃ reference, event.FindsExpired reference ∧
        event.after.rest = event.before.rest.drop reference

/-- Whether every event of a run shows a clock that can be converted to UTC. -/
def Readable (events : List Event) : Prop :=
  ∀ event ∈ events, event.reading.instant?.isSome

instance (events : List Event) : Decidable (Readable events) :=
  inferInstanceAs (Decidable (∀ event ∈ events, event.reading.instant?.isSome))

@[simp] theorem of_before (step : Step) (scene : Scene MemoryStore) :
    (Event.of step scene).before = scene := by
  cases ran : step.action scene <;> simp [Event.of, ran]

@[simp] theorem of_step (step : Step) (scene : Scene MemoryStore) :
    (Event.of step scene).step = step := by
  cases ran : step.action scene <;> simp [Event.of, ran]

private theorem eq_of_of_mem {steps : List Step} {scene : Scene MemoryStore} {event : Event}
    (member : event ∈ history scene steps) : ∃ step, event = .of step event.before := by
  induction steps generalizing scene with
  | nil => cases member
  | cons step rest ih =>
    rcases List.mem_cons.mp member with rfl | later
    · exact ⟨step, by rw [of_before]⟩
    · exact ih later

private theorem effect_head {step : Step} {rest : List Step} {scene : Scene MemoryStore}
    (readable : Readable (history scene (step :: rest))) : Effect (.of step scene) := by
  have shown := readable (.of step scene) (by simp [history])
  exact effect_of step scene (by simpa [reading] using shown)

private theorem effect_of_mem {steps : List Step} {scene : Scene MemoryStore}
    (readable : Readable (history scene steps)) {event : Event}
    (member : event ∈ history scene steps) : Effect event := by
  induction steps generalizing scene with
  | nil => simp [history] at member
  | cons step rest ih =>
    rcases List.mem_cons.mp member with rfl | later
    · exact effect_head readable
    · exact ih (fun event member => readable event (List.mem_cons_of_mem _ member)) later

/-- A run may be cut anywhere. -/
theorem history_eq_append {earlier later : List Event} {steps : List Step}
    {scene : Scene MemoryStore} (cut : history scene steps = earlier ++ later) :
    ∃ first second, steps = first ++ second ∧ history scene first = earlier ∧
      history (ending scene first) second = later := by
  induction earlier generalizing scene steps with
  | nil => exact ⟨[], steps, rfl, rfl, cut⟩
  | cons event earlier ih =>
    cases steps with
    | nil => simp [history] at cut
    | cons step rest =>
      obtain ⟨head, tail⟩ := List.cons.inj cut
      obtain ⟨first, second, rfl, front, back⟩ := ih tail
      exact ⟨step :: first, second, rfl, by rw [history, front, head], back⟩

private theorem history_eq_cons {event : Event} {later : List Event} {steps : List Step}
    {scene : Scene MemoryStore} (cut : history scene steps = event :: later) :
    event.before = scene ∧ ∃ rest, history event.after rest = later := by
  cases steps with
  | nil => simp [history] at cut
  | cons step rest =>
    obtain ⟨rfl, tail⟩ := List.cons.inj cut
    exact ⟨of_before step scene, rest, tail⟩

private theorem spared_cons {expires : Option Instant} {reference : String} {event : Event}
    {events : List Event} :
    Spared expires reference (event :: events) ↔
      (event.deleting? ≠ some reference ∧
        ¬ (event.opening? = some reference ∧ event.reading.hasReached expires = true)) ∧
      Spared expires reference events := by
  simp [Spared]

private theorem ends_iff {event : Event} {reference : String} {entry : Entry}
    (held : event.before.rest.entries.get? reference = some entry) :
    event.Ends reference ↔ event.deleting? = some reference ∨
      event.opening? = some reference ∧ event.reading.hasReached entry.expires = true := by
  simp [Event.Ends, FindsExpired, held]

private theorem lookup_absent {steps : List Step} {scene : Scene MemoryStore} {reference : String}
    (readable : Readable (history scene steps))
    (foreign : ∀ event ∈ history scene steps, event.handedOut? ≠ some reference)
    (absent : scene.rest.entries.get? reference = none) :
    (ending scene steps).rest.entries.get? reference = none := by
  induction steps generalizing scene with
  | nil => exact absent
  | cons step rest ih =>
    have effect := effect_head readable
    apply ih (fun event member => readable event (List.mem_cons_of_mem _ member))
      (fun event member => foreign event (List.mem_cons_of_mem _ member))
    by_cases ends : (Event.of step scene).Ends reference
    · exact effect.lookup_ended ends
    · rw [effect.lookup_kept (foreign _ (by simp [history])) ends, of_before, absent]

/-- An entry that is there stays as long as it is spared, and is gone for good once it is not. -/
theorem lookup_held {steps : List Step} {scene : Scene MemoryStore} {reference : String}
    {entry : Entry} (readable : Readable (history scene steps))
    (foreign : ∀ event ∈ history scene steps, event.handedOut? ≠ some reference)
    (held : scene.rest.entries.get? reference = some entry) :
    Spared entry.expires reference (history scene steps) ∧
        (ending scene steps).rest.entries.get? reference = some entry ∨
      ¬ Spared entry.expires reference (history scene steps) ∧
        (ending scene steps).rest.entries.get? reference = none := by
  induction steps generalizing scene with
  | nil => exact .inl ⟨by simp [Spared, history], held⟩
  | cons step rest ih =>
    have effect := effect_head readable
    have before : (Event.of step scene).before.rest.entries.get? reference = some entry := by
      rw [of_before, held]
    have readable' := fun event member => readable event (List.mem_cons_of_mem _ member)
    have foreign' := fun event member => foreign event (List.mem_cons_of_mem _ member)
    simp only [history, spared_cons, ending]
    by_cases ends : (Event.of step scene).Ends reference
    · -- Nobody hands the reference out again, so nothing comes back under it.
      right
      have ended := effect.lookup_ended ends
      refine ⟨?_, lookup_absent readable' foreign' ended⟩
      rintro ⟨⟨kept, early⟩, -⟩
      rcases (ends_iff before).mp ends with deletes | late
      · exact kept deletes
      · exact early late
    · have kept := (effect.lookup_kept (foreign _ (by simp [history])) ends).trans before
      have sparing := (not_congr (ends_iff before)).mp ends
      rw [not_or] at sparing
      rcases ih readable' foreign' kept with ⟨spared, found⟩ | ⟨ended, gone⟩
      · exact .inl ⟨⟨sparing, spared⟩, found⟩
      · exact .inr ⟨fun both => ended both.2, gone⟩

/-- Whatever a run leaves behind was there before, or is of an upload in the run; and nothing has
ended it since. -/
theorem origin {steps : List Step} {scene : Scene MemoryStore} {reference : String} {entry : Entry}
    (readable : Readable (history scene steps))
    (found : (ending scene steps).rest.entries.get? reference = some entry) :
    (scene.rest.entries.get? reference = some entry ∧
        Spared entry.expires reference (history scene steps)) ∨
      ∃ before stored between upload, history scene steps = before ++ stored :: between ∧
        stored.Stores upload reference ∧ entry = ⟨upload.source.remaining, upload.expires?⟩ ∧
        Spared upload.expires? reference between := by
  induction steps generalizing scene with
  | nil => exact .inl ⟨found, by simp [Spared, history]⟩
  | cons step rest ih =>
    have effect := effect_head readable
    have readable' := fun event member => readable event (List.mem_cons_of_mem _ member)
    rcases ih readable' found with
      ⟨held, spared⟩ | ⟨before, stored, between, upload, cut, origin⟩
    · -- What the rest of the run began with either came by this event or was there before it.
      by_cases own : (Event.of step scene).handedOut? = some reference
      · obtain ⟨upload, key, uploads, -, rest⟩ := effect.of_handedOut own
        have same : entry = ⟨upload.source.remaining, upload.expires?⟩ := by
          simpa [rest, eq_comm] using held
        subst same
        exact .inr ⟨[], _, _, upload, rfl, ⟨uploads, own⟩, rfl, spared⟩
      · have spared' : ¬ (Event.of step scene).Ends reference := by
          intro ends
          simp [effect.lookup_ended ends] at held
        have before := (effect.lookup_kept own spared').symm.trans held
        have sparing := (not_congr (ends_iff before)).mp spared'
        rw [not_or] at sparing
        exact .inl ⟨by simpa using before, spared_cons.mpr ⟨sparing, spared⟩⟩
    · exact .inr ⟨.of step scene :: before, stored, between, upload, by simp [history, cut], origin⟩

private theorem nodup_handedOut {events : List Event} (effects : ∀ event ∈ events, Effect event)
    (fresh : (events.filterMap identifier?).Nodup) : (events.filterMap handedOut?).Nodup := by
  rw [List.Nodup, List.pairwise_filterMap] at fresh ⊢
  refine fresh.imp_of_mem ?_
  intro left right leftMember rightMember different reference handedOut other otherHandedOut same
  subst same
  obtain ⟨_, _, -, leftName, -⟩ := (effects left leftMember).of_handedOut handedOut
  obtain ⟨_, _, -, rightName, -⟩ := (effects right rightMember).of_handedOut otherHandedOut
  have numbers := IdSource.eq_of_join (leftName.symm.trans rightName)
  apply different left.before.ids.next.1 (by simp [identifier?, handedOut])
    right.before.ids.next.1 (by simp [identifier?, otherHandedOut])
  simp [IdSource.next, numbers]

private theorem handedOut_once {earlier later : List Event} {event other : Event}
    {reference : String} (distinct : ((earlier ++ event :: later).filterMap handedOut?).Nodup)
    (own : event.handedOut? = some reference) (member : other ∈ later) :
    other.handedOut? ≠ some reference := by
  intro same
  rw [List.filterMap_append, List.filterMap_cons_some own] at distinct
  have absent := (List.nodup_cons.mp (List.nodup_append.mp distinct).2.1).1
  exact absent (List.mem_filterMap.mpr ⟨other, member, same⟩)

private theorem origin_of_fresh {steps : List Step} {scene : Scene MemoryStore}
    {earlier later : List Event} {present : Event} {reference : String} {entry : Entry}
    (fresh : scene.rest.entries = ∅) (readable : Readable (history scene steps))
    (cut : history scene steps = earlier ++ present :: later)
    (found : present.before.rest.entries.get? reference = some entry) :
    ∃ before stored between upload, earlier = before ++ stored :: between ∧
      stored.Stores upload reference ∧ entry = ⟨upload.source.remaining, upload.expires?⟩ ∧
      Spared upload.expires? reference between := by
  obtain ⟨first, second, rfl, front, back⟩ := history_eq_append cut
  obtain ⟨before, -⟩ := history_eq_cons back
  have shown : Readable (history scene first) := by
    intro event member
    exact readable event (by simp [cut, ← front, member])
  rw [before] at found
  rw [← front]
  rcases origin shown found with ⟨initial, -⟩ | origin
  · simp [fresh] at initial
  · exact origin

private theorem vacant_of_handedOut {steps : List Step} {scene : Scene MemoryStore} {event : Event}
    {reference : String} (fresh : scene.rest.entries = ∅)
    (readable : Readable (history scene steps))
    (distinct : ((history scene steps).filterMap handedOut?).Nodup)
    (member : event ∈ history scene steps) (own : event.handedOut? = some reference) :
    event.before.rest.entries.get? reference = none := by
  obtain ⟨earlier, later, cut⟩ := List.append_of_mem member
  cases found : event.before.rest.entries.get? reference with
  | none => rfl
  | some entry =>
    exfalso
    obtain ⟨before, stored, between, upload, rfl, stores, -⟩ :=
      origin_of_fresh fresh readable cut found
    rw [cut, List.append_assoc, List.cons_append] at distinct
    exact handedOut_once distinct stores.2 (by simp) own

/-- What is found at the present event, in terms of what happened since the upload. -/
theorem lookup_since {scene : Scene MemoryStore} {steps : List Step}
    {earlier between later : List Event} {stored present : Event} {upload : Upload}
    {reference : String} (readable : Readable (history scene steps))
    (distinct : ((history scene steps).filterMap handedOut?).Nodup)
    (cut : history scene steps = earlier ++ stored :: (between ++ present :: later))
    (stores : stored.Stores upload reference) :
    Spared upload.expires? reference between ∧
        present.before.rest.entries.get? reference =
          some ⟨upload.source.remaining, upload.expires?⟩ ∨
      ¬ Spared upload.expires? reference between ∧
        present.before.rest.entries.get? reference = none := by
  rw [cut] at readable distinct
  obtain ⟨first, second, rfl, -, back⟩ := history_eq_append cut
  obtain ⟨-, rest, tail⟩ := history_eq_cons back
  obtain ⟨middle, last, rfl, mid, final⟩ := history_eq_append tail
  obtain ⟨before, -⟩ := history_eq_cons final
  have shown : Readable (history stored.after middle) := by
    intro event member
    rw [mid] at member
    exact readable event (by simp [member])
  have foreign : ∀ event ∈ history stored.after middle, event.handedOut? ≠ some reference := by
    intro event member
    rw [mid] at member
    exact handedOut_once distinct stores.2 (by simp [member])
  have held : stored.after.rest.entries.get? reference =
      some ⟨upload.source.remaining, upload.expires?⟩ := by
    have effect : Effect stored := effect_of_mem (cut ▸ readable) (by rw [cut]; simp)
    obtain ⟨own, key, uploads, -, rest⟩ := effect.of_handedOut stores.2
    rw [stores.1] at uploads
    cases uploads
    simp [rest]
  have outcome := lookup_held shown foreign held
  rwa [mid, ← before] at outcome

/-- Every run from an empty store is that of an expiring map, whatever its operations are asked and
whichever way the clock goes, if no identifier comes twice. -/
theorem history_refines_expiring_map (scene : Scene MemoryStore) (steps : List Step)
    (fresh : scene.rest.entries = ∅) (readable : Readable (history scene steps))
    (identifiers : ((history scene steps).filterMap identifier?).Nodup) :
    RefinesExpiringMap (history scene steps) := by
  have effects : ∀ event ∈ history scene steps, Effect event :=
    fun _ member => effect_of_mem readable member
  have distinct := nodup_handedOut effects identifiers
  refine ⟨distinct, ?_, ?_, ?_, ?_⟩
  · intro event member upload key expires asked accepted due
    obtain ⟨step, taken⟩ := eq_of_of_mem member
    obtain rfl : step = .upload upload := by rw [← asked, taken, of_step]
    have ran := taken.trans (of_accepted accepted due)
    have stores : event.Stores upload (referenceFor key event.before) := ⟨asked, by rw [ran]; rfl⟩
    refine ⟨_, stores, vacant_of_handedOut fresh readable distinct member stores.2, ?_, ?_⟩
    · exact congrArg (fun event => event.after.rest) ran
    · exact fun visible => normalize_referenceFor (accepted_of_accepts accepted) visible _
  · intro earlier stored between present later upload reference cut stores opens
    have effect := effects present (by simp [cut])
    rw [effect.delivers_iff opens]
    rcases lookup_since readable distinct cut stores with ⟨spared, found⟩ | ⟨ended, gone⟩
    · simp [IsAlive, spared, found]
    · simp [IsAlive, ended, gone]
  · intro earlier present later reference cut opens none
    have effect := effects present (by simp [cut])
    rcases effect.misses_or_found opens with misses | ⟨entry, found, early⟩
    · exact misses
    · exfalso
      obtain ⟨before, stored, between, upload, own, stores, rfl, spared⟩ :=
        origin_of_fresh fresh readable cut found
      exact none ⟨before, stored, between, upload, own, stores, spared, early⟩
  · intro event member failure outcome
    exact (effects event member).failed outcome

/-- An empty store, a payload that expires, and a clock that goes there and back. -/
def sampleScene : Scene MemoryStore :=
  .bare .vacant

def sampleUpload : Upload :=
  ⟨.ofBytes [1, 2], some "a", none, some ⟨9, none, by decide⟩, none⟩

def sampleReference : String :=
  "a/00000000000000000000000000000001"

def sampleSteps : List Step :=
  [.upload sampleUpload,
    .download (some ("/" ++ sampleReference)) none,
    .meanwhile ⟨9, none, by decide⟩ [] (.initial ["b"]),
    .download (some sampleReference) none,
    .meanwhile ⟨4, some (-3), by decide⟩ [] (.initial []),
    .download (some sampleReference) none]

/-- The payload is stored and read once; by the second download its time has come. -/
theorem sample_refines_expiring_map :
    sampleScene.rest.entries = ∅ ∧ Readable (history sampleScene sampleSteps) ∧
      ((history sampleScene sampleSteps).filterMap identifier?).Nodup ∧
      RefinesExpiringMap (history sampleScene sampleSteps) ∧
      ∃ stored present pause late rest,
        history sampleScene sampleSteps = stored :: present :: pause :: late :: rest ∧
        stored.Stores sampleUpload sampleReference ∧ present.Delivers [1, 2] ∧
        ¬ late.Delivers [1, 2] := by
  have readable : Readable (history sampleScene sampleSteps) := by decide
  have identifiers : ((history sampleScene sampleSteps).filterMap identifier?).Nodup := by decide
  have refines := history_refines_expiring_map sampleScene sampleSteps rfl readable identifiers
  let stored := Event.of (.upload sampleUpload) sampleScene
  let present := Event.of (.download (some ("/" ++ sampleReference)) none) stored.after
  let pause := Event.of (.meanwhile ⟨9, none, by decide⟩ [] (.initial ["b"])) present.after
  let late := Event.of (.download (some sampleReference) none) pause.after
  have stores : stored.Stores sampleUpload sampleReference := ⟨rfl, by decide⟩
  have early : IsAlive sampleUpload sampleReference [] present := ⟨by simp [Spared], by decide⟩
  have first : history sampleScene sampleSteps = [] ++ stored :: ([] ++ present :: _) := rfl
  have second : history sampleScene sampleSteps =
    [] ++ stored :: ([present, pause] ++ late :: _) := rfl
  refine ⟨rfl, readable, identifiers, refines, stored, present, pause, late, _, rfl, stores,
    (refines.reads first stores (by decide)).mpr early, ?_⟩
  intro delivers
  have alive := (refines.reads second stores (by decide)).mp delivers
  exact absurd alive.2 (by decide)

end ClaimCheck.MemoryStore
