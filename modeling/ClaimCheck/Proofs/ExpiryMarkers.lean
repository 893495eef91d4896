import ClaimCheck.Envelope
import ClaimCheck.Proofs.IsoText
import ClaimCheck.Proofs.VerifiedDelivery
import ClaimCheck.Store.Basic

/-!
Moments in UTC. The time of sending of an envelope and the time of expiry of a payload are converted
alike: the conversion fails exactly outside the calendar, it keeps the point in time, and the text
that records it is read as the same clock in UTC.
-/
namespace ClaimCheck

namespace Moment

/-- The point in time that a moment denotes, in microseconds since the start of year 1 in UTC. -/
def utc (moment : Moment) : Int :=
  moment.micros - moment.offset.getD 0

/-- Whether a moment lies between the first and the last microsecond of the calendar in UTC. -/
def OnCalendar (moment : Moment) : Prop :=
  ((⟨1, 1, 1⟩ : Date).toDays * Calendar.day : Nat) ≤ moment.utc ∧
    moment.utc ≤ ((⟨9999, 12, 31⟩ : Date).toDays * Calendar.day + (Calendar.day - 1) : Nat)

instance (moment : Moment) : Decidable moment.OnCalendar :=
  inferInstanceAs (Decidable (_ ∧ _))

variable {ρ : Type} {moment other : Moment} {instant : Instant} {scene after : Scene ρ}

private theorem onCalendar_iff :
    moment.OnCalendar ↔ 0 ≤ moment.utc ∧ moment.utc.toNat < Calendar.span := by
  have first : (⟨1, 1, 1⟩ : Date).toDays = 0 := by decide
  have last : (⟨9999, 12, 31⟩ : Date).toDays + 1 = Date.span := by decide
  unfold OnCalendar Calendar.span
  rw [first, ← last]
  simp only [Calendar.day, Calendar.hour, Calendar.minute, Calendar.second]
  omega

private theorem instant?_eq (moment : Moment) :
    moment.instant? =
      if inRange : 0 ≤ moment.utc ∧ moment.utc.toNat < Calendar.span then
        some ⟨moment.utc.toNat, inRange.2⟩
      else none := rfl

/-- An instant is the point in time that the moment denotes. -/
theorem instant?_eq_some : moment.instant? = some instant ↔ (instant.micros : Int) = moment.utc := by
  obtain ⟨micros, fits⟩ := instant
  rw [instant?_eq]
  constructor
  · intro found
    split at found
    · cases found
      simp only
      omega
    · cases found
  · intro same
    simp only at same
    have inRange : 0 ≤ moment.utc ∧ moment.utc.toNat < Calendar.span := by omega
    rw [dif_pos inRange]
    simp only [Option.some.injEq, Instant.mk.injEq]
    omega

theorem instant?_eq_none : moment.instant? = none ↔ ¬ moment.OnCalendar := by
  rw [onCalendar_iff, instant?_eq]
  split <;> simp [*]

theorem exists_instant (onCalendar : moment.OnCalendar) :
    ∃ instant, moment.instant? = some instant :=
  Option.ne_none_iff_exists'.mp fun missing => instant?_eq_none.mp missing onCalendar

private theorem instant_eq_ok :
    moment.instant scene = .ok instant after ↔ moment.instant? = some instant ∧ scene = after := by
  rw [instant_run]
  cases moment.instant? <;> simp

private theorem instant_eq_error {failure : Failure} :
    moment.instant scene = .error failure after ↔
      moment.instant? = none ∧ failure = .outOfRange ∧ scene = after := by
  rw [instant_run]
  cases moment.instant? <;> simp [eq_comm]

private theorem expiresMarker_eq_ok {text : String} :
    moment.expiresMarker scene = .ok text after ↔
      ∃ instant, moment.instant? = some instant ∧ text = instant.iso ∧ scene = after := by
  unfold expiresMarker
  rw [Action.bind_run, instant_run]
  cases moment.instant? <;> simp [eq_comm]

end Moment

namespace Instant

private theorem utc_moment (instant : Instant) : instant.moment.utc = instant.micros := by
  simp [moment, Moment.utc]

/-- The text of an instant is read as its clock in UTC. -/
theorem ofIso?_iso (instant : Instant) : Moment.ofIso? instant.iso = some instant.moment := by
  apply Moment.ofIso?_iso
  intro offset own
  cases own
  decide

private theorem iso_inj {left right : Instant} : left.iso = right.iso ↔ left = right := by
  constructor
  · intro same
    have clocks : some left.moment = some right.moment := by
      rw [← ofIso?_iso, ← ofIso?_iso, same]
    have points : left.micros = right.micros :=
      congrArg Moment.micros (Option.some.inj clocks)
    cases left
    cases right
    cases points
    rfl
  · rintro rfl
    rfl

private theorem date_time (instant : Instant) :
    instant.moment.date.isValid = true ∧ instant.moment.time < Calendar.day ∧
      instant.moment.date.toDays * Calendar.day + instant.moment.time = instant.micros := by
  refine ⟨instant.moment.isValid_date, instant.moment.time_lt, ?_⟩
  rw [Moment.date, Date.toDays_ofDays]
  exact Nat.div_add_mod' instant.moment.micros Calendar.day

end Instant

private theorem Entries.set_new {α : Type} {name : String} {value : α} {entries : List (String × α)}
    (new : name ∉ entries.map Prod.fst) :
    Entries.set name value entries = entries ++ [(name, value)] := by
  induction entries with
  | nil => rfl
  | cons entry rest ih =>
    simp only [List.map_cons, List.mem_cons, not_or] at new
    simp [Entries.set, Ne.symm new.1, ih new.2]

namespace Table

variable {α : Type}

private theorem entries_foldl_set (table : Table α) {entries : List (String × α)}
    (distinct : ((table.entries ++ entries).map Prod.fst).Nodup) :
    (entries.foldl (fun table entry => table.set entry.1 entry.2) table).entries =
      table.entries ++ entries := by
  induction entries generalizing table with
  | nil => simp
  | cons entry rest ih =>
    have new : entry.1 ∉ table.entries.map Prod.fst := by
      rw [List.map_append, List.nodup_append] at distinct
      intro known
      exact distinct.2.2 _ known _ (by simp) rfl
    have placed : (table.set entry.1 entry.2).entries = table.entries ++ [entry] :=
      Entries.set_new new
    rw [List.foldl_cons, ih, placed, List.append_assoc, List.singleton_append]
    rwa [placed, List.append_assoc, List.singleton_append]

private theorem ofList_entries (table : Table α) : ofList table.entries = table := by
  have same : (ofList table.entries).entries = [] ++ table.entries :=
    entries_foldl_set empty (by simpa [empty] using table.nodup)
  cases found : ofList table.entries with
  | mk entries nodup =>
    rw [found] at same
    cases table
    cases same
    rfl

end Table

private theorem Field.texts_entries (table : Table String) :
    Field.texts (.object (table.entries.map fun entry => (entry.1, .text entry.2))) = .ok table := by
  have read (entries : List (String × String)) :
      Checked.all (entries.map fun entry => Checked.inField entry.1
        ((Field.text (.text entry.2)).map fun s => (entry.1, s))) = .ok entries := by
    induction entries with
    | nil => rfl
    | cons entry rest ih =>
      rw [List.map_cons, Checked.all, ih]
      rfl
  simp only [Field.texts, List.map_map, Function.comp_def, read]
  exact congrArg Except.ok (Table.ofList_entries table)

namespace Envelope

variable {now : Instant} {draft : Draft} {moment : Moment} {envelope : Envelope}

private theorem ofDraft_outOfRange (sent : draft.sentAt = .typed moment) :
    ofDraft now draft = .error .outOfRange ↔ moment.instant? = none := by
  cases found : moment.instant? with
  | none => simp [ofDraft, sent, readSentAt, found]
  | some instant =>
    simp only [ofDraft, sent, readSentAt, found, reduceCtorEq, iff_false]
    split <;> (intro failed; cases failed)

private theorem sentAt_of_ofDraft (sent : draft.sentAt = .typed moment)
    (made : ofDraft now draft = .ok envelope) : moment.instant? = some envelope.sentAt := by
  cases found : moment.instant? with
  | none =>
    rw [(ofDraft_outOfRange sent).mpr found] at made
    cases made
  | some instant =>
    simp only [ofDraft, sent, readSentAt, found] at made
    split at made
    · cases made
    · next read =>
      cases made
      simp only [Checked.sorted, Checked.inField, mapError_eq_ok, Checked.both_eq_ok] at read
      obtain ⟨-, -, sentAt, -, -⟩ := read
      cases sentAt
      rfl

/-- The headers of an envelope as the JSON object that they are given in. -/
def headersJson (envelope : Envelope) : Json :=
  .object (envelope.headers.entries.map fun entry => (entry.1, .text entry.2))

/-- The fields of an envelope once more, with another body or other headers where given. -/
def redraft (envelope : Envelope) (body : Option Bytes) (headers : Option Json) : Draft where
  messageId := some (.text envelope.messageId)
  correlationId := some ((envelope.correlationId.map Json.text).getD .null)
  sentAt := .typed envelope.sentAt.moment
  body := .typed (body.getD envelope.body)
  headers := some (headers.getD envelope.headersJson)

private theorem readMessageId_own (envelope : Envelope) :
    readMessageId (.text envelope.messageId) = .ok ⟨envelope.messageId, envelope.identified⟩ := by
  have some : envelope.messageId.isEmpty = false := by
    cases empty : envelope.messageId.isEmpty with
    | false => rfl
    | true =>
      have identified := envelope.identified
      rw [String.isEmpty_iff.mp empty] at identified
      exact absurd identified (by decide)
  simp [readMessageId, Field.nonEmptyText, Field.text, some, envelope.identified, bind, Except.bind]

private theorem sentAt_of_replace {body : Option Bytes} {headers : Option Json} {copy : Envelope}
    (copied : envelope.replace body headers = .ok copy) : copy.sentAt = envelope.sentAt := by
  cases headers with
  | none =>
    cases copied
    rfl
  | some json =>
    simp only [replace] at copied
    cases read : Checked.sorted (Checked.inField "headers" (Field.texts json)) with
    | error errors =>
      rw [read] at copied
      cases copied
    | ok given =>
      rw [read] at copied
      cases copied
      rfl

/-- A copy of an envelope is what validation makes of its fields. -/
theorem ofDraft_redraft (now : Instant) (envelope : Envelope) (body : Option Bytes)
    (headers : Option Json) :
    ofDraft now (envelope.redraft body headers) =
      (envelope.replace body headers).mapError .invalid := by
  have correlated : Field.optional none Field.textOrNull
      (some ((envelope.correlationId.map Json.text).getD .null)) = .ok envelope.correlationId := by
    cases envelope.correlationId <;> rfl
  have sent := envelope.sentAt.instant?_moment
  simp only [ofDraft, redraft, readSentAt, sent, Field.required, readMessageId_own, correlated,
    readBody, replace]
  cases headers with
  | none =>
    simp [headersJson, Field.texts_entries, Checked.inField, Checked.both, Checked.sorted,
      Except.map, withBody]
  | some json =>
    cases read : Field.texts json <;>
      simp [read, Checked.inField, Checked.both, Checked.sorted, Except.map,
        withBody, withHeaders]

end Envelope

/-- Conversion to UTC, of a time of sending and of a time of expiry alike, fails exactly outside the
calendar. Otherwise it gives the same point in time on a clock in UTC, where it stays when an
envelope is copied or the conversion is repeated, and which is what its text is read as. -/
theorem Moment.conversion_exact {ρ : Type} (moment other : Moment) (now : Instant) (scene : Scene ρ) :
    (∀ draft : Envelope.Draft, draft.sentAt = .typed moment →
      (Envelope.ofDraft now draft = .error .outOfRange ↔
        moment.instant scene = .error .outOfRange scene) ∧
      ∀ envelope, Envelope.ofDraft now draft = .ok envelope →
        moment.instant scene = .ok envelope.sentAt scene) ∧
    (moment.instant scene = .error .outOfRange scene ↔ ¬ moment.OnCalendar) ∧
    (moment.OnCalendar → ∃ instant,
      moment.instant scene = .ok instant scene ∧
      instant.moment.utc = moment.utc ∧ instant.moment.offset = some 0 ∧
      instant.moment.date.isValid = true ∧ instant.moment.time < Calendar.day ∧
      ((instant.moment.date.toDays * Calendar.day + instant.moment.time : Nat) : Int) = moment.utc ∧
      instant.moment.instant scene = .ok instant scene ∧
      ∃ text, moment.expiresMarker scene = .ok text scene ∧
        Moment.ofIso? text = some instant.moment) ∧
    (∀ (envelope : Envelope) (body : Option Bytes) (headers : Option Json),
      Envelope.ofDraft now (envelope.redraft body headers) =
          (envelope.replace body headers).mapError .invalid ∧
        ∀ copy, envelope.replace body headers = .ok copy → copy.sentAt = envelope.sentAt) ∧
    ∀ text otherText, moment.expiresMarker scene = .ok text scene →
      other.expiresMarker scene = .ok otherText scene → (text = otherText ↔ moment.utc = other.utc) := by
  refine ⟨fun draft sent => ⟨?_, fun envelope made => ?_⟩, ?_, fun onCalendar => ?_,
    fun envelope body headers =>
      ⟨envelope.ofDraft_redraft now body headers, fun _ => Envelope.sentAt_of_replace⟩,
    fun text otherText marked otherMarked => ?_⟩
  · rw [Envelope.ofDraft_outOfRange sent, instant_eq_error]
    simp
  · exact instant_eq_ok.mpr ⟨Envelope.sentAt_of_ofDraft sent made, rfl⟩
  · rw [instant_eq_error, instant?_eq_none]
    simp
  · obtain ⟨instant, found⟩ := exists_instant onCalendar
    have point : (instant.micros : Int) = moment.utc := instant?_eq_some.mp found
    obtain ⟨valid, inDay, total⟩ := instant.date_time
    refine ⟨instant, instant_eq_ok.mpr ⟨found, rfl⟩, ?_, rfl, valid, inDay, ?_, ?_, instant.iso, ?_,
      instant.ofIso?_iso⟩
    · rw [instant.utc_moment, point]
    · rw [total, point]
    · exact instant_eq_ok.mpr ⟨instant.instant?_moment, rfl⟩
    · exact expiresMarker_eq_ok.mpr ⟨instant, found, rfl, rfl⟩
  · obtain ⟨instant, found, rfl, -⟩ := expiresMarker_eq_ok.mp marked
    obtain ⟨later, otherFound, rfl, -⟩ := expiresMarker_eq_ok.mp otherMarked
    rw [Instant.iso_inj, ← instant?_eq_some.mp found, ← instant?_eq_some.mp otherFound]
    constructor
    · rintro rfl
      rfl
    · intro same
      cases instant
      cases later
      cases Int.ofNat.inj same
      rfl

end ClaimCheck
