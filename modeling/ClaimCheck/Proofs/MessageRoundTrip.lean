import ClaimCheck.Proofs.JsonSpelling
import ClaimCheck.Proofs.MessageImages

/-!
Messages without floats and records, written and read again. Writing one fails exactly when
something that it holds has no JSON form; otherwise what is read is the JSON that it stands for.
-/
namespace ClaimCheck

namespace Value

variable {value key : Value} {room : Nat}

private theorem Fits.parts_fit (fits : value.Fits (room + 1)) {part : Value}
    (member : part ∈ value.parts) :
    part.Fits room :=
  (fits_iff.mp fits).2.2 part member

private theorem Fits.exists_room (fits : value.Fits room) (container : value.IsContainer) :
    ∃ left, room = left + 1 := by
  have opened := (fits_iff.mp fits).2.1
  rw [reach_of_container container] at opened
  exact Nat.exists_eq_add_of_le' opened

private theorem keyText_of_plain (isKey : key.IsKey) (short : ¬ key.IsLong)
    (noFloat : ∀ x, key ≠ .float x) : Json.keyText key = .ok key.keyName := by
  cases key with
  | int n =>
    rw [isLong_int] at short
    simp [Json.keyText, Json.writeInt, short, keyName, Except.map]
  | float x => exact absurd rfl (noFloat x)
  | null | bool | text | status => rfl
  | _ => exact absurd isKey id

end Value

namespace Json

open Value

variable {room reading : Nat}

private theorem writeItems_spelled {items : List Value}
    (written : ∀ item ∈ items, ∃ chars, writeValue room item = .ok chars ∧
      Spells reading chars item.image) :
    ∃ chars, (writeItems room items).map inBrackets = .ok chars ∧
      Spells (reading + 1) chars (.array (images items)) := by
  choose! text written using written
  refine ⟨inBrackets (items.map text), ?_, ?_⟩
  · rw [writeItems_eq, Except.mapM_eq_ok fun item member => (written item member).1]
    rfl
  · have spelled : ∀ pair ∈ items.map fun item => (text item, item.image),
        Spells reading pair.1 pair.2 :=
      List.forall_mem_map.mpr fun item member => (written item member).2
    simpa [images_eq, Function.comp_def] using spells_array spelled

private theorem writeEntries_spelled {entries : List (Value × Value)}
    (keys : ∀ entry ∈ entries, keyText entry.1 = .ok entry.1.keyName)
    (written : ∀ entry ∈ entries, ∃ chars, writeValue room entry.2 = .ok chars ∧
      Spells reading chars entry.2.image) :
    ∃ chars, (writeEntries room entries).map inBraces = .ok chars ∧
      Spells (reading + 1) chars (.object (lastOfEach (members entries))) := by
  choose! text written using written
  refine ⟨inBraces (entries.map fun entry => member entry.1.keyName (text entry)), ?_, ?_⟩
  · have each : ∀ entry ∈ entries,
        writeEntry room entry = .ok (member entry.1.keyName (text entry)) := by
      intro entry member
      simp only [writeEntry, keys entry member, (written entry member).1, bind, Except.bind]
    rw [writeEntries_eq, Except.mapM_eq_ok each]
    rfl
  · have spelled : ∀ m ∈ entries.map fun entry => (entry.1.keyName, text entry, entry.2.image),
        Spells reading m.2.1 m.2.2 :=
      List.forall_mem_map.mpr fun entry member => (written entry member).2
    have whole := spells_object spelled
    rw [ofMembers_eq] at whole
    simpa [members_eq, Function.comp_def] using whole

/-- A plain value is written as a text that spells what it stands for, where it is nested deeper
neither than is written nor than is read. -/
theorem writeValue_spelled {value : Value} (plain : value.IsPlain) (fits : value.Fits room)
    (shallow : value.depth ≤ reading) :
    ∃ chars, writeValue room value = .ok chars ∧ Spells reading chars value.image := by
  induction value using induction_parts generalizing room reading with
  | step value ih =>
    obtain ⟨itself, parts⟩ := isPlain_iff.mp plain
    have reads : value.Fits reading := ⟨fits.1, shallow⟩
    cases value with
    | list items | tuple items =>
      obtain ⟨left, rfl⟩ := fits.exists_room trivial
      obtain ⟨depth, rfl⟩ := reads.exists_room trivial
      simp only [writeValue, opening_succ, image]
      exact writeItems_spelled fun item member =>
        ih item member (parts item member) (fits.parts_fit member) (reads.parts_fit member).2
    | dict entries =>
      obtain ⟨left, rfl⟩ := fits.exists_room trivial
      obtain ⟨depth, rfl⟩ := reads.exists_room trivial
      have formed := (fits_iff.mp fits).1
      simp only [HasNoForm, not_exists, not_and, not_or, Classical.not_not] at formed
      simp only [writeValue, opening_succ, image]
      refine writeEntries_spelled (fun entry member => ?_) (fun entry member => ?_)
      · exact keyText_of_plain (formed entry member).1 (formed entry member).2 (itself entry member)
      · have inside := List.mem_map_of_mem (f := Prod.snd) member
        exact ih entry.2 inside (parts entry.2 inside) (fits.parts_fit inside)
          (reads.parts_fit inside).2
    | int n =>
      have short := (fits_iff.mp fits).1
      rw [HasNoForm, isLong_int] at short
      simp only [writeValue, writeInt, if_neg short]
      exact ⟨_, rfl, spells_int reading (Bool.eq_false_iff.mpr short)⟩
    | null => exact ⟨_, rfl, spells_null reading⟩
    | bool b => exact ⟨_, rfl, spells_bool reading b⟩
    | text | status | moment | date | clockTime => exact ⟨_, rfl, spells_text reading _⟩
    | float | order | batch => exact absurd itself id
    | bytes | set | object | decimal | knot => exact absurd trivial (fits_iff.mp fits).1

/-- A text that spells a value and nothing else is read as the value. -/
theorem readWithin_spelled {chars : List Char} {json : Json} (spells : Spells room chars json) :
    readWithin room (String.ofList chars) = .ok json := by
  have ends : EndsValue [] := by simp [EndsValue]
  have whole := spells.reads (2 * chars.length + 1) [] (by omega) ends
  obtain ⟨c, more, rfl, begins⟩ := spells.begins
  rw [List.append_nil] at whole
  rw [readWithin, readUnder, String.toList_ofList]
  unfold scanText
  split
  · next same =>
    obtain ⟨mark, -⟩ := List.cons.inj same
    rw [mark] at begins
    exact absurd begins (by decide)
  · rw [skipSpace_begins begins, whole]
    rfl

end Json

namespace Message

open Value

variable {message : Value} {writing reading : Nat}

private theorem isRecord_of_isPlain (plain : message.IsPlain) : message.isRecord = false := by
  have itself := plain message (.itself message)
  cases message with
  | order | batch => exact absurd itself id
  | _ => rfl

/-- A message that is not nested too deep is written, or fails as one that has no form. -/
theorem serialize_fails_iff (other : message.isRecord = false) (shallow : message.depth ≤ writing) :
    (∃ error, serializeWithin writing message = .error (.serialization error)) ↔
      message.IsDefective := by
  constructor
  · rintro ⟨error, failed⟩
    by_cases defective : message.IsDefective
    · exact defective
    · obtain ⟨raw, written⟩ := serializeWithin_eq_ok.mpr (.inr ⟨defective, shallow⟩)
      rw [failed] at written
      cases written
  · intro defective
    cases result : serializeWithin writing message with
    | ok raw =>
      obtain record | fits := serializeWithin_eq_ok.mp ⟨raw, result⟩
      · rw [other] at record
        cases record
      · exact absurd defective fits.1
    | error failure =>
      obtain ⟨⟨-, sinks⟩, -⟩ | ⟨-, error, rfl⟩ := serializeWithin_eq_error result
      · exact absurd sinks.lt_depth (Nat.not_lt_of_le shallow)
      · exact ⟨_, rfl⟩

/-- What is written of a plain message that has a form is read as the JSON that it stands for. -/
theorem deserialize_serialize (plain : message.IsPlain) (fits : message.Fits writing)
    (shallow : message.depth ≤ reading) :
    ∃ raw, serializeWithin writing message = .ok raw ∧
      deserializeWithin reading .anything raw = .ok (.json message.image) := by
  obtain ⟨chars, written, spells⟩ := Json.writeValue_spelled plain fits shallow
  have whole : Json.write writing message = .ok (String.ofList chars) := by
    have other := isRecord_of_isPlain plain
    cases message with
    | order | batch => cases other
    | _ => simp only [Json.write, written, Except.map]
  refine ⟨Text.Utf8.encode (String.ofList chars), by rw [serializeWithin, whole], ?_⟩
  rw [deserializeWithin_eq rfl, Text.Utf8.decode_encode]
  simp only [Json.readWithin_spelled spells]
  rfl

/-- However much room there is to write and to read: encoding a message without floats and records
that is not nested too deep fails, as a failure of serialization, exactly when something in it has no
form; otherwise decoding gives the JSON that it stands for, and so gives a message of JSON itself. -/
theorem round_trip (plain : message.IsPlain) (written : message.depth ≤ writing)
    (read : message.depth ≤ reading) :
    ((∃ error, serializeWithin writing message = .error (.serialization error)) ↔
      message.IsDefective) ∧
    (¬ message.IsDefective → ∃ raw, serializeWithin writing message = .ok raw ∧
      deserializeWithin reading .anything raw = .ok (.json message.image)) ∧
    (message.IsJson → ¬ message.IsDefective →
      ∃ raw json, serializeWithin writing message = .ok raw ∧
        deserializeWithin reading .anything raw = .ok (.json json) ∧ json.toValue = message) := by
  refine ⟨serialize_fails_iff (isRecord_of_isPlain plain) written,
    fun sound => deserialize_serialize plain ⟨sound, written⟩ read, ?_⟩
  intro json sound
  obtain ⟨raw, serialized, deserialized⟩ := deserialize_serialize plain ⟨sound, written⟩ read
  exact ⟨raw, message.image, serialized, deserialized, Value.toValue_image json⟩

/-- Of two keys that have one name, what the later one holds is read. -/
theorem round_trip_of_shared_name :
    ∃ raw, serialize (.dict [(.null, .text "a"), (.text "null", .tuple [.null])]) = .ok raw ∧
      deserialize .anything raw = .ok (.json (.object [("null", .array [.null])])) := by
  have text : (Value.text "a").IsPlain := Value.isPlain_iff.mpr (by simp [IsPlainPart, parts])
  have null : Value.null.IsPlain := Value.isPlain_iff.mpr (by simp [IsPlainPart, parts])
  have tuple : (Value.tuple [.null]).IsPlain :=
    Value.isPlain_iff.mpr (by simpa [IsPlainPart, parts] using null)
  have plain : (Value.dict [(.null, .text "a"), (.text "null", .tuple [.null])]).IsPlain :=
    Value.isPlain_iff.mpr (by simpa [IsPlainPart, parts] using ⟨text, tuple⟩)
  have fits : (Value.dict [(.null, .text "a"), (.text "null", .tuple [.null])]).Fits
      Json.usualRoom := (Json.writeValue_eq_ok _).mp ⟨_, rfl⟩
  exact (round_trip plain fits.2 fits.2).2.1 fits.1

end Message
end ClaimCheck
