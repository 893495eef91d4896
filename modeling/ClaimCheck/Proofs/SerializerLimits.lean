import ClaimCheck.Proofs.ReaderLimits
import ClaimCheck.Proofs.WritableValues

/-!
What comes out of the serializer other than its own failures: it lets pass that something is nested
too deep, in both directions, and when reading that an integer has too many digits.
-/
namespace ClaimCheck.Message

/-- Whether something other than a failure of serialization comes out. -/
def Escapes {α : Type} (result : Except Failure α) : Prop :=
  ∃ failure, result = .error failure ∧ ∀ error, failure ≠ .serialization error

private theorem serialize_escapes_iff (room : Nat) (message : Value) :
    Escapes (serializeWithin room message) ↔ message.isRecord = false ∧ message.Sinks room := by
  constructor
  · rintro ⟨failure, failed, other⟩
    obtain ⟨sinks, -⟩ | ⟨-, error, same⟩ := serializeWithin_eq_error failed
    · exact sinks
    · exact absurd same (other _)
  · intro sinks
    refine ⟨.tooDeep Json.WriteError.tooDeep.message, ?_, by simp⟩
    rw [serializeWithin, (Json.write_tooDeep message).mpr sinks]

private theorem deserialize_escapes_iff (room : Nat) (expected : Expected) (raw : Bytes) :
    Escapes (deserializeWithin room expected raw) ↔ expected.isRecord = false ∧
      ∃ text, Text.Utf8.decode raw = .ok text ∧ Json.TextOverreaches room text := by
  cases record : expected.isRecord with
  | true =>
    refine iff_of_false ?_ (by simp)
    rintro ⟨failure, failed, other⟩
    obtain ⟨errors, same⟩ := deserializeWithin_record record failed
    exact other _ same
  | false =>
    rw [deserializeWithin_eq record]
    cases Text.Utf8.decode raw with
    | error error => simp [Escapes]
    | ok text =>
      simp only [Except.ok.injEq, exists_eq_left', true_and, ← Json.readWithin_limit]
      cases Json.readWithin room text with
      | ok json =>
        simp only
        split <;> simp [Escapes]
      | error error => cases error <;> simp [Escapes]

/-- However much room there is, failures of the serializer are its own, except where a value other than
a record sinks before anything else is wrong with it, and where the text of anything but a record
overreaches. -/
theorem escapes_iff (room : Nat) (message : Value) (expected : Expected) (raw : Bytes) :
    (Escapes (serializeWithin room message) ↔ message.isRecord = false ∧ message.Sinks room) ∧
    (Escapes (deserializeWithin room expected raw) ↔ expected.isRecord = false ∧
      ∃ text, Text.Utf8.decode raw = .ok text ∧ Json.TextOverreaches room text) :=
  ⟨serialize_escapes_iff room message, deserialize_escapes_iff room expected raw⟩

private theorem sinks_nested {room depth : Nat} (deep : room < depth) :
    (Value.nested depth).Sinks room := by
  induction room generalizing depth with
  | zero =>
    refine .full ?_
    cases depth with
    | zero => exact Nat.one_pos
    | succ depth => cases depth <;> exact Nat.one_pos
  | succ room ih =>
    obtain ⟨depth, rfl⟩ : ∃ less, depth = less + 2 := ⟨depth - 2, by omega⟩
    have sinks : (Value.nested (depth + 1)).Sinks room := ih (by omega)
    exact Value.sinks_list.mpr ⟨[], _, [], rfl, by simp, sinks⟩

private theorem overreaches_brackets {room count : Nat} (deep : room < count) :
    Json.Overreaches room (List.replicate count '[') := by
  induction room generalizing count with
  | zero =>
    obtain ⟨count, rfl⟩ : ∃ less, count = less + 1 := ⟨count - 1, by omega⟩
    exact Json.overreaches_full (.inl rfl)
  | succ room ih =>
    obtain ⟨count, rfl⟩ : ∃ less, count = less + 2 := ⟨count - 2, by omega⟩
    have inside : Json.Overreaches room (List.replicate (count + 1) '[') := ih (by omega)
    refine Json.overreaches_array.mpr ⟨fun rest closed => ?_, _, .first _, inside⟩
    cases closed

private theorem overreaches_ones {room count : Nat} (long : Decimal.digitLimit < count) :
    Json.Overreaches room (List.replicate count '1') := by
  refine ⟨room, _, .here _ _, .inr (.inl ⟨_, [], (List.append_nil _).symm, ?_, ?_, ?_, ?_⟩)⟩
  · intro c member
    rw [List.eq_of_mem_replicate member]
    decide
  · cases count <;> simp [List.replicate_succ]
  · rwa [List.length_replicate]
  · exact ⟨by simp [Decimal.EndsBefore], rfl, rfl⟩

/-- Deep nesting and many digits come out as they are. -/
theorem limits_escape :
    Escapes (serialize (.nested 5000)) ∧
    Escapes (deserialize .anything
      (Text.Utf8.encode (String.ofList (List.replicate 5000 '[')))) ∧
    Escapes (deserialize .anything
      (Text.Utf8.encode (String.ofList (List.replicate 4301 '1')))) := by
  have reading {c : Char} {count : Nat} (shown : Json.isSpace c = false)
      (beyond : Json.Overreaches Json.usualRoom (List.replicate count c)) :
      Escapes (deserialize .anything
        (Text.Utf8.encode (String.ofList (List.replicate count c)))) := by
    refine (deserialize_escapes_iff Json.usualRoom _ _).mpr ⟨rfl, _, Text.Utf8.decode_encode _, ?_⟩
    have kept : Json.skipSpace (List.replicate count c) = List.replicate count c := by
      cases count <;> simp [Json.skipSpace, List.replicate_succ, shown]
    rwa [Json.TextOverreaches, String.toList_ofList, kept]
  refine ⟨(serialize_escapes_iff Json.usualRoom _).mpr ⟨rfl, sinks_nested (by decide)⟩, ?_, ?_⟩
  · exact reading (by decide) (overreaches_brackets (by decide))
  · exact reading (by decide) (overreaches_ones (by decide))

end ClaimCheck.Message
