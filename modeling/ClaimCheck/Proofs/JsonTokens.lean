import ClaimCheck.Json.Reader
import ClaimCheck.Json.Writer
import ClaimCheck.Proofs.DecimalText

/-!
Strings and integers of JSON text are read as what they were written from. A string is escaped
character by character, and read the same way; an integer ends where its digits do.
-/
namespace ClaimCheck.Json

variable {n : Nat} {rules : Rules} {start next rest read : List Char}

private theorem scanString_unit {a b c d : Char} (digits : unit? a b c d = some n)
    (whole : (isHigh n || isLow n) = false) (more : next ≠ []) :
    scanString rules start ('\\' :: 'u' :: a :: b :: c :: d :: next) read =
      scanString rules start next (Char.ofNat n :: read) := by
  have notHigh : isHigh n = false := (Bool.or_eq_false_iff.mp whole).1
  have unit : ofUnit? rules n = some (Char.ofNat n) := by simp [ofUnit?, whole]
  obtain ⟨first, rest, rfl⟩ := List.exists_cons_of_ne_nil more
  rw [scanString.eq_def]
  split
  · next same => cases same
  · -- Another escape follows, but the first one does not ask for it.
    next same =>
    cases same
    simp only [digits, notHigh, unit, Bool.false_eq_true, if_false, Option.filter_none,
      Bool.false_and]
  · next same =>
    cases same
    simp only [digits, unit, Option.bind_some]
  · next short same =>
    cases same
    exact absurd rfl (short _ _ _ _ _ _)
  · next notUnit same =>
    cases same
    exact absurd rfl notUnit
  · next same => cases same
  · next same => cases same
  · next notEscape _ same =>
    cases same
    exact (notEscape _ _ rfl rfl).elim

private theorem scanString_pair {a b c d e f g h : Char} {high low : Nat}
    (highDigits : unit? a b c d = some high) (lowDigits : unit? e f g h = some low)
    (isHigh : isHigh high = true) (isLow : isLow low = true) (more : next ≠ []) :
    scanString rules start
        ('\\' :: 'u' :: a :: b :: c :: d :: '\\' :: 'u' :: e :: f :: g :: h :: next) read =
      scanString rules start next (joinPair high low :: read) := by
  obtain ⟨first, rest, rfl⟩ := List.exists_cons_of_ne_nil more
  rw [scanString]
  simp only [highDigits, lowDigits, isHigh, if_true, Option.filter_some, isLow]

private theorem scanString_short {letter c : Char} (plain : unescape? letter = some c)
    (notUnit : letter ≠ 'u') :
    scanString rules start ('\\' :: letter :: next) read = scanString rules start next (c :: read) := by
  rw [scanString.eq_def]
  split
  · next same => cases same
  · next same =>
    cases same
    exact absurd rfl notUnit
  · next same =>
    cases same
    exact absurd rfl notUnit
  · next same =>
    cases same
    exact absurd rfl notUnit
  · next same =>
    cases same
    simp only [plain]
  · next same => cases same
  · next same => cases same
  · next notEscape _ same =>
    cases same
    exact (notEscape _ _ rfl rfl).elim

private theorem scanString_plain {c : Char} (shown : 0x20 ≤ c.toNat) (notQuote : c ≠ '"')
    (notEscape : c ≠ '\\') :
    scanString rules start (c :: next) read = scanString rules start next (c :: read) := by
  have visible : ¬ c.toNat < 0x20 := by omega
  rw [scanString.eq_def]
  split
  · next same =>
    cases same
    exact absurd rfl notQuote
  · next same =>
    cases same
    exact absurd rfl notEscape
  · next same =>
    cases same
    exact absurd rfl notEscape
  · next same =>
    cases same
    exact absurd rfl notEscape
  · next same =>
    cases same
    exact absurd rfl notEscape
  · next same =>
    cases same
    exact absurd rfl notEscape
  · next same => cases same
  · next same =>
    cases same
    simp only [visible, if_false]

private theorem hexValue?_hexDigit : ∀ digit < 16, hexValue? (hexDigit digit) = some digit := by
  decide

private theorem unit?_hexDigits (fits : n < 0x10000) :
    unit? (hexDigit (n / 4096 % 16)) (hexDigit (n / 256 % 16)) (hexDigit (n / 16 % 16))
      (hexDigit (n % 16)) = some n := by
  have whole : 4096 * (n / 4096 % 16) + 256 * (n / 256 % 16) + 16 * (n / 16 % 16) + n % 16 = n := by
    omega
  have digit (k : Nat) : hexValue? (hexDigit (k % 16)) = some (k % 16) :=
    hexValue?_hexDigit _ (Nat.mod_lt _ (by decide))
  simp only [unit?, digit, Option.bind_eq_bind, Option.bind_some, whole]

private theorem unescape?_of_shortEscape? {c letter : Char} (short : shortEscape? c = some letter) :
    unescape? letter = some c ∧ letter ≠ 'u' := by
  unfold shortEscape? at short
  split at short
  all_goals cases short
  all_goals decide

/-- A character is read from what it is escaped as, as long as something follows. -/
theorem scanString_escapeChar (c : Char) (more : next ≠ []) :
    scanString rules start (escapeChar c ++ next) read =
      scanString rules start next (c :: read) := by
  have valid : c.toNat < 0xD800 ∨ 0xDFFF < c.toNat ∧ c.toNat < 0x110000 := c.valid
  have own : Char.ofNat c.toNat = c := Char.ofNat_toNat c
  cases short : shortEscape? c with
  | some letter =>
    obtain ⟨plain, notUnit⟩ := unescape?_of_shortEscape? short
    simp only [escapeChar, short]
    exact scanString_short plain notUnit
  | none =>
    simp only [escapeChar, short]
    split
    · next shown =>
      have notQuote : c ≠ '"' := by
        rintro rfl
        cases short
      have notEscape : c ≠ '\\' := by
        rintro rfl
        cases short
      exact scanString_plain shown.1 notQuote notEscape
    · split
      · next fits =>
        have whole : (isHigh c.toNat || isLow c.toNat) = false := by
          simp only [isHigh, isLow, Bool.or_eq_false_iff, Bool.and_eq_false_iff,
            decide_eq_false_iff_not]
          omega
        refine (scanString_unit (unit?_hexDigits fits) whole more).trans ?_
        rw [own]
      · next wide =>
        -- Above the basic plane a character is written as the two halves of a pair.
        have high : 0xD800 + (c.toNat - 0x10000) / 0x400 < 0x10000 := by omega
        have low : 0xDC00 + (c.toNat - 0x10000) % 0x400 < 0x10000 := by omega
        have first : isHigh (0xD800 + (c.toNat - 0x10000) / 0x400) = true := by
          simp only [isHigh, Bool.and_eq_true, decide_eq_true_eq]
          omega
        have second : isLow (0xDC00 + (c.toNat - 0x10000) % 0x400) = true := by
          simp only [isLow, Bool.and_eq_true, decide_eq_true_eq]
          omega
        refine (scanString_pair (unit?_hexDigits high) (unit?_hexDigits low) first second
          more).trans ?_
        have joined : joinPair (0xD800 + (c.toNat - 0x10000) / 0x400)
            (0xDC00 + (c.toNat - 0x10000) % 0x400) = c := by
          have whole : 0x10000 + (0xD800 + (c.toNat - 0x10000) / 0x400 - 0xD800) * 0x400 +
              (0xDC00 + (c.toNat - 0x10000) % 0x400 - 0xDC00) = c.toNat := by omega
          rw [joinPair, whole, own]
        rw [joined]

private theorem scanString_escaped (chars : List Char) (start rest read : List Char) :
    scanString rules start (chars.flatMap escapeChar ++ '"' :: rest) read =
      .ok (String.ofList (read.reverse ++ chars), rest) := by
  induction chars generalizing read with
  | nil => simp [scanString]
  | cons c chars ih =>
    have more : chars.flatMap escapeChar ++ '"' :: rest ≠ [] := by simp
    rw [List.flatMap_cons, List.append_assoc, scanString_escapeChar c more, ih]
    simp

/-- A string is read from what it is written as. -/
theorem scanString_written (text : String) (start rest : List Char) :
    scanString rules start (text.toList.flatMap escapeChar ++ '"' :: rest) [] =
      .ok (text, rest) := by
  rw [scanString_escaped]
  simp

/-- What may stand behind a value: the end, or what closes a bracket or leads on within it. -/
def EndsValue (rest : List Char) : Prop :=
  ∀ c ∈ rest.head?, c = ',' ∨ c = ']' ∨ c = '\x7d'

private theorem EndsValue.endsBefore (ends : EndsValue rest) : Decimal.EndsBefore rest := by
  intro c head
  rcases ends c head with rfl | rfl | rfl <;> decide

/-- Integers have as many digits as there are written. -/
theorem isHuge_iff {n : Int} :
    isHuge n = true ↔ Decimal.digitLimit < (Nat.toDigits 10 n.natAbs).length := by
  have short_iff := Nat.length_toDigits_le_iff (b := 10) (n := n.natAbs) (k := Decimal.digitLimit)
    (by decide) (by decide)
  rw [isHuge, decide_eq_true_iff, Nat.pow_eq, ← Nat.not_lt, ← short_iff, Nat.not_le]

theorem toList_int (n : Int) :
    (toString n).toList =
      if n < 0 then '-' :: Nat.toDigits 10 n.natAbs else Nat.toDigits 10 n.natAbs := by
  cases n with
  | ofNat size => simp [toString, Int.repr, Nat.repr]
  | negSucc size =>
    have below : Int.negSucc size < 0 := Int.negSucc_lt_zero size
    simp [toString, Int.repr, Nat.repr, below]

private theorem scanWhole_toDigits (size : Nat) (ends : EndsValue rest) :
    scanWhole (Nat.toDigits 10 size ++ rest) = (Nat.toDigits 10 size, rest) := by
  have taken : Decimal.takeDigits (Nat.toDigits 10 size ++ rest) = (Nat.toDigits 10 size, rest) :=
    Decimal.takeDigits_append (fun _ => Decimal.isDigit_of_mem_toDigits) ends.endsBefore
  unfold scanWhole
  split
  · next zero =>
    cases digits : Nat.toDigits 10 size with
    | nil => exact absurd digits (Decimal.toDigits_ne_nil size)
    | cons c more =>
      rw [digits] at zero
      cases zero
      rw [Decimal.toDigits_eq_cons digits]
      rfl
  · exact taken

private theorem scanFraction_ended (ends : EndsValue rest) : scanFraction rest = ([], rest) := by
  cases rest with
  | nil => rfl
  | cons c rest => rcases ends c rfl with rfl | rfl | rfl <;> rfl

private theorem takeExponent_ended (ends : EndsValue rest) :
    Decimal.takeExponent rest = (none, rest) := by
  cases rest with
  | nil => rfl
  | cons c rest => rcases ends c rfl with rfl | rfl | rfl <;> simp [Decimal.takeExponent]

/-- An integer of few enough digits is read from what it is written as. -/
theorem scanNumber_int {n : Int} (short : isHuge n = false) (ends : EndsValue rest) :
    scanNumber .plain ((toString n).toList ++ rest) = .ok (.int n, rest) := by
  have fits : ¬ Decimal.digitLimit < (Nat.toDigits 10 n.natAbs).length := by
    rw [← isHuge_iff, short]
    decide
  have filled : (Nat.toDigits 10 n.natAbs).isEmpty = false :=
    List.isEmpty_eq_false_iff.mpr (Decimal.toDigits_ne_nil n.natAbs)
  have whole := scanWhole_toDigits n.natAbs ends
  have limited : Rules.plain.limitsAll = false := rfl
  rw [toList_int]
  by_cases below : n < 0
  · have value : Decimal.signed true n.natAbs = n := by
      simp only [Decimal.signed, if_true]
      omega
    simp only [below, if_true, List.cons_append, scanNumber, whole, filled, scanFraction_ended ends,
      takeExponent_ended ends, List.isEmpty_nil, Option.isNone_none, Bool.and_self, limited,
      Bool.and_false, Bool.or_false, Nat.add_zero, fits, decide_false, Bool.false_eq_true, if_false,
      Decimal.ofDigits_toDigits, value]
  · have value : Decimal.signed false n.natAbs = n := by
      simp only [Decimal.signed, Bool.false_eq_true, if_false]
      omega
    obtain ⟨c, digits, same⟩ := List.exists_cons_of_ne_nil (Decimal.toDigits_ne_nil n.natAbs)
    have unsigned : c ≠ '-' := by
      rintro rfl
      have digit : '-' ∈ Nat.toDigits 10 n.natAbs := same ▸ List.mem_cons_self
      exact absurd (Decimal.isDigit_of_mem_toDigits digit) (by decide)
    simp only [below, if_false]
    unfold scanNumber
    split
    next negative body sign =>
    split at sign
    · next minus =>
      rw [same] at minus
      cases minus
      exact absurd rfl unsigned
    · cases sign
      simp only [whole, filled, scanFraction_ended ends,
        takeExponent_ended ends, List.isEmpty_nil, Option.isNone_none, Bool.and_self, limited,
        Bool.and_false, Bool.or_false, Nat.add_zero, fits, decide_false, Bool.false_eq_true,
        if_false, if_true, Decimal.ofDigits_toDigits, value]

end ClaimCheck.Json
