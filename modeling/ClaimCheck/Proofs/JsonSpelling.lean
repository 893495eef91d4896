import ClaimCheck.Proofs.JsonTokens

/-!
Texts that spell JSON values: wherever one stands, the reader takes it for its value and goes on
behind it. Null, truth values, integers and strings are spelled as they are written, and arrays and
objects by what spells their parts.
-/
namespace ClaimCheck.Json

/-- Whether a character may begin a value: it is no blank and no mark of the byte order, and closes
no bracket. -/
def BeginsValue (c : Char) : Prop :=
  c ∉ [' ', '\t', '\n', '\r', '\ufeff', ']', '\x7d']

instance (c : Char) : Decidable (BeginsValue c) :=
  inferInstanceAs (Decidable (¬ _))

/-- Whether a text is read as a value where the given count of brackets may still be opened. -/
structure Spells (room : Nat) (text : List Char) (json : Json) : Prop where
  begins : ∃ c more, text = c :: more ∧ BeginsValue c
  reads : ∀ fuel rest, 2 * text.length ≤ fuel + 1 → EndsValue rest →
    scanValue .plain (fuel + 1) room (text ++ rest) = .ok (json, rest)

variable {room fuel : Nat} {text rest : List Char} {json : Json}

private theorem Spells.length_pos (spells : Spells room text json) : 0 < text.length := by
  obtain ⟨c, more, rfl, -⟩ := spells.begins
  exact Nat.succ_pos _

theorem skipSpace_begins {c : Char} (begins : BeginsValue c) (more : List Char) :
    skipSpace (c :: more) = c :: more := by
  have noSpace : isSpace c = false := by
    simp only [BeginsValue, List.mem_cons, not_or] at begins
    simp [isSpace, begins]
  simp [skipSpace, noSpace]

theorem Spells.skipSpace (spells : Spells room text json) (rest : List Char) :
    skipSpace (text ++ rest) = text ++ rest := by
  obtain ⟨c, more, rfl, begins⟩ := spells.begins
  exact skipSpace_begins begins _

theorem spells_null (room : Nat) : Spells room "null".toList .null where
  begins := ⟨'n', "ull".toList, rfl, by decide⟩
  reads _ _ _ _ := rfl

theorem spells_bool (room : Nat) (b : Bool) :
    Spells room (if b then "true" else "false").toList (.bool b) where
  begins := by
    cases b with
    | false => exact ⟨'f', "alse".toList, rfl, by decide⟩
    | true => exact ⟨'t', "rue".toList, rfl, by decide⟩
  reads _ _ _ _ := by cases b <;> rfl

theorem spells_text (room : Nat) (s : String) : Spells room (writeText s) (.text s) where
  begins := ⟨'"', _, rfl, by decide⟩
  reads _ _ _ _ := by
    simp only [writeText, quote, List.cons_append, List.append_assoc, List.nil_append, scanValue,
      scanString_written]
    rfl

/-- Digits begin a value that is no literal, with a minus before them or not. -/
theorem scanLiteral_digit {c : Char} (digit : c.isDigit = true) (rest : List Char) :
    scanLiteral (c :: rest) = none ∧ scanLiteral ('-' :: c :: rest) = none := by
  have other (letter : Char) (noDigit : letter.isDigit = false) : letter ≠ c := by
    rintro rfl
    rw [noDigit] at digit
    cases digit
  have n := other 'n' (by decide)
  have t := other 't' (by decide)
  have f := other 'f' (by decide)
  have notNumber := other 'N' (by decide)
  have infinity := other 'I' (by decide)
  have minus := other '-' (by decide)
  constructor <;> simp [scanLiteral, literals, n, t, f, notNumber, infinity, minus]

private theorem scanValue_other {rules : Rules} {c : Char} (notQuote : c ≠ '"')
    (notBracket : c ≠ '[') (notBrace : c ≠ '\x7b') (more : List Char) :
    scanValue rules (fuel + 1) room (c :: more) =
      match scanLiteral (c :: more) with
      | some found => .ok found
      | none => scanNumber rules (c :: more) := by
  rw [scanValue.eq_def]
  simp only
  split
  · next same =>
    cases same
    exact absurd rfl notQuote
  · next same =>
    cases same
    exact absurd rfl notBracket
  · next same =>
    cases same
    exact absurd rfl notBrace
  · rfl

private theorem beginsValue_digit {c : Char} (digit : c.isDigit = true) : BeginsValue c := by
  have noDigits : [' ', '\t', '\n', '\r', '\ufeff', ']', '\x7d'].all (!·.isDigit) = true := rfl
  intro member
  have noDigit := List.all_eq_true.mp noDigits c member
  rw [digit] at noDigit
  cases noDigit

theorem spells_int (room : Nat) {n : Int} (short : isHuge n = false) :
    Spells room (toString n).toList (.int n) := by
  obtain ⟨c, digits, same⟩ := List.exists_cons_of_ne_nil (Decimal.toDigits_ne_nil n.natAbs)
  have digit : c.isDigit = true := Decimal.isDigit_of_mem_toDigits (same ▸ List.mem_cons_self)
  have written := toList_int n
  rw [same] at written
  constructor
  · by_cases below : n < 0
    · exact ⟨'-', c :: digits, by rw [written, if_pos below], by decide⟩
    · exact ⟨c, digits, by rw [written, if_neg below], beginsValue_digit digit⟩
  · intro fuel rest _ ends
    have number := scanNumber_int short ends
    have literal := scanLiteral_digit digit
    rw [written] at number ⊢
    by_cases below : n < 0
    · rw [if_pos below] at number ⊢
      simp only [List.cons_append] at number ⊢
      rw [scanValue_other (by decide) (by decide) (by decide), (literal _).2]
      exact number
    · rw [if_neg below] at number ⊢
      simp only [List.cons_append] at number ⊢
      have other (mark : Char) (noDigit : mark.isDigit = false) : c ≠ mark := by
        rintro rfl
        rw [noDigit] at digit
        cases digit
      rw [scanValue_other (other _ (by decide)) (other _ (by decide)) (other _ (by decide)),
        (literal _).1]
      exact number

private theorem separated_cons (first second : List Char) (more : List (List Char)) :
    separated (first :: second :: more) = first ++ ',' :: ' ' :: separated (second :: more) := by
  simp [separated, List.intercalate]

private theorem separated_singleton (only : List Char) : separated [only] = only := by
  simp [separated, List.intercalate]

private theorem exists_separated (first : List Char) (more : List (List Char)) :
    ∃ tail, separated (first :: more) = first ++ tail := by
  cases more with
  | nil => exact ⟨[], by rw [separated_singleton, List.append_nil]⟩
  | cons second more => exact ⟨_, separated_cons first second more⟩

private theorem skipSpace_separated {first : List Char}
    (begun : ∃ c more, first = c :: more ∧ BeginsValue c) (more : List (List Char))
    (rest : List Char) :
    ∃ c tail, separated (first :: more) ++ rest = c :: tail ∧ BeginsValue c ∧
      skipSpace (' ' :: c :: tail) = c :: tail := by
  obtain ⟨tail, same⟩ := exists_separated first more
  obtain ⟨c, left, rfl, begins⟩ := begun
  exact ⟨c, left ++ (tail ++ rest), by simp [same], begins, skipSpace_begins begins _⟩

private theorem scanItems_spelled {items : List (List Char × Json)} (filled : items ≠ [])
    (spelled : ∀ item ∈ items, Spells room item.1 item.2)
    (enough : 2 * (separated (items.map Prod.fst)).length + 1 ≤ fuel) :
    scanItems .plain fuel room (separated (items.map Prod.fst) ++ ']' :: rest) =
      .ok (items.map Prod.snd, rest) := by
  induction items generalizing fuel with
  | nil => exact absurd rfl filled
  | cons first items ih =>
    have spells := spelled first (by simp)
    have long := spells.length_pos
    cases items with
    | nil =>
      simp only [List.map_cons, List.map_nil, separated_singleton] at enough ⊢
      obtain ⟨fuel, rfl⟩ : ∃ left, fuel = left + 2 := ⟨fuel - 2, by omega⟩
      have ends : EndsValue (']' :: rest) := by simp [EndsValue]
      have read := spells.reads fuel _ (by omega) ends
      simp only [scanItems, read, bind, Except.bind]
      rfl
    | cons second more =>
      simp only [List.map_cons, separated_cons, List.length_append, List.length_cons] at enough ih ⊢
      obtain ⟨fuel, rfl⟩ : ∃ left, fuel = left + 2 := ⟨fuel - 2, by omega⟩
      obtain ⟨c, tail, begun, -, skipped⟩ := skipSpace_separated
        (spelled second (by simp)).begins (more.map Prod.fst) (']' :: rest)
      rw [← begun] at skipped
      generalize separated (second.1 :: more.map Prod.fst) = left at enough ih skipped ⊢
      have ends : EndsValue (',' :: ' ' :: (left ++ ']' :: rest)) := by simp [EndsValue]
      have read := spells.reads fuel _ (by omega) ends
      have later : scanItems .plain (fuel + 1) room (left ++ ']' :: rest) = _ :=
        ih (by simp) (fun item member => spelled item (by simp [member])) (by omega)
      have comma : skipSpace (',' :: ' ' :: (left ++ ']' :: rest)) =
          ',' :: ' ' :: (left ++ ']' :: rest) := rfl
      rw [scanItems]
      simp only [List.append_assoc, List.cons_append, read, bind, Except.bind, comma, skipped,
        later]

private theorem member_eq (name : String) (value : List Char) :
    member name value =
      '"' :: (name.toList.flatMap escapeChar ++ '"' :: ':' :: ' ' :: value) := by
  simp [member, writeText, quote]

private theorem member_begins (name : String) (value : List Char) :
    ∃ c more, member name value = c :: more ∧ BeginsValue c :=
  ⟨'"', _, member_eq name value, by decide⟩

private theorem scanMembers_spelled {members : List (String × List Char × Json)}
    (filled : members ≠ []) (spelled : ∀ m ∈ members, Spells room m.2.1 m.2.2)
    (enough : 2 * (separated (members.map fun m => member m.1 m.2.1)).length + 1 ≤ fuel) :
    scanMembers .plain fuel room
        (separated (members.map fun m => member m.1 m.2.1) ++ '\x7d' :: rest) =
      .ok (members.map fun m => (m.1, m.2.2), rest) := by
  induction members generalizing fuel with
  | nil => exact absurd rfl filled
  | cons first members ih =>
    have spells := spelled first (by simp)
    have value (rest : List Char) : skipSpace (' ' :: (first.2.1 ++ rest)) = first.2.1 ++ rest :=
      spells.skipSpace rest
    have colon (rest : List Char) : skipSpace (':' :: rest) = ':' :: rest := rfl
    have long : first.2.1.length + 4 ≤ (member first.1 first.2.1).length := by
      simp [member_eq]
    cases members with
    | nil =>
      simp only [List.map_cons, List.map_nil, separated_singleton] at enough ⊢
      obtain ⟨fuel, rfl⟩ : ∃ left, fuel = left + 2 := ⟨fuel - 2, by omega⟩
      have ends : EndsValue ('\x7d' :: rest) := by simp [EndsValue]
      have read := spells.reads fuel _ (by omega) ends
      simp only [member_eq, List.cons_append, List.append_assoc]
      rw [scanMembers]
      simp only [scanString_written, bind, Except.bind, colon, value, read]
      rfl
    | cons second more =>
      simp only [List.map_cons, separated_cons, List.length_append, List.length_cons] at enough ih ⊢
      obtain ⟨fuel, rfl⟩ : ∃ left, fuel = left + 2 := ⟨fuel - 2, by omega⟩
      obtain ⟨c, tail, begun, -, skipped⟩ := skipSpace_separated
        (member_begins second.1 second.2.1) (more.map fun m => member m.1 m.2.1) ('\x7d' :: rest)
      rw [← begun] at skipped
      generalize separated (member second.1 second.2.1 :: more.map fun m => member m.1 m.2.1) = left
        at enough ih skipped ⊢
      have ends : EndsValue (',' :: ' ' :: (left ++ '\x7d' :: rest)) := by simp [EndsValue]
      have read := spells.reads fuel _ (by omega) ends
      have later : scanMembers .plain (fuel + 1) room (left ++ '\x7d' :: rest) = _ :=
        ih (by simp) (fun m member => spelled m (by simp [member])) (by omega)
      have comma : skipSpace (',' :: ' ' :: (left ++ '\x7d' :: rest)) =
          ',' :: ' ' :: (left ++ '\x7d' :: rest) := rfl
      simp only [member_eq, List.cons_append, List.append_assoc]
      rw [scanMembers]
      simp only [scanString_written, bind, Except.bind, colon, value, read, comma, skipped, later]

/-- An array of items that are spelled, with one bracket more. -/
theorem spells_array {items : List (List Char × Json)}
    (spelled : ∀ item ∈ items, Spells room item.1 item.2) :
    Spells (room + 1) (inBrackets (items.map Prod.fst)) (.array (items.map Prod.snd)) where
  begins := ⟨'[', _, rfl, by decide⟩
  reads fuel rest enough ends := by
    simp only [inBrackets, List.length_cons, List.length_append, List.length_nil] at enough
    simp only [inBrackets, List.cons_append, List.append_assoc, List.nil_append]
    cases items with
    | nil =>
      rfl
    | cons first more =>
      have read : scanItems .plain fuel room
          (separated ((first :: more).map Prod.fst) ++ ']' :: rest) = _ :=
        scanItems_spelled (by simp) spelled (by omega)
      obtain ⟨c, tail, begun, begins, -⟩ := skipSpace_separated
        (spelled first (by simp)).begins (more.map Prod.fst) (']' :: rest)
      simp only [List.map_cons] at begun read ⊢
      rw [begun] at read ⊢
      rw [scanValue, skipSpace_begins begins]
      split
      · next closed =>
        cases closed
        exact absurd begins (by decide)
      · next open_ =>
        simp [enter, read, bind, Except.bind]

/-- An object of members whose values are spelled, with one bracket more. -/
theorem spells_object {members : List (String × List Char × Json)}
    (spelled : ∀ m ∈ members, Spells room m.2.1 m.2.2) :
    Spells (room + 1) (inBraces (members.map fun m => member m.1 m.2.1))
      (ofMembers (members.map fun m => (m.1, m.2.2))) where
  begins := ⟨'\x7b', _, rfl, by decide⟩
  reads fuel rest enough ends := by
    simp only [inBraces, List.length_cons, List.length_append, List.length_nil] at enough
    simp only [inBraces, List.cons_append, List.append_assoc, List.nil_append]
    cases members with
    | nil =>
      rfl
    | cons first more =>
      have read : scanMembers .plain fuel room
          (separated ((first :: more).map fun m => member m.1 m.2.1) ++ '\x7d' :: rest) = _ :=
        scanMembers_spelled (by simp) spelled (by omega)
      obtain ⟨c, tail, begun, begins, -⟩ := skipSpace_separated
        (member_begins first.1 first.2.1) (more.map fun m => member m.1 m.2.1) ('\x7d' :: rest)
      simp only [List.map_cons] at begun read ⊢
      rw [begun] at read ⊢
      rw [scanValue, skipSpace_begins begins]
      split
      · next closed =>
        cases closed
        exact absurd begins (by decide)
      · next open_ =>
        simp [enter, read, bind, Except.bind]

end ClaimCheck.Json
