import ClaimCheck.Text.Form

/-!
Forms are read back. Neither of the marks between names and values is left inside them, and every
byte is read from what it is written as; so a form is decoded to the pairs that were encoded, and is
the text of one list of pairs only.
-/
namespace ClaimCheck.Text.Form

/-- The bytes that a text stands for: a plus sign for a space, a percent sign and two digits for the
byte of this value, and any other character for its own bytes. -/
def decodeBytes : List Char → Option Bytes
  | [] => some []
  | '+' :: rest => (decodeBytes rest).map (0x20 :: ·)
  | '%' :: high :: low :: rest => do
    let high ← hexValue? high
    let low ← hexValue? low
    (decodeBytes rest).map (UInt8.ofNat (16 * high + low) :: ·)
  | '%' :: _ => none
  | c :: rest => (decodeBytes rest).map (Utf8.encodeChar c ++ ·)

def decodeText (text : List Char) : Option String :=
  (decodeBytes text).bind fun bytes => (Utf8.decode bytes).toOption

/-- A name goes up to the first mark, and its value is all that comes after. -/
def decodePair (text : List Char) : Option (String × String) := do
  let name ← decodeText (text.takeWhile (· != '='))
  let value ← decodeText (text.dropWhile (· != '=')).tail
  return (name, value)

/-- The pairs of a form, one for each text between two marks. A form without text has none. -/
def decode (form : String) : Option (List (String × String)) :=
  ((form.toList.splitOn '&').filter (· ≠ [])).mapM decodePair

private theorem hexValue?_upperDigit : ∀ n < 16, hexValue? (upperDigit n) = some n := by
  decide

private theorem plain_byte {b : UInt8} (plain : isPlain b = true) :
    Utf8.encodeChar (Char.ofNat b.toNat) = [b] ∧ Char.ofNat b.toNat ≠ '+' ∧
      Char.ofNat b.toNat ≠ '%' ∧ Char.ofNat b.toNat ≠ '&' ∧ Char.ofNat b.toNat ≠ '=' := by
  have all : ∀ n < 256, isPlain (UInt8.ofNat n) = true →
      Utf8.encodeChar (Char.ofNat n) = [UInt8.ofNat n] ∧ Char.ofNat n ≠ '+' ∧
        Char.ofNat n ≠ '%' ∧ Char.ofNat n ≠ '&' ∧ Char.ofNat n ≠ '=' := by
    decide +kernel
  have own : UInt8.ofNat b.toNat = b := UInt8.ofNat_toNat
  simpa only [own] using all b.toNat b.toNat_lt (by rwa [own])

private theorem decodeBytes_encodeByte (b : UInt8) (rest : List Char) :
    decodeBytes (encodeByte b ++ rest) = (decodeBytes rest).map (b :: ·) := by
  unfold encodeByte
  split
  · next plain =>
    obtain ⟨own, notPlus, notPercent, -, -⟩ := plain_byte plain
    rw [List.singleton_append, decodeBytes, own]
    · rfl
    · exact notPlus
    · exact fun _ _ _ same _ => notPercent same
    · exact fun same => notPercent same
  · split
    · next space =>
      rw [beq_iff_eq.mp space]
      rfl
    · have high := hexValue?_upperDigit (b.toNat / 16) (by have := b.toNat_lt; omega)
      have low := hexValue?_upperDigit (b.toNat % 16) (by omega)
      have whole : 16 * (b.toNat / 16) + b.toNat % 16 = b.toNat := by omega
      simp only [List.cons_append, List.nil_append, decodeBytes, high, low, whole,
        Option.bind_eq_bind, Option.bind_some, UInt8.ofNat_toNat]

private theorem decodeBytes_encodeBytes (bytes : Bytes) :
    decodeBytes (bytes.flatMap encodeByte) = some bytes := by
  induction bytes with
  | nil => rfl
  | cons b bytes ih => rw [List.flatMap_cons, decodeBytes_encodeByte, ih, Option.map_some]

private theorem decodeText_encodeText (text : String) :
    decodeText (encodeText text) = some text := by
  rw [decodeText, encodeText, decodeBytes_encodeBytes, Option.bind_some, Utf8.decode_encode]
  rfl

private theorem not_mark_of_mem {text : String} {c : Char} (member : c ∈ encodeText text) :
    c ≠ '&' ∧ c ≠ '=' := by
  obtain ⟨b, -, written⟩ := List.mem_flatMap.mp member
  have digits : ∀ n < 16, upperDigit n ≠ '&' ∧ upperDigit n ≠ '=' := by decide
  have small := b.toNat_lt
  unfold encodeByte at written
  split at written
  · next plain =>
    cases List.mem_singleton.mp written
    exact (plain_byte plain).2.2.2
  · split at written
    · cases List.mem_singleton.mp written
      decide
    · simp only [List.mem_cons, List.not_mem_nil, or_false] at written
      rcases written with rfl | rfl | rfl
      · decide
      · exact digits _ (by omega)
      · exact digits _ (by omega)

/-- A pair is split at the first mark between a name and its value. -/
theorem decodePair_encodePair (pair : String × String) :
    decodePair (encodePair pair) = some pair := by
  have inner : ∀ c ∈ encodeText pair.1, (c != '=') = true :=
    fun c member => bne_iff_ne.mpr (not_mark_of_mem member).2
  have name : (encodePair pair).takeWhile (· != '=') = encodeText pair.1 := by
    simp [encodePair, List.takeWhile_append_of_pos inner]
  have value : ((encodePair pair).dropWhile (· != '=')).tail = encodeText pair.2 := by
    simp [encodePair, List.dropWhile_append_of_pos inner]
  simp [decodePair, name, value, decodeText_encodeText]

private theorem amp_not_mem_encodePair (pair : String × String) : '&' ∉ encodePair pair := by
  intro inside
  simp only [encodePair, List.mem_append, List.mem_cons] at inside
  rcases inside with name | mark | value
  · exact (not_mark_of_mem name).1 rfl
  · cases mark
  · exact (not_mark_of_mem value).1 rfl

private theorem encodePair_ne_nil (pair : String × String) : encodePair pair ≠ [] := by
  simp [encodePair]

private theorem pieces_encode (pairs : List (String × String)) :
    ((encode pairs).toList.splitOn '&').filter (· ≠ []) = pairs.map encodePair := by
  rw [encode, String.toList_ofList]
  by_cases none : pairs = []
  · subst none
    rfl
  · have unmarked : ∀ text ∈ pairs.map encodePair, '&' ∉ text := by
      intro text member
      obtain ⟨pair, -, rfl⟩ := List.mem_map.mp member
      exact amp_not_mem_encodePair pair
    rw [List.splitOn_intercalate '&' unmarked (by simpa using none), List.filter_eq_self]
    intro text member
    obtain ⟨pair, -, rfl⟩ := List.mem_map.mp member
    exact decide_eq_true (encodePair_ne_nil pair)

/-- A form is decoded to the pairs that were encoded, in their order. -/
theorem decode_encode (pairs : List (String × String)) : decode (encode pairs) = some pairs := by
  rw [decode, pieces_encode]
  induction pairs with
  | nil => rfl
  | cons pair rest ih =>
    rw [List.map_cons, List.mapM_cons, decodePair_encodePair, ih]
    rfl

/-- A form is the text of one list of pairs only. -/
theorem encode_injective {left right : List (String × String)}
    (same : encode left = encode right) : left = right := by
  have read : decode (encode left) = decode (encode right) := congrArg decode same
  rw [decode_encode, decode_encode] at read
  exact Option.some.inj read

/-- Whether a text is a form that says a value under a name. -/
def Says (form name value : String) : Prop :=
  (∃ pairs, encode pairs = form) ∧
    ∀ pairs, encode pairs = form → pairs.lookup name = some value

theorem says_encode {pairs : List (String × String)} {name value : String}
    (found : pairs.lookup name = some value) : Says (encode pairs) name value :=
  ⟨⟨pairs, rfl⟩, fun _ same => encode_injective same ▸ found⟩

end ClaimCheck.Text.Form
