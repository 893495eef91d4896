import ClaimCheck.Identifier

/-!
Identifiers as suffixes: they are made of hexadecimal digits, and different numbers have different
texts, so a name that ends in one tells which it is.
-/
namespace ClaimCheck.IdSource

/-- The number that hexadecimal digits stand for. -/
def value (digits : List Char) : Nat :=
  digits.foldl (fun read c => 16 * read + (hexValue? c).getD 0) 0

private theorem mem_toDigits {n : Nat} {c : Char} (member : c ∈ Nat.toDigits 16 n) :
    ∃ digit < 16, c = digit.digitChar := by
  induction n using Nat.strongRecOn with
  | ind n ih =>
    rw [Nat.toDigits_eq_if (by decide)] at member
    split at member
    · rename_i small
      exact ⟨n, small, by simpa using member⟩
    · rename_i large
      rcases List.mem_append.mp member with front | last
      · exact ih (n / 16) (by omega) front
      · exact ⟨n % 16, by omega, by simpa using last⟩

private theorem hexValue?_digitChar : ∀ digit < 16, hexValue? digit.digitChar = some digit := by
  decide

private theorem digitChar_ne : ∀ digit < 16, digit.digitChar ≠ '/' := by
  decide

private theorem value_toDigits (n : Nat) : value (Nat.toDigits 16 n) = n := by
  induction n using Nat.strongRecOn with
  | ind n ih =>
    rw [Nat.toDigits_eq_if (by decide)]
    split
    · rename_i small
      simp [value, hexValue?_digitChar n small]
    · rename_i large
      have front := ih (n / 16) (by omega)
      simp only [value] at front
      simp only [value, List.foldl_append, front, List.foldl_cons, List.foldl_nil,
        hexValue?_digitChar (n % 16) (by omega), Option.getD_some]
      omega

private theorem value_zeros (count : Nat) (digits : List Char) :
    value (List.replicate count '0' ++ digits) = value digits := by
  induction count with
  | zero => simp
  | succ count ih =>
    have zero : hexValue? '0' = some 0 := by decide
    simpa [value, List.replicate_succ, zero] using ih

/-- Different numbers have different texts. -/
theorem text_injective {width m n : Nat} (same : text width m = text width n) : m = n := by
  have digits := congrArg (fun text => value text.toList) same
  simpa [text, value_zeros, value_toDigits] using digits

theorem mem_text {width n : Nat} {c : Char} (member : c ∈ (text width n).toList) :
    ∃ digit < 16, c = digit.digitChar := by
  simp only [text, String.toList_ofList, List.mem_append] at member
  rcases member with zero | digit
  · exact ⟨0, by decide, (List.mem_replicate.mp zero).2⟩
  · exact mem_toDigits digit

theorem text_ne_nil (width n : Nat) : (text width n).toList ≠ [] := by
  simp [text, Nat.toDigits_ne_nil]

private theorem separator_not_mem_text (width n : Nat) : '/' ∉ (text width n).toList := by
  intro member
  obtain ⟨digit, small, same⟩ := mem_text member
  exact digitChar_ne digit small same.symm

private theorem suffix_of_join {front back other tail : List Char} (clean : '/' ∉ back)
    (otherClean : '/' ∉ tail) (same : front ++ '/' :: back = other ++ '/' :: tail) :
    back = tail := by
  have cut (front : List Char) {back : List Char} (clean : '/' ∉ back) :
      (front ++ '/' :: back).reverse.takeWhile (· != '/') = back.reverse := by
    rw [List.reverse_append, List.reverse_cons, List.append_assoc, List.takeWhile_append_of_pos]
    · simp
    · intro c member
      simp only [bne_iff_ne, ne_eq]
      rintro rfl
      exact clean (List.mem_reverse.mp member)
  have reversed := cut front clean
  rw [same, cut other otherClean] at reversed
  exact (List.reverse_inj.mp reversed).symm

/-- A name that ends in an identifier tells which one it is. -/
theorem eq_of_join {front other : String} {width m n : Nat}
    (same : front ++ "/" ++ text width m = other ++ "/" ++ text width n) : m = n := by
  have chars := congrArg String.toList same
  simp only [String.toList_append, List.append_assoc] at chars
  have suffix := suffix_of_join (separator_not_mem_text width m) (separator_not_mem_text width n)
    chars
  exact text_injective (String.toList_injective suffix)

end ClaimCheck.IdSource
