import ClaimCheck.Calendar.Date
import ClaimCheck.Number.Decimal

/-!
Numbers as decimal digits. What was written in digits is read back, with or without zeros in front.
-/
namespace ClaimCheck.Decimal

theorem ofDigits_toDigits (n : Nat) : ofDigits (Nat.toDigits 10 n) = n :=
  Nat.ofDigitChars_ten_toDigits

private theorem ofDigits_zeros (count : Nat) (digits : List Char) :
    ofDigits (List.replicate count '0' ++ digits) = ofDigits digits := by
  induction count with
  | zero => rfl
  | succ count ih => simpa [ofDigits, List.replicate_succ] using ih

private theorem foldl_digits_lt {digits : List Char} (clean : ∀ c ∈ digits, c.isDigit = true)
    (start : Nat) :
    digits.foldl (fun n c => 10 * n + (c.toNat - 48)) start <
      (start + 1) * Nat.pow 10 digits.length := by
  induction digits generalizing start with
  | nil => simp
  | cons c digits ih =>
    have digit : c.toNat - 48 ≤ 9 := by
      have last : '9'.toNat = 57 := rfl
      have inRange := Char.isDigit_iff_toNat.mp (clean c (by simp))
      omega
    have later := ih (fun c member => clean c (by simp [member])) (10 * start + (c.toNat - 48))
    have room : 10 * start + (c.toNat - 48) + 1 ≤ (start + 1) * 10 := by omega
    calc (c :: digits).foldl (fun n c => 10 * n + (c.toNat - 48)) start
        < (10 * start + (c.toNat - 48) + 1) * Nat.pow 10 digits.length := later
      _ ≤ (start + 1) * 10 * Nat.pow 10 digits.length := Nat.mul_le_mul_right _ room
      _ = (start + 1) * (Nat.pow 10 digits.length * 10) := by
        rw [Nat.mul_assoc, Nat.mul_comm 10]

private theorem ofDigits_lt {digits : List Char} (clean : ∀ c ∈ digits, c.isDigit = true) :
    ofDigits digits < Nat.pow 10 digits.length := by
  have bound := foldl_digits_lt clean 0
  rwa [Nat.zero_add, Nat.one_mul] at bound

theorem isDigit_of_mem_toDigits {n : Nat} {c : Char} (member : c ∈ Nat.toDigits 10 n) :
    c.isDigit = true :=
  Nat.isDigit_of_mem_toDigits (by decide) (by decide) member

/-- The first digit of a number is no zero, unless it is the only one. -/
theorem toDigits_eq_cons {n : Nat} {digits : List Char} (zero : Nat.toDigits 10 n = '0' :: digits) :
    digits = [] := by
  cases digits with
  | nil => rfl
  | cons digit digits =>
    have clean : ∀ c ∈ digit :: digits, c.isDigit = true := fun c member =>
      isDigit_of_mem_toDigits (zero ▸ List.mem_cons_of_mem '0' member)
    have value : ofDigits (digit :: digits) = n := by
      rw [← ofDigits_toDigits n, zero]
      exact (ofDigits_zeros 1 _).symm
    have small := value ▸ ofDigits_lt clean
    have short := (Nat.length_toDigits_le_iff (b := 10) (by decide) (by simp)).mpr small
    rw [zero, List.length_cons] at short
    exact absurd short (Nat.not_succ_le_self _)

theorem toDigits_ne_nil (n : Nat) : Nat.toDigits 10 n ≠ [] := by
  intro none
  have value := ofDigits_toDigits n
  rw [none] at value
  subst value
  exact absurd none (by decide)

/-- Whether a text does not go on with a digit. -/
def EndsBefore (rest : List Char) : Prop :=
  ∀ c ∈ rest.head?, c.isDigit = false

theorem takeDigits_append {digits rest : List Char} (clean : ∀ c ∈ digits, c.isDigit = true)
    (ends : EndsBefore rest) : takeDigits (digits ++ rest) = (digits, rest) := by
  unfold takeDigits
  rw [List.takeWhile_append_of_pos clean, List.dropWhile_append_of_pos clean]
  cases rest with
  | nil => simp
  | cons c rest =>
    have other : c.isDigit = false := ends c rfl
    simp [other]

end ClaimCheck.Decimal

namespace ClaimCheck

variable {width n : Nat}

theorem isDigit_of_mem_padded {c : Char} (member : c ∈ (padded width n).toList) :
    c.isDigit = true := by
  simp only [padded, String.toList_ofList, List.mem_append] at member
  rcases member with zero | digit
  · rw [(List.mem_replicate.mp zero).2]
    decide
  · exact Decimal.isDigit_of_mem_toDigits digit

theorem length_padded (fits : n < Nat.pow 10 width) (wide : 0 < width) :
    (padded width n).toList.length = width := by
  have short := (Nat.length_toDigits_le_iff (b := 10) (by decide) wide).mpr fits
  simp only [padded, String.toList_ofList, List.length_append, List.length_replicate]
  omega

theorem ofDigits_padded (width n : Nat) : Decimal.ofDigits (padded width n).toList = n := by
  simp only [padded, String.toList_ofList, Decimal.ofDigits_zeros, Decimal.ofDigits_toDigits]

end ClaimCheck
