import ClaimCheck.Calendar.Moment
import Mathlib.Algebra.GroupWithZero.Nat

/-!
The calendar as a count. Every day of the years 1 to 9999 has one date, and every date counts one
day: going from one to the other and back changes nothing.
-/
namespace ClaimCheck

namespace Date

variable {year : Nat} {days : Nat} {date : Date}

def yearLength (year : Nat) : Nat :=
  if isLeap year then 366 else 365

private theorem sum_monthLengths (year : Nat) : (monthLengths year).sum = yearLength year := by
  unfold monthLengths yearLength
  cases isLeap year <;> rfl

private theorem daysBefore_place {cycle century four year : Nat} (inCycle : century < 4)
    (inCentury : four < 25) (inFour : year < 4) :
    daysBefore (400 * cycle + 100 * century + 4 * four + year + 1) =
      146097 * cycle + 36524 * century + 1461 * four + 365 * year := by
  have fours : (400 * cycle + 100 * century + 4 * four + year) / 4 =
      100 * cycle + 25 * century + four := by omega
  have centuries : (400 * cycle + 100 * century + 4 * four + year) / 100 = 4 * cycle + century := by
    omega
  have cycles : (400 * cycle + 100 * century + 4 * four + year) / 400 = cycle := by omega
  simp only [daysBefore, Nat.add_sub_cancel, fours, centuries, cycles]
  omega

private theorem yearLength_place {cycle century four year : Nat} (inCycle : century < 4)
    (inCentury : four < 25) (inFour : year < 4) :
    yearLength (400 * cycle + 100 * century + 4 * four + year + 1) =
      if year = 3 ∧ (four ≠ 24 ∨ century = 3) then 366 else 365 := by
  simp only [yearLength, isLeap, Bool.and_eq_true, Bool.or_eq_true, beq_iff_eq, bne_iff_ne, ne_eq]
  apply ite_congr _ (fun _ => rfl) (fun _ => rfl)
  apply propext
  omega

private theorem exists_place (positive : 1 ≤ year) :
    ∃ cycle century four ofFour, century < 4 ∧ four < 25 ∧ ofFour < 4 ∧
      year = 400 * cycle + 100 * century + 4 * four + ofFour + 1 :=
  ⟨(year - 1) / 400, (year - 1) % 400 / 100, (year - 1) % 100 / 4, (year - 1) % 4, by omega,
    by omega, by omega, by omega⟩

private theorem daysBefore_succ (positive : 1 ≤ year) :
    daysBefore (year + 1) = daysBefore year + yearLength year := by
  obtain ⟨cycle, century, four, ofFour, inCycle, inCentury, inFour, rfl⟩ := exists_place positive
  rw [daysBefore_place inCycle inCentury inFour, yearLength_place inCycle inCentury inFour]
  simp only [daysBefore, Nat.add_sub_cancel]
  split <;> omega

private theorem daysBefore_mono {earlier later : Nat} (ordered : earlier ≤ later) :
    daysBefore earlier ≤ daysBefore later := by
  have fours := Nat.div_le_div_right (c := 4) (Nat.sub_le_sub_right ordered 1)
  have cycles := Nat.div_le_div_right (c := 400) (Nat.sub_le_sub_right ordered 1)
  have centuries : (later - 1) / 100 ≤ (earlier - 1) / 100 + (later - earlier) := by omega
  simp only [daysBefore]
  omega

private theorem yearOfDays_bounds (days : Nat) :
    1 ≤ yearOfDays days ∧ daysBefore (yearOfDays days) ≤ days ∧
      days < daysBefore (yearOfDays days) + yearLength (yearOfDays days) := by
  obtain ⟨cycle, century, four, ofFour, inCycle, inCentury, inFour, place, begins, ends⟩ :
      ∃ cycle century four ofFour, century < 4 ∧ four < 25 ∧ ofFour < 4 ∧
        yearOfDays days = 400 * cycle + 100 * century + 4 * four + ofFour + 1 ∧
        146097 * cycle + 36524 * century + 1461 * four + 365 * ofFour ≤ days ∧
        days < 146097 * cycle + 36524 * century + 1461 * four + 365 * ofFour +
          if ofFour = 3 ∧ (four ≠ 24 ∨ century = 3) then 366 else 365 := by
    simp only [yearOfDays]
    -- The last day of a cycle of four years or centuries would begin a fifth one.
    by_cases lastCentury : days % 146097 / 36524 = 4
    · refine ⟨days / 146097, 3, 24, 3, by omega, by omega, by omega, ?_, by omega, ?_⟩
      · simp only [lastCentury, true_or, if_true]
        omega
      · simp only [and_self, or_true, if_true]
        omega
    · by_cases lastYear : days % 146097 % 36524 % 1461 / 365 = 4
      · refine ⟨days / 146097, days % 146097 / 36524, days % 146097 % 36524 / 1461, 3, by omega,
          by omega, by omega, ?_, by omega, ?_⟩
        · simp only [lastYear, or_true, if_true]
        · split <;> omega
      · refine ⟨days / 146097, days % 146097 / 36524, days % 146097 % 36524 / 1461,
          days % 146097 % 36524 % 1461 / 365, by omega, by omega, by omega, ?_, by omega, ?_⟩
        · simp only [lastCentury, lastYear, or_self, if_false]
        · split <;> omega
  rw [place, daysBefore_place inCycle inCentury inFour, yearLength_place inCycle inCentury inFour]
  omega

private theorem yearOfDays_unique (positive : 1 ≤ year) (begun : daysBefore year ≤ days)
    (ongoing : days < daysBefore year + yearLength year) : yearOfDays days = year := by
  obtain ⟨least, begins, ends⟩ := yearOfDays_bounds days
  rw [← daysBefore_succ positive] at ongoing
  rw [← daysBefore_succ least] at ends
  rcases Nat.lt_trichotomy (yearOfDays days) year with before | same | after
  · have := daysBefore_mono (show yearOfDays days + 1 ≤ year from before)
    omega
  · exact same
  · have := daysBefore_mono (show year + 1 ≤ yearOfDays days from after)
    omega

private theorem placeInYear_of_take {lengths : List Nat} {month passed day : Nat}
    (inMonth : day < lengths.getD passed 0) :
    placeInYear lengths month ((lengths.take passed).sum + day) = (month + passed, day + 1) := by
  induction lengths generalizing month passed with
  | nil => simp at inMonth
  | cons length rest ih =>
    cases passed with
    | zero =>
      have short : day < length := by simpa using inMonth
      simp [placeInYear, short]
    | succ passed =>
      have later : placeInYear rest (month + 1) ((rest.take passed).sum + day) =
          (month + 1 + passed, day + 1) := ih (by simpa using inMonth)
      have long : ¬ length + (rest.take passed).sum + day < length := by omega
      have left : length + (rest.take passed).sum + day - length = (rest.take passed).sum + day := by
        omega
      simp only [placeInYear, List.take_succ_cons, List.sum_cons, long, if_false, left, later]
      simp only [Nat.add_assoc, Nat.add_comm 1]

private theorem exists_month {lengths : List Nat} (inYear : days < lengths.sum) :
    ∃ passed day, day < lengths.getD passed 0 ∧ days = (lengths.take passed).sum + day := by
  induction lengths generalizing days with
  | nil => simp at inYear
  | cons length rest ih =>
    by_cases short : days < length
    · exact ⟨0, days, by simpa using short, by simp⟩
    · rw [List.sum_cons] at inYear
      have left : days - length < rest.sum := by omega
      obtain ⟨passed, day, inMonth, same⟩ := ih left
      refine ⟨passed + 1, day, by simpa using inMonth, ?_⟩
      rw [List.take_succ_cons, List.sum_cons]
      omega

private theorem sum_take_lt {lengths : List Nat} {passed day : Nat}
    (inMonth : day < lengths.getD passed 0) : (lengths.take passed).sum + day < lengths.sum := by
  induction lengths generalizing passed with
  | nil => simp at inMonth
  | cons length rest ih =>
    cases passed with
    | zero =>
      have short : day < length := by simpa using inMonth
      simp only [List.take_zero, List.sum_nil, List.sum_cons]
      omega
    | succ passed =>
      have later : (rest.take passed).sum + day < rest.sum := ih (by simpa using inMonth)
      simp only [List.take_succ_cons, List.sum_cons]
      omega

private theorem passed_lt_of_inMonth {passed day : Nat}
    (inMonth : day < (monthLengths year).getD passed 0) : passed < 12 := by
  apply Nat.lt_of_not_le
  intro late
  have long : (monthLengths year).length ≤ passed := late
  rw [List.getD_eq_getElem?_getD, List.getElem?_eq_none long] at inMonth
  exact absurd inMonth (Nat.not_lt_zero day)

theorem monthLength_le (year passed : Nat) : (monthLengths year).getD passed 0 ≤ 31 := by
  rw [List.getD_eq_getElem?_getD]
  cases found : (monthLengths year)[passed]? with
  | none => simp
  | some length =>
    have member := List.mem_of_getElem? found
    simp only [monthLengths, List.mem_cons, List.not_mem_nil, or_false] at member
    simp only [Option.getD_some]
    split at member <;> omega

private theorem toDays_eq (date : Date) :
    date.toDays =
      daysBefore date.year + ((monthLengths date.year).take (date.month - 1)).sum +
        (date.day - 1) := by
  unfold toDays
  rw [← List.sum_eq_foldl]

/-- The date of a day: its year, the month in which it lies, and the day of that month. -/
theorem ofDays_eq (days : Nat) :
    ∃ passed day, day < (monthLengths (yearOfDays days)).getD passed 0 ∧
      days = daysBefore (yearOfDays days) +
        ((monthLengths (yearOfDays days)).take passed).sum + day ∧
      ofDays days = ⟨yearOfDays days, 1 + passed, day + 1⟩ := by
  obtain ⟨-, begins, ends⟩ := yearOfDays_bounds days
  have inYear : days - daysBefore (yearOfDays days) < (monthLengths (yearOfDays days)).sum := by
    rw [sum_monthLengths]
    omega
  obtain ⟨passed, day, inMonth, left⟩ := exists_month inYear
  refine ⟨passed, day, inMonth, by omega, ?_⟩
  simp only [ofDays, left, placeInYear_of_take inMonth]

theorem toDays_ofDays (days : Nat) : (ofDays days).toDays = days := by
  obtain ⟨passed, day, -, count, placed⟩ := ofDays_eq days
  rw [placed, toDays_eq]
  simp only [Nat.add_sub_cancel_left, Nat.add_sub_cancel]
  exact count.symm

private theorem hasDay_ofDays (days : Nat) : (ofDays days).hasDay = true := by
  obtain ⟨passed, day, inMonth, -, placed⟩ := ofDays_eq days
  have few : passed < 12 := passed_lt_of_inMonth inMonth
  simp only [placed, hasDay, Nat.add_sub_cancel_left, Bool.and_eq_true, decide_eq_true_eq]
  omega

/-- The days of the calendar are those of the years 1 to 9999. -/
theorem isValid_ofDays (inSpan : days < span) : (ofDays days).isValid = true := by
  obtain ⟨positive, begins, -⟩ := yearOfDays_bounds days
  have last : yearOfDays days ≤ 9999 := by
    apply Nat.le_of_not_lt
    intro late
    have begun : span ≤ daysBefore (yearOfDays days) :=
      daysBefore_mono (show 10000 ≤ yearOfDays days from late)
    omega
  have first : 1 ≤ (ofDays days).year := positive
  simp only [isValid, hasDay_ofDays, Bool.and_eq_true, decide_eq_true_eq, and_true]
  exact ⟨first, last⟩

/-- A date on the calendar is the date of its own day. -/
theorem ofDays_toDays (valid : date.isValid = true) : ofDays date.toDays = date := by
  obtain ⟨year, month, day⟩ := date
  simp only [isValid, hasDay, Bool.and_eq_true, decide_eq_true_eq] at valid
  obtain ⟨⟨positive, -⟩, ⟨⟨least, -⟩, first⟩, inMonth⟩ := valid
  have within : day - 1 < (monthLengths year).getD (month - 1) 0 := by omega
  have left := sum_take_lt within
  rw [sum_monthLengths] at left
  rw [toDays_eq]
  have ofYear : yearOfDays (daysBefore year + ((monthLengths year).take (month - 1)).sum +
      (day - 1)) = year :=
    yearOfDays_unique positive (by omega) (by omega)
  simp only [ofDays, ofYear]
  rw [Nat.add_assoc, Nat.add_sub_cancel_left, placeInYear_of_take within]
  simp only [Date.mk.injEq, true_and]
  omega

end Date
end ClaimCheck
