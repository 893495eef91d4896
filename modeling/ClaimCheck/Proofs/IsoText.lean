import ClaimCheck.Calendar.Reader
import ClaimCheck.Proofs.CalendarDays
import ClaimCheck.Proofs.DecimalText

/-!
Moments as text and back. What a moment writes of itself is read as the same moment, with the clock
that it shows and the offset that it has.
-/
namespace ClaimCheck

namespace Calendar

variable {width n micros : Nat} {marks rest : List Char}

private theorem takeNumber_padded (fits : n < 10 ^ width) (wide : 0 < width) (rest : List Char) :
    takeNumber width ((padded width n).toList ++ rest) = some (n, rest) := by
  have long := length_padded fits wide
  have digits : ((padded width n).toList.all Char.isDigit) = true :=
    List.all_eq_true.mpr fun _ member => isDigit_of_mem_padded member
  unfold takeNumber
  simp only [List.take_left' long, List.drop_left' long, ofDigits_padded, long, digits, and_self,
    if_true]

private theorem takeDate_iso {date : Date} (valid : date.isValid = true) (rest : List Char) :
    takeDate (date.iso.toList ++ rest) = some (date, rest) := by
  have inMonth : date.hasDay = true := by
    simp only [Date.isValid, Bool.and_eq_true] at valid
    exact valid.2
  have bounds := valid
  simp only [Date.isValid, Date.hasDay, Bool.and_eq_true, decide_eq_true_eq] at bounds
  have longest := Date.monthLength_le date.year (date.month - 1)
  have text : date.iso.toList ++ rest =
      (padded 4 date.year).toList ++ '-' :: ((padded 2 date.month).toList ++
        '-' :: ((padded 2 date.day).toList ++ rest)) := by
    simp [Date.iso]
  have year (rest) : takeNumber 4 ((padded 4 date.year).toList ++ rest) = some (date.year, rest) :=
    takeNumber_padded (by omega) (by decide) rest
  have month (rest) :
      takeNumber 2 ((padded 2 date.month).toList ++ rest) = some (date.month, rest) :=
    takeNumber_padded (by omega) (by decide) rest
  have day (rest) : takeNumber 2 ((padded 2 date.day).toList ++ rest) = some (date.day, rest) :=
    takeNumber_padded (by omega) (by decide) rest
  rw [text]
  simp [takeDate, takeAnyDate, year, month, day, takeChar, inMonth, valid]

/-- What may stand behind a time: nothing that would go on with it. -/
def FollowsTime (rest : List Char) : Prop :=
  ∀ c ∈ rest.head?, c.isDigit = false ∧ c ≠ '.' ∧ c ≠ ':'

/-- The fraction of a second as it is written: none if it is zero. -/
def fractionText (fraction : Nat) : List Char :=
  if fraction = 0 then [] else '.' :: (padded 6 fraction).toList

private theorem takeFraction_padded (fits : n < second) (follows : FollowsTime rest) :
    takeFraction ((padded 6 n).toList ++ rest) = some (n, rest) := by
  have long : (padded 6 n).toList.length = 6 := length_padded fits (by decide)
  have ends : Decimal.EndsBefore rest := fun c head => (follows c head).1
  have taken : Decimal.takeDigits ((padded 6 n).toList ++ rest) = ((padded 6 n).toList, rest) :=
    Decimal.takeDigits_append (fun _ member => isDigit_of_mem_padded member) ends
  have some : (padded 6 n).toList.isEmpty = false := by
    cases digits : (padded 6 n).toList with
    | nil => simp [digits] at long
    | cons => rfl
  simp only [takeFraction, taken, some, List.take_left' long, ofDigits_padded]
  rfl

private theorem takeSeconds_padded {seconds fraction : Nat} (whole : seconds < 60)
    (fits : fraction < second) (follows : FollowsTime rest) :
    takeSeconds ['.'] ((padded 2 seconds).toList ++ (fractionText fraction ++ rest)) =
      some (seconds * second + fraction, rest) := by
  have number (rest) : takeNumber 2 ((padded 2 seconds).toList ++ rest) = some (seconds, rest) :=
    takeNumber_padded (by omega) (by decide) rest
  have inMinute : ¬ 60 ≤ seconds := by omega
  unfold takeSeconds
  simp only [number, bind, Option.bind, inMinute, if_false, fractionText]
  by_cases none : fraction = 0
  · -- Without a fraction nothing is read as its mark.
    have unmarked : takeChar (['.'].contains ·) rest = Option.none := by
      cases rest with
      | nil => rfl
      | cons c more =>
        have other := (follows c rfl).2.1
        simp [takeChar, other]
    simp [none, unmarked]
  · have marked : takeChar (['.'].contains ·) ('.' :: ((padded 6 fraction).toList ++ rest)) =
        some ((padded 6 fraction).toList ++ rest) := rfl
    simp only [none, if_false, List.cons_append, marked, takeFraction_padded fits follows]

/-- Hours and minutes, with a colon between them. -/
def minutesText (hours minutes : Nat) : List Char :=
  (padded 2 hours).toList ++ ':' :: (padded 2 minutes).toList

private theorem takeClock_minutes {hours minutes : Nat} (inDay : hours < 24) (inHour : minutes < 60)
    (rest : List Char) :
    takeClock marks (minutesText hours minutes ++ ':' :: rest) =
        (takeSeconds marks rest).map (fun found =>
          (hours * hour + minutes * minute + found.1, found.2)) ∧
      takeClock marks (minutesText hours minutes) = some (hours * hour + minutes * minute, []) := by
  have hoursRead (rest) : takeNumber 2 ((padded 2 hours).toList ++ rest) = some (hours, rest) :=
    takeNumber_padded (by omega) (by decide) rest
  have minutesRead (rest) :
      takeNumber 2 ((padded 2 minutes).toList ++ rest) = some (minutes, rest) :=
    takeNumber_padded (by omega) (by decide) rest
  have minutesLast := minutesRead []
  rw [List.append_nil] at minutesLast
  have onClock : ¬ (24 ≤ hours ∨ 60 ≤ minutes) := by omega
  constructor
  · simp only [takeClock, minutesText, List.append_assoc, List.cons_append, hoursRead, takeChar,
      beq_self_eq_true, if_true, minutesRead, onClock, if_false, bind, Option.bind]
    cases takeSeconds marks rest <;> rfl
  · simp only [takeClock, minutesText, hoursRead, takeChar, beq_self_eq_true, if_true, minutesLast,
      onClock, if_false, bind, Option.bind]

private theorem isoTime_eq (micros : Nat) :
    (isoTime micros).toList =
      minutesText (micros / hour) (micros / minute % 60) ++
        ':' :: ((padded 2 (micros / second % 60)).toList ++ fractionText (micros % second)) := by
  simp only [isoTime, minutesText, fractionText]
  split <;> simp [*]

private theorem takeClock_isoTime (inDay : micros < day) (follows : FollowsTime rest) :
    takeClock ['.'] ((isoTime micros).toList ++ rest) = some (micros, rest) := by
  have hours : micros / hour < 24 := by
    simp only [day, hour, minute, second] at *
    omega
  have minutes : micros / minute % 60 < 60 := Nat.mod_lt _ (by decide)
  have seconds : micros / second % 60 < 60 := Nat.mod_lt _ (by decide)
  have fraction : micros % second < second := Nat.mod_lt _ (by decide)
  rw [isoTime_eq, List.append_assoc, List.cons_append, (takeClock_minutes hours minutes _).1,
    List.append_assoc, takeSeconds_padded seconds fraction follows]
  simp only [Option.map_some, Option.some.injEq, Prod.mk.injEq, and_true]
  simp only [hour, minute, second]
  omega

/-- Offsets that are read as they are written: less than a day, and not less than a second unless
they are nothing. -/
def IsReadable (offset : Int) : Prop :=
  offset.natAbs < day ∧ (offset = 0 ∨ second ≤ offset.natAbs)

instance (offset : Int) : Decidable (IsReadable offset) :=
  inferInstanceAs (Decidable (offset.natAbs < day ∧ (offset = 0 ∨ second ≤ offset.natAbs)))

/-- The seconds of an offset as they are written: none if they are zero. -/
def secondsText (size : Nat) : List Char :=
  if size % minute = 0 then []
  else ':' :: ((padded 2 (size / second % 60)).toList ++ fractionText (size % second))

private theorem isoOffset_eq (offset : Int) :
    (isoOffset offset).toList =
      (if offset < 0 then '-' else '+') ::
        (minutesText (offset.natAbs / hour) (offset.natAbs / minute % 60) ++
          secondsText offset.natAbs) := by
  simp only [isoOffset, minutesText, secondsText, fractionText]
  split <;> split <;> (try split) <;> simp [*]

private theorem takeClock_offset {size : Nat} (inDay : size < day) :
    takeClock ['.'] (minutesText (size / hour) (size / minute % 60) ++ secondsText size) =
      some (size, []) := by
  have hours : size / hour < 24 := by
    simp only [day, hour, minute, second] at *
    omega
  have minutes : size / minute % 60 < 60 := Nat.mod_lt _ (by decide)
  have seconds : size / second % 60 < 60 := Nat.mod_lt _ (by decide)
  have fraction : size % second < second := Nat.mod_lt _ (by decide)
  have ended : FollowsTime [] := nofun
  have read := takeSeconds_padded seconds fraction ended
  rw [List.append_nil] at read
  by_cases whole : size % minute = 0
  · simp only [secondsText, whole, if_true, List.append_nil, (takeClock_minutes hours minutes []).2,
      Option.some.injEq, Prod.mk.injEq, and_true]
    simp only [hour, minute, second] at *
    omega
  · simp only [secondsText, whole, if_false, (takeClock_minutes hours minutes _).1, read,
      Option.map_some, Option.some.injEq, Prod.mk.injEq, and_true]
    simp only [hour, minute, second] at *
    omega

private theorem settledOffset_natAbs {offset : Int} (long : offset = 0 ∨ second ≤ offset.natAbs) :
    settledOffset (decide (offset < 0)) offset.natAbs = offset := by
  unfold settledOffset
  split
  · next short => omega
  · by_cases behind : offset < 0
    · simp only [behind, decide_true, if_true]
      omega
    · simp only [behind, decide_false, Bool.false_eq_true, if_false]
      omega

private theorem readOffset_isoOffset {offset : Int} (readable : IsReadable offset) :
    readOffset (isoOffset offset).toList = some (some offset) := by
  obtain ⟨inDay, long⟩ := readable
  have settled := settledOffset_natAbs long
  rw [isoOffset_eq]
  by_cases behind : offset < 0
  · simp only [behind, decide_true] at settled
    simp [readOffset, behind, takeClock_offset inDay, settled]
  · simp only [behind, decide_false] at settled
    simp [readOffset, behind, takeClock_offset inDay, settled]

private theorem followsTime_isoOffset (offset : Option Int) :
    FollowsTime ((offset.map isoOffset).getD "").toList := by
  cases offset with
  | none => exact nofun
  | some offset =>
    intro c head
    simp only [Option.map_some, Option.getD_some, isoOffset_eq, List.head?_cons,
      Option.mem_some_iff] at head
    subst head
    split <;> decide

end Calendar

namespace Moment

open Calendar

/-- The day that a moment's clock shows, and the time on it. -/
def date (moment : Moment) : Date :=
  .ofDays (moment.micros / day)

def time (moment : Moment) : Nat :=
  moment.micros % day

theorem isValid_date (moment : Moment) : moment.date.isValid = true := by
  have inRange := moment.inRange
  exact Date.isValid_ofDays (Nat.div_lt_of_lt_mul (by rwa [Nat.mul_comm]))

theorem time_lt (moment : Moment) : moment.time < day :=
  Nat.mod_lt _ (by decide)

/-- A moment is what its clock shows, with its offset. -/
theorem ofParts?_parts (moment : Moment) :
    ofParts? moment.date moment.time moment.offset = some moment := by
  have total : moment.date.toDays * day + moment.time = moment.micros := by
    rw [date, Date.toDays_ofDays]
    exact Nat.div_add_mod' moment.micros day
  unfold ofParts?
  have inRange : moment.date.toDays * day + moment.time < span := total ▸ moment.inRange
  rw [dif_pos inRange]
  congr

private theorem iso_eq (moment : Moment) :
    moment.iso.toList =
      moment.date.iso.toList ++ 'T' :: ((isoTime moment.time).toList ++
        ((moment.offset.map isoOffset).getD "").toList) := by
  have mark : "T".toList = ['T'] := rfl
  simp only [Moment.iso, isoLocal, date, time, String.toList_append, List.append_assoc, mark,
    List.cons_append, List.nil_append]

private theorem readOffset_own (moment : Moment)
    (readable : ∀ offset ∈ moment.offset, IsReadable offset) :
    readOffset ((moment.offset.map isoOffset).getD "").toList = some moment.offset := by
  cases own : moment.offset with
  | none => rfl
  | some offset => exact readOffset_isoOffset (readable offset own)

private theorem ofIso?_of_parts {text : String} {date : Date} {micros : Nat} {offset : Option Int}
    {rest left : List Char} (dateRead : takeDate text.toList = some (date, 'T' :: rest))
    (timeRead : takeClock ['.'] rest = some (micros, left))
    (offsetRead : readOffset left = some offset) : ofIso? text = ofParts? date micros offset := by
  have marked : takeChar (· == 'T') ('T' :: rest) = some rest := rfl
  unfold ofIso?
  rw [dateRead, Option.bind_eq_bind, Option.bind_some]
  dsimp only
  rw [marked, Option.bind_eq_bind, Option.bind_some, timeRead, Option.bind_eq_bind,
    Option.bind_some]
  dsimp only
  rw [offsetRead, Option.bind_eq_bind, Option.bind_some]

/-- What a moment writes of itself is read as that moment. -/
theorem ofIso?_iso (moment : Moment) (readable : ∀ offset ∈ moment.offset, IsReadable offset) :
    ofIso? moment.iso = some moment := by
  have dateRead := takeDate_iso moment.isValid_date
    ('T' :: ((isoTime moment.time).toList ++ ((moment.offset.map isoOffset).getD "").toList))
  rw [← iso_eq] at dateRead
  have timeRead := takeClock_isoTime moment.time_lt (followsTime_isoOffset moment.offset)
  rw [ofIso?_of_parts dateRead timeRead (readOffset_own moment readable)]
  exact ofParts?_parts moment

end Moment
end ClaimCheck
