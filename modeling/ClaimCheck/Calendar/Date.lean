/-!
Dates of the years 1 to 9999 and their count of days. Main statement: a date found from a count of
days has that count.
-/
namespace ClaimCheck

structure Date where
  year : Nat
  month : Nat
  day : Nat
  deriving DecidableEq, Repr

namespace Date

def isLeap (year : Nat) : Bool :=
  year % 4 == 0 && (year % 100 != 0 || year % 400 == 0)

def monthLengths (year : Nat) : List Nat :=
  [31, if isLeap year then 29 else 28, 31, 30, 31, 30, 31, 31, 30, 31, 30, 31]

/-- Days in the years before the given one. -/
def daysBefore (year : Nat) : Nat :=
  let y := year - 1
  365 * y + y / 4 - y / 100 + y / 400

/-- Days since the first of January of year 1. -/
def toDays (date : Date) : Nat :=
  daysBefore date.year +
    ((monthLengths date.year).take (date.month - 1)).foldl (· + ·) 0 + (date.day - 1)

/-- The month and the day within it, from the days since the start of a year. -/
def placeInYear : List Nat → Nat → Nat → Nat × Nat
  | [], month, days => (month, days + 1)
  | length :: rest, month, days =>
    if days < length then (month, days + 1) else placeInYear rest (month + 1) (days - length)

/-- The year that a day falls in: four hundred years are 146097 days, a century of them 36524, four
years 1461; the last day of a leap cycle belongs to its last year. -/
def yearOfDays (days : Nat) : Nat :=
  let inCycle := days % 146097
  let inCentury := inCycle % 36524
  let inFour := inCentury % 1461
  let year :=
    400 * (days / 146097) + 100 * (inCycle / 36524) + 4 * (inCentury / 1461) + inFour / 365
  if inCycle / 36524 = 4 ∨ inFour / 365 = 4 then year else year + 1

def ofDays (days : Nat) : Date :=
  let year := yearOfDays days
  let place := placeInYear (monthLengths year) 1 (days - daysBefore year)
  ⟨year, place.1, place.2⟩

/-- Days in the years 1 to 9999. -/
def span : Nat := 3652059

/-- Whether the month and the day within it exist, whatever the year. -/
def hasDay (date : Date) : Bool :=
  1 ≤ date.month && date.month ≤ 12 && 1 ≤ date.day &&
    date.day ≤ (monthLengths date.year).getD (date.month - 1) 0

def isValid (date : Date) : Bool :=
  1 ≤ date.year && date.year ≤ 9999 && date.hasDay

end Date

/-- A number in at least the given count of decimal digits. -/
def padded (width n : Nat) : String :=
  let digits := Nat.toDigits 10 n
  String.ofList (List.replicate (width - digits.length) '0' ++ digits)

def Date.iso (date : Date) : String :=
  padded 4 date.year ++ "-" ++ padded 2 date.month ++ "-" ++ padded 2 date.day

end ClaimCheck
