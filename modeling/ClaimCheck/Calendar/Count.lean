import ClaimCheck.Calendar.Moment
import ClaimCheck.Number.Decimal
import ClaimCheck.Number.Double

/-!
Moments as counts from the start of 1970 in UTC, whole or with a fraction. Small counts are of
seconds and large ones of milliseconds, and none reaches back beyond the year 1600.
-/
namespace ClaimCheck.Calendar

def millisecond : Nat := 1000

/-- A count whose size is larger than this is one of milliseconds. -/
def secondsLimit : Nat := 20000000000

def firstCounted : Date := ⟨1600, 1, 1⟩

def countStart : Date := ⟨1970, 1, 1⟩

end ClaimCheck.Calendar

namespace ClaimCheck.Moment

/-- The moment at a whole count, and some microseconds later. -/
def ofCount? (count : Int) (micros : Nat) : Option Moment :=
  let isLarge := Calendar.secondsLimit < count.natAbs
  let unit := if isLarge then Calendar.millisecond else Calendar.second
  let total := Calendar.countStart.toDays * Calendar.day + count * unit + micros
  let least := Calendar.firstCounted.toDays * Calendar.day
  if inRange : least ≤ total ∧ total.toNat < Calendar.span then
    some ⟨total.toNat, some 0, inRange.2⟩
  else none

/-- The whole units of a count, and the nearest number of the given parts of a unit above them. -/
def splitCount? (count : Double) (parts : Nat) : Option (Int × Nat) := do
  let whole ← count.floor?
  let above ← (← count.fraction?).times? parts
  some (whole, (← above.round?).toNat)

def isLargeCount (count : Double) : Bool :=
  count.quotient?.any fun q => Calendar.secondsLimit * q.2 < q.1.natAbs

/-- A number as a count: its fraction is one of the unit that its size calls for. -/
def ofDouble? (count : Double) : Option Moment := do
  let parts := if isLargeCount count then Calendar.millisecond else Calendar.second
  let (whole, micros) ← splitCount? count parts
  ofCount? whole micros

/-- A number as a count of seconds, once a large one has been divided. -/
def ofSeconds? (count : Double) : Option Moment := do
  let seconds ← if isLargeCount count then count.over? 1000 else some count
  let (whole, micros) ← splitCount? seconds Calendar.second
  ofCount? whole micros

/-- A count as text. One with a point is a decimal number, which may have an exponent; the digits
before its point stay within 64 bits. -/
def ofCountText? (chars : List Char) : Option Moment :=
  let (negative, body) := Decimal.takeSign chars
  let (whole, rest) := Decimal.takeDigits body
  match rest with
  | [] =>
    if whole.isEmpty then none else ofCount? (Decimal.signed negative (Decimal.ofDigits whole)) 0
  | '.' :: rest =>
    let (fraction, rest) := Decimal.takeDigits rest
    let (exponent, rest) := Decimal.takeExponent rest
    let digits := whole ++ fraction
    if digits.isEmpty || !rest.isEmpty || decide (Nat.pow 2 63 ≤ Decimal.ofDigits whole) then none
    else ofSeconds? (Double.ofDecimal negative (Decimal.ofDigits digits)
      (exponent.getD 0 - fraction.length))
  | _ => none

end ClaimCheck.Moment
