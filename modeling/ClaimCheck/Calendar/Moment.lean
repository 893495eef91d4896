import ClaimCheck.Calendar.Date

/-!
Moments on a wall clock, with or without an offset from UTC, and the instants that they denote. All
are counted in microseconds, and every instant lies in the years 1 to 9999.
-/
namespace ClaimCheck

/-- Microseconds in a second, an hour and a day. -/
def Calendar.second : Nat := 1000000
def Calendar.minute : Nat := 60 * Calendar.second
def Calendar.hour : Nat := 60 * Calendar.minute
def Calendar.day : Nat := 24 * Calendar.hour

/-- Microseconds from the start of year 1 to the end of year 9999. -/
def Calendar.span : Nat := Date.span * Calendar.day

/-- A point in time: microseconds since the start of year 1 in UTC. -/
structure Instant where
  micros : Nat
  inRange : micros < Calendar.span

instance : DecidableEq Instant := fun left right =>
  if same : left.micros = right.micros then
    .isTrue (by cases left; cases right; simp_all)
  else .isFalse (fun eq => same (congrArg Instant.micros eq))

/-- What a wall clock shows, as microseconds since the start of year 1, and how far it is ahead of
UTC; without an offset the clock counts as one in UTC. -/
structure Moment where
  micros : Nat
  offset : Option Int
  inRange : micros < Calendar.span

instance : DecidableEq Moment := fun left right =>
  if same : left.micros = right.micros ∧ left.offset = right.offset then
    .isTrue (by cases left; cases right; simp_all)
  else .isFalse (by rintro rfl; exact same ⟨rfl, rfl⟩)

/-- The instant that a moment denotes, unless it lies outside the years 1 to 9999. -/
def Moment.instant? (moment : Moment) : Option Instant :=
  let utc : Int := moment.micros - moment.offset.getD 0
  if inRange : 0 ≤ utc ∧ utc.toNat < Calendar.span then some ⟨utc.toNat, inRange.2⟩ else none

/-- The same point in time on a clock in UTC. -/
def Instant.moment (instant : Instant) : Moment :=
  ⟨instant.micros, some 0, instant.inRange⟩

theorem Instant.instant?_moment (instant : Instant) : instant.moment.instant? = some instant := by
  obtain ⟨micros, inRange⟩ := instant
  simp [Moment.instant?, Instant.moment, inRange]

/-- Whether one instant is not later than another. -/
def Instant.notAfter (left right : Instant) : Bool :=
  left.micros ≤ right.micros

/-- The time of a day as `HH:MM:SS`, with six more digits if it does not fall on a whole second. -/
def Calendar.isoTime (micros : Nat) : String :=
  let fraction := micros % Calendar.second
  padded 2 (micros / Calendar.hour) ++ ":" ++ padded 2 (micros / Calendar.minute % 60) ++ ":" ++
    padded 2 (micros / Calendar.second % 60) ++
    if fraction = 0 then "" else "." ++ padded 6 fraction

/-- An offset as a sign, hours and minutes; seconds and their fraction only if they are not zero. -/
def Calendar.isoOffset (offset : Int) : String :=
  let size := offset.natAbs
  (if offset < 0 then "-" else "+") ++
    padded 2 (size / Calendar.hour) ++ ":" ++ padded 2 (size / Calendar.minute % 60) ++
    if size % Calendar.minute = 0 then ""
    else ":" ++ padded 2 (size / Calendar.second % 60) ++
      if size % Calendar.second = 0 then "" else "." ++ padded 6 (size % Calendar.second)

/-- A day and the time on it, without an offset. -/
def Calendar.isoLocal (micros : Nat) : String :=
  (Date.ofDays (micros / Calendar.day)).iso ++ "T" ++ Calendar.isoTime (micros % Calendar.day)

def Moment.iso (moment : Moment) : String :=
  Calendar.isoLocal moment.micros ++ (moment.offset.map Calendar.isoOffset).getD ""

def Instant.iso (instant : Instant) : String :=
  instant.moment.iso

/-- As `iso`, but a clock in UTC is marked `Z` and an offset shows hours and minutes only, those of
the whole second at or below it. -/
def Moment.isoZulu (moment : Moment) : String :=
  Calendar.isoLocal moment.micros ++
    match moment.offset.map (· / (Calendar.second : Int)) with
    | none => ""
    | some 0 => "Z"
    | some seconds => String.ofList ((Calendar.isoOffset (seconds * Calendar.second)).toList.take 6)

/-- A time of day, with or without an offset from UTC. -/
structure ClockTime where
  micros : Nat
  offset : Option Int
  deriving DecidableEq, Repr

def ClockTime.iso (time : ClockTime) : String :=
  Calendar.isoTime time.micros ++ (time.offset.map Calendar.isoOffset).getD ""

end ClaimCheck
