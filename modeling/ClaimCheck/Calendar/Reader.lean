import ClaimCheck.Calendar.Count

/-!
Reading dates, times of day and moments from text. `Moment.ofIso?` reads what `Moment.iso` writes;
`Moment.ofText` is the lenient reader for fields that people fill in.
-/
namespace ClaimCheck.Calendar

/-- A number in exactly the given count of digits, and what follows it. -/
def takeNumber (width : Nat) (chars : List Char) : Option (Nat × List Char) :=
  let digits := chars.take width
  if digits.length = width ∧ digits.all Char.isDigit then
    some (Decimal.ofDigits digits, chars.drop width)
  else none

def takeChar (accept : Char → Bool) : List Char → Option (List Char)
  | c :: rest => if accept c then some rest else none
  | [] => none

/-- A date, which may be one of a year 0 before the first one. -/
def takeAnyDate (chars : List Char) : Option (Date × List Char) := do
  let (year, rest) ← takeNumber 4 chars
  let rest ← takeChar (· == '-') rest
  let (month, rest) ← takeNumber 2 rest
  let rest ← takeChar (· == '-') rest
  let (day, rest) ← takeNumber 2 rest
  let date : Date := ⟨year, month, day⟩
  if date.hasDay then some (date, rest) else none

def takeDate (chars : List Char) : Option (Date × List Char) :=
  (takeAnyDate chars).filter fun found => found.1.isValid

/-- The digits after a point as microseconds; digits past the sixth are dropped. -/
def takeFraction (chars : List Char) : Option (Nat × List Char) :=
  let (digits, rest) := Decimal.takeDigits chars
  if digits.isEmpty then none
  else some (Decimal.ofDigits ((digits ++ List.replicate 6 '0').take 6), rest)

/-- Seconds with an optional fraction after one of the given marks, as microseconds. -/
def takeSeconds (marks chars : List Char) : Option (Nat × List Char) := do
  let (seconds, rest) ← takeNumber 2 chars
  if 60 ≤ seconds then none
  else match takeChar marks.contains rest with
    | some more =>
      let (fraction, rest) ← takeFraction more
      some (seconds * second + fraction, rest)
    | none => some (seconds * second, rest)

/-- Hours and minutes, with optional seconds, as microseconds. -/
def takeClock (marks chars : List Char) : Option (Nat × List Char) := do
  let (hours, rest) ← takeNumber 2 chars
  let rest ← takeChar (· == ':') rest
  let (minutes, rest) ← takeNumber 2 rest
  if 24 ≤ hours ∨ 60 ≤ minutes then none
  else
    let micros := hours * hour + minutes * minute
    match rest with
    | ':' :: more =>
      let (seconds, rest) ← takeSeconds marks more
      some (micros + seconds, rest)
    | _ => some (micros, rest)

/-- An offset of less than a second is read as none from UTC. -/
def settledOffset (negative : Bool) (micros : Nat) : Int :=
  if micros < second then 0 else if negative then -(micros : Int) else micros

/-- An offset, which must be the last thing in the text; no text is no offset. -/
def readOffset (chars : List Char) : Option (Option Int) :=
  match chars with
  | [] => some none
  | sign :: rest =>
    if sign = '+' ∨ sign = '-' then
      match takeClock ['.'] rest with
      | some (micros, []) => some (some (settledOffset (sign = '-') micros))
      | _ => none
    else none

/-- An offset in hours and minutes, with or without a colon between them, or `Z` for none; its minus
may be the mathematical one. -/
def readLooseOffset (chars : List Char) : Option (Option Int) :=
  let chars := match chars with
    | '\u2212' :: rest => '-' :: rest
    | _ => chars
  match chars with
  | ['Z'] | ['z'] => some (some 0)
  | [sign, a, b, c, d] => readOffset [sign, a, b, ':', c, d]
  | _ => if 6 < chars.length then none else readOffset chars

end ClaimCheck.Calendar

namespace ClaimCheck.Moment

def ofParts? (date : Date) (micros : Nat) (offset : Option Int) : Option Moment :=
  let total := date.toDays * Calendar.day + micros
  if inRange : total < Calendar.span then some ⟨total, offset, inRange⟩ else none

def ofIso? (text : String) : Option Moment := do
  let (date, rest) ← Calendar.takeDate text.toList
  let rest ← Calendar.takeChar (· == 'T') rest
  let (micros, rest) ← Calendar.takeClock ['.'] rest
  let offset ← Calendar.readOffset rest
  ofParts? date micros offset

/-- Why a text is no moment: it is neither a date nor a count, or it lies outside the calendar. -/
inductive Unread
  | unknown
  | outside
  deriving DecidableEq, Repr

private def ofLooseParts (date : Date) (micros : Nat) (offset : Option Int) :
    Except Unread Moment :=
  if date.isValid then (ofParts? date micros offset).elim (.error .outside) .ok
  else .error .outside

/-- A date with a time of day, an offset or both left out, as their parts. -/
private def looseParts? (chars : List Char) : Option (Date × Nat × Option Int) := do
  let (date, rest) ← Calendar.takeAnyDate chars
  if rest.isEmpty then some (date, 0, none)
  else
    let rest ← Calendar.takeChar ['T', 't', ' ', '_'].contains rest
    let (micros, rest) ← Calendar.takeClock ['.', ','] rest
    let offset ← Calendar.readLooseOffset rest
    some (date, micros, offset)

/-- A date alone is its first moment, and a number is a count. A count that leads out of the
calendar is as good as none. -/
def ofText (text : String) : Except Unread Moment :=
  let chars := text.toList
  match looseParts? chars with
  | some (date, micros, offset) => ofLooseParts date micros offset
  | none => (ofCountText? chars).elim (.error .unknown) .ok

end ClaimCheck.Moment

namespace ClaimCheck

def Date.ofIso? (text : String) : Option Date :=
  match Calendar.takeDate text.toList with
  | some (date, []) => some date
  | _ => none

def ClockTime.ofIso? (text : String) : Option ClockTime := do
  let (micros, rest) ← Calendar.takeClock ['.'] text.toList
  let offset ← Calendar.readOffset rest
  some ⟨micros, offset⟩

end ClaimCheck
