import ClaimCheck.Number.Decimal
import ClaimCheck.Text.Blank
import ClaimCheck.Text.Digit

/-!
Whole numbers as people write them: with blanks around them and underscores between their digits.
One reader takes zeros in front and a fraction of nothing but zeros, another the digits of any
script.
-/
namespace ClaimCheck.Whole

/-- Why a text is no whole number, or none that is read. -/
inductive Unread
  | malformed
  | tooLong
  deriving DecidableEq, Repr

/-- Whether an integer fits into a word of 64 bits. -/
def isWord (n : Int) : Bool :=
  -Int.pow 2 63 ≤ n && n < Int.pow 2 63

/-- Blanks around a number; separators of records are not among them. -/
def isMargin (c : Char) : Bool :=
  Text.isBlank c && !(0x1C ≤ c.toNat && c.toNat ≤ 0x1F)

/-- What is left after the zeros and underscores that follow a zero: it starts at the first other
digit, or at the character before a point or before the end. -/
def afterZeros (last : Char) : List Char → Option (List Char)
  | [] => some [last]
  | c :: rest =>
    if c = '0' ∨ c = '_' then afterZeros c rest
    else if c.isDigit then some (c :: rest)
    else if c = '.' then some (last :: c :: rest)
    else none

/-- A number starts with a digit, and zeros in front of others do not count. -/
def dropZeros : List Char → Option (List Char)
  | [] => none
  | c :: rest =>
    if c = '0' then afterZeros c rest
    else if c.isDigit then some (c :: rest)
    else none

/-- A fraction without a digit other than zero does not count. -/
def dropFraction (chars : List Char) : List Char :=
  let whole := chars.takeWhile (· != '.')
  if (chars.drop (whole.length + 1)).all (· == '0') then whole else chars

/-- Whether an underscore does not stand alone between other characters. -/
def hasLooseLine (chars : List Char) : Bool :=
  chars.head? == some '_' || chars.getLast? == some '_' ||
    (chars.zip chars.tail).contains ('_', '_')

/-- Underscores do not count where all of them stand alone between other characters. -/
def dropLines (chars : List Char) : List Char :=
  if hasLooseLine chars then chars else chars.filter (· != '_')

/-- A text with too many digits is refused for these, whatever follows them. -/
def ofText (text : String) : Except Unread Int :=
  let (negative, body) := Decimal.takeSign (Text.trimChars isMargin text.toList)
  match dropZeros body with
  | none => .error .malformed
  | some body =>
    let body := dropLines (dropFraction body)
    let (digits, rest) := Decimal.takeDigits body
    if Decimal.digitLimit < digits.length + (if negative then 1 else 0) then .error .tooLong
    else if digits.isEmpty || !rest.isEmpty then .error .malformed
    else .ok (Decimal.signed negative (Decimal.ofDigits digits))

/-- A whole number in the digits of any script. -/
def ofScript? (text : String) : Option Int := do
  let (negative, body) := Decimal.takeSign (Text.trimChars isMargin text.toList)
  let digits ← (dropLines body).mapM Text.digit?
  if digits.isEmpty then none
  else some (Decimal.signed negative (digits.foldl (fun n digit => 10 * n + digit) 0))

end ClaimCheck.Whole
