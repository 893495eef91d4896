/-!
Decimal numbers in text: their signs, their digits and their exponents, each taken from the front.
-/
namespace ClaimCheck.Decimal

/-- Integers have at most this many decimal digits. -/
def digitLimit : Nat := 4300

def ofDigits (digits : List Char) : Nat :=
  digits.foldl (fun n c => 10 * n + (c.toNat - 48)) 0

/-- The digits at the front of a text, and what follows them. -/
def takeDigits (chars : List Char) : List Char × List Char :=
  (chars.takeWhile Char.isDigit, chars.dropWhile Char.isDigit)

/-- Whether a text starts with a minus, and what follows its sign; no sign at all is a plus. -/
def takeSign (chars : List Char) : Bool × List Char :=
  match chars with
  | '-' :: rest => (true, rest)
  | '+' :: rest => (false, rest)
  | _ => (false, chars)

def signed (negative : Bool) (size : Nat) : Int :=
  if negative then -(size : Int) else size

/-- An exponent needs a digit after its letter and sign; without one it is not part of the number.
-/
def takeExponent (chars : List Char) : Option Int × List Char :=
  match chars with
  | letter :: rest =>
    let (negative, body) := takeSign rest
    let (digits, after) := takeDigits body
    if (letter = 'e' ∨ letter = 'E') ∧ !digits.isEmpty then
      (some (signed negative (ofDigits digits)), after)
    else (none, chars)
  | [] => (none, chars)

end ClaimCheck.Decimal
