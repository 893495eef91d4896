/-!
Double-precision numbers as exact binary fractions, and the number nearest to a decimal fraction.
-/
namespace ClaimCheck

/-- A finite number is `mantissa * 2 ^ exponent` with its sign; the mantissa has at most 53 bits,
the exponent is at least -1074, and below 53 bits it is -1074. -/
inductive Double
  | nan
  | infinite (negative : Bool)
  | finite (negative : Bool) (mantissa : Nat) (exponent : Int)
  deriving DecidableEq, Repr

namespace Double

def zero : Double := .finite false 0 (-1074)

/-- The quotient rounded to the nearest whole number, a half to the even one. -/
def roundDiv (num den : Nat) : Nat :=
  let below := num / den
  let twice := 2 * (num % den)
  if twice < den then below
  else if den < twice then below + 1
  else below + below % 2

/-- Two natural numbers whose quotient is `n * base ^ exponent`. -/
def scaled (n base : Nat) (exponent : Int) : Nat × Nat :=
  let power := base.pow exponent.natAbs
  if exponent < 0 then (n, power) else (n * power, 1)

/-- The mantissa of a quotient on the grid of the given exponent. -/
private def onGrid (num den : Nat) (exponent : Int) : Nat :=
  if exponent < 0 then roundDiv (num * Nat.pow 2 exponent.natAbs) den
  else roundDiv num (den * Nat.pow 2 exponent.natAbs)

private def bounded (negative : Bool) (mantissa : Nat) (exponent : Int) : Double :=
  if 971 < exponent then .infinite negative else .finite negative mantissa exponent

private def settle (negative : Bool) (mantissa : Nat) (exponent : Int) : Double :=
  if mantissa = Nat.pow 2 53 then bounded negative (Nat.pow 2 52) (exponent + 1)
  else bounded negative mantissa exponent

/-- The double nearest to a quotient, with the given sign. -/
def ofQuotient (negative : Bool) (num den : Nat) : Double :=
  if num = 0 then .finite negative 0 (-1074)
  else
    let guess : Int := (num.log2 : Int) - den.log2 - 52
    let isLow := num * Nat.pow 2 (-guess).toNat < den * Nat.pow 2 (52 + guess.toNat)
    let tight := if isLow then guess - 1 else guess
    let exponent := max tight (-1074)
    settle negative (onGrid num den exponent) exponent

/-- The double nearest to `digits * 10 ^ exponent`. Far outside the range the answer is known
without computing the power. -/
def ofDecimal (negative : Bool) (digits : Nat) (exponent : Int) : Double :=
  let size : Int := (Nat.toDigits 10 digits).length + exponent
  if digits = 0 ∨ size < -400 then .finite negative 0 (-1074)
  else if 400 < size then .infinite negative
  else
    let quotient := scaled digits 10 exponent
    ofQuotient negative quotient.1 quotient.2

/-- The exact value of a finite double, as a quotient. -/
def quotient? : Double → Option (Int × Nat)
  | .finite negative mantissa exponent =>
    let quotient := scaled mantissa 2 exponent
    some (if negative then -(quotient.1 : Int) else quotient.1, quotient.2)
  | _ => none

/-- The double nearest to a quotient of an integer. -/
def ofRatio (num : Int) (den : Nat) : Double :=
  ofQuotient (num < 0) num.natAbs den

/-- The double nearest to an integer. -/
def ofInt (n : Int) : Double := ofRatio n 1

/-- The whole number that a double is, when it is one. -/
def toInt? (x : Double) : Option Int :=
  x.quotient?.bind fun q => if q.1 % q.2 = 0 then some (q.1 / q.2) else none

/-- The largest whole number that is not above a double. -/
def floor? (x : Double) : Option Int :=
  x.quotient?.map fun q => q.1 / q.2

/-- What a double is above the whole number below it, rounded to a double. -/
def fraction? (x : Double) : Option Double :=
  x.quotient?.map fun q => ofRatio (q.1 % q.2) q.2

/-- A multiple of a double, rounded to a double. -/
def times? (x : Double) (factor : Nat) : Option Double :=
  x.quotient?.map fun q => ofRatio (q.1 * factor) q.2

/-- A part of a double, rounded to a double. -/
def over? (x : Double) (divisor : Nat) : Option Double :=
  x.quotient?.map fun q => ofRatio q.1 (q.2 * divisor)

/-- The whole number nearest to a double, a half above the one below it. -/
def round? (x : Double) : Option Int :=
  x.quotient?.map fun q => (2 * q.1 + q.2) / (2 * q.2)

def isNegative : Double → Bool
  | .nan => false
  | .infinite negative => negative
  | .finite negative mantissa _ => negative && mantissa != 0

end Double
end ClaimCheck
