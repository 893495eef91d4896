import ClaimCheck.Number.Double

/-!
The shortest decimal text that reads back as a double: the fewest digits that lie in the interval of
reals rounding to it, of those the nearest. How digits are laid out is one record.
-/
namespace ClaimCheck.Double

/-- Digits `d` and a point such that the number is `0.d * 10 ^ point`. -/
structure Digits where
  digits : Nat
  point : Int

/-- The ends of the interval of reals that round to a finite double, and the double itself, as
multiples of a common unit fraction; the ends belong to it when the mantissa is even. -/
private structure Interval where
  low : Nat
  value : Nat
  high : Nat
  unit : Nat
  closed : Bool

private def interval (mantissa : Nat) (exponent : Int) : Interval :=
  let below := if mantissa = Nat.pow 2 52 ∧ -1074 < exponent then 1 else 2
  let scale (n : Nat) := (scaled n 2 (exponent - 2)).1
  ⟨scale (4 * mantissa - below), scale (4 * mantissa), scale (4 * mantissa + 2),
    (scaled 1 2 (exponent - 2)).2, mantissa % 2 == 0⟩

/-- The point such that `10 ^ (point - 1) ≤ value < 10 ^ point`. -/
private def pointOf (i : Interval) : Int :=
  let estimate : Int := ((i.value.log2 : Int) - i.unit.log2) * 30103 / 100000 - 2
  let isAbove (k : Nat) :=
    let power := scaled 1 10 (estimate + k)
    decide (i.value * power.2 < i.unit * power.1)
  estimate + ((List.range 8).find? isAbove).getD 0

private def within (i : Interval) (candidate : Nat) (power : Nat × Nat) : Bool :=
  let place := candidate * power.1 * i.unit
  if i.closed then i.low * power.2 ≤ place && place ≤ i.high * power.2
  else i.low * power.2 < place && place < i.high * power.2

/-- The digits of the given count that read back, if there are any. -/
private def withCount (i : Interval) (point : Int) (count : Nat) : Option Digits :=
  let power := scaled 1 10 (point - count)
  let below := i.value * power.2 / (i.unit * power.1)
  let twice := 2 * (i.value * power.2 % (i.unit * power.1))
  let down := within i below power
  let up := within i (below + 1) power
  let upNearer := i.unit * power.1 < twice ∨ (twice = i.unit * power.1 ∧ below % 2 = 1)
  if down && (!up || !upNearer) then some ⟨below, point⟩
  else if up then
    some (if below + 1 = Nat.pow 10 count then ⟨Nat.pow 10 (count - 1), point + 1⟩
      else ⟨below + 1, point⟩)
  else none

/-- Seventeen digits always read back. -/
def shortest (mantissa : Nat) (exponent : Int) : Digits :=
  let i := interval mantissa exponent
  let point := pointOf i
  ((List.range 17).findSome? fun count => withCount i point (count + 1)).getD ⟨0, 1⟩

/-- How the digits of a number are set out. -/
structure Layout where
  leastPoint : Int
  greatestPoint : Int
  exponentDigits : Nat
  nan : String
  infinity : String

private def padLeft (width : Nat) (digits : List Char) : List Char :=
  List.replicate (width - digits.length) '0' ++ digits

private def positional (digits : List Char) (point : Int) : List Char :=
  if point ≤ 0 then '0' :: '.' :: (List.replicate point.natAbs '0' ++ digits)
  else
    let whole := digits.take point.natAbs
    let fraction := digits.drop point.natAbs
    whole ++ List.replicate (point.natAbs - digits.length) '0' ++
      '.' :: (if fraction.isEmpty then ['0'] else fraction)

private def scientific (layout : Layout) (digits : List Char) (point : Int) : List Char :=
  let power := point - 1
  let mark := 'e' :: (if power < 0 then '-' else '+') ::
    padLeft layout.exponentDigits (Nat.toDigits 10 power.natAbs)
  match digits with
  | [d] => d :: mark
  | d :: rest => d :: '.' :: (rest ++ mark)
  | [] => mark

private def trimZeros (digits : List Char) : List Char :=
  (digits.reverse.dropWhile (· == '0')).reverse

def Layout.render (layout : Layout) : Double → String
  | .nan => layout.nan
  | .infinite negative => if negative then "-" ++ layout.infinity else layout.infinity
  | .finite negative mantissa exponent =>
    let text :=
      if mantissa = 0 then ['0', '.', '0']
      else
        let found := shortest mantissa exponent
        let digits := trimZeros (Nat.toDigits 10 found.digits)
        if layout.leastPoint ≤ found.point ∧ found.point ≤ layout.greatestPoint then
          positional digits found.point
        else scientific layout digits found.point
    String.ofList (if negative then '-' :: text else text)

/-- Positional from a ten-thousandth up to below ten to the sixteenth, otherwise with an exponent of
a sign and at least two digits. -/
def plain : Layout := ⟨-3, 16, 2, "nan", "inf"⟩

end ClaimCheck.Double
