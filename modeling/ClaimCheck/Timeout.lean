import ClaimCheck.Failure
import ClaimCheck.Message.Value
import ClaimCheck.Number.Decimal
import ClaimCheck.Text.Digit

/-! Limits on the time that a request may take, as callers give them. None at all is `null`. -/
namespace ClaimCheck.Timeout

/-- Whether a decimal number lies below zero. Its digits are those of any script, underscores among
them do not count, and what is no number has no place in the order. -/
private def isNegativeDecimal? (text : String) : Option Bool :=
  let chars := (Text.trimChars Text.isBlank text.toList).filter (· != '_')
  let (negative, body) := Decimal.takeSign chars
  let word := body.map Char.toLower
  if ["nan", "snan"].any fun name => name.toList.isPrefixOf word then none
  else
    let digits := word.takeWhile (· != 'e')
    let isZero := digits.all fun c => (Text.digit? c).getD 0 = 0
    some (negative && (word.head? == some 'i' || !isZero))

/-- Whether a limit lies below zero, where that can be asked. -/
def isNegative (limit : Value) : Except Misuse Bool :=
  match limit with
  | .null => .ok false
  | .bool _ => .ok false
  | .int n => .ok (n < 0)
  | .float x => .ok x.isNegative
  | .decimal text => (isNegativeDecimal? text).elim (.error .unorderedTimeout) .ok
  | _ => .error (.timeoutType limit.qualifiedName)

/-- Whether a limit comes to an end at some time. -/
def elapses (limit : Value) : Bool :=
  match limit with
  | .null | .float (.infinite false) => false
  | _ => true

/-- A limit is added to a clock that counts in doubles. -/
def ensureTimed (limit : Value) : Except Fault Unit :=
  match limit with
  | .int n =>
    if (Double.ofInt n).quotient?.isSome then .ok ()
    else .error (.ofGeneral "OverflowError" "int too large to convert to float")
  | .decimal _ =>
    .error (.ofGeneral "TypeError"
      s!"unsupported operand type(s) for +: 'float' and '{limit.qualifiedName}'")
  | _ => .ok ()

/-- The same limit for every request; it must not lie below zero. -/
def fixed (limit : Value) : Except Misuse Value := do
  if ← isNegative limit then .error .negativeTimeout else .ok limit

end ClaimCheck.Timeout
