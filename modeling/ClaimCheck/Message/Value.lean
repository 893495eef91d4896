import ClaimCheck.Calendar.Moment
import ClaimCheck.Number.Shortest
import ClaimCheck.Reply
import ClaimCheck.Bytes

/-!
The values that applications send: what JSON knows, dates and times, two records of orders, and
things that cannot travel. Also the type name of a value and its plain text.
-/
namespace ClaimCheck

structure Order where
  orderId : String
  amount : Int
  placedAt : Moment

structure Batch where
  name : String
  orders : List Order
  note : Option String

inductive Value
  | null
  | bool (b : Bool)
  | int (n : Int)
  | float (x : Double)
  | text (s : String)
  | status (s : ReplyStatus)
  | list (items : List Value)
  | tuple (items : List Value)
  | dict (entries : List (Value × Value))
  | moment (m : Moment)
  | date (d : Date)
  | clockTime (t : ClockTime)
  | bytes (b : Bytes)
  | set (items : List Value)
  | object
  | decimal (text : String)
  /-- A list, or a dictionary, that holds itself. -/
  | knot (isDict : Bool)
  | order (o : Order)
  | batch (b : Batch)
  deriving Inhabited

namespace Value

def isNull : Value → Bool
  | .null => true
  | _ => false

def typeName : Value → String
  | .null => "NoneType"
  | .bool _ => "bool"
  | .int _ => "int"
  | .float _ => "float"
  | .text _ => "str"
  | .status _ => "ReplyStatus"
  | .list _ => "list"
  | .tuple _ => "tuple"
  | .dict _ => "dict"
  | .moment _ => "datetime"
  | .date _ => "date"
  | .clockTime _ => "time"
  | .bytes _ => "bytes"
  | .set _ => "set"
  | .object => "object"
  | .decimal _ => "Decimal"
  | .knot isDict => if isDict then "dict" else "list"
  | .order _ => "OrderPlaced"
  | .batch _ => "OrderBatch"

/-- The type name with the module that it belongs to, where it has one. -/
def qualifiedName : Value → String
  | .moment _ => "datetime.datetime"
  | .date _ => "datetime.date"
  | .clockTime _ => "datetime.time"
  | .decimal _ => "decimal.Decimal"
  | value => value.typeName

/-- Lists nested to the given depth, the innermost one empty. -/
def nested : Nat → Value
  | 0 => .list []
  | n + 1 => if n = 0 then .list [] else .list [nested n]

/-- The whole number that a key counts as: truth is one, and a float with no fraction its value. -/
private def keyNumber? : Value → Option Int
  | .int n => some n
  | .bool b => some (if b then 1 else 0)
  | .float x => x.toInt?
  | _ => none

private def keyText? : Value → Option String
  | .text s => some s
  | .status s => some s.word
  | _ => none

mutual

/-- Whether two values are the same key of a dictionary. -/
def sameKey : Value → Value → Bool
  | .null, .null => true
  | .float x, .float y => x == y && x != .nan
  | .moment x, .moment y => x == y
  | .date x, .date y => x == y
  | .clockTime x, .clockTime y => x == y
  | .bytes x, .bytes y => x == y
  | .decimal x, .decimal y => x == y
  | .tuple xs, .tuple ys => sameKeys xs ys
  | x, y =>
    match keyNumber? x, keyNumber? y with
    | some m, some n => m == n
    | _, _ => match keyText? x, keyText? y with
      | some s, some t => s == t
      | _, _ => false

def sameKeys : List Value → List Value → Bool
  | [], [] => true
  | x :: xs, y :: ys => sameKey x y && sameKeys xs ys
  | _, _ => false

end

private def setEntry (key value : Value) : List (Value × Value) → List (Value × Value)
  | [] => [(key, value)]
  | entry :: rest =>
    if sameKey entry.1 key then (entry.1, value) :: rest else entry :: setEntry key value rest

/-- A dictionary of entries given one after the other: a known key keeps its place and its first
form, and takes the new value. -/
def ofEntries (entries : List (Value × Value)) : Value :=
  .dict (entries.foldl (fun known entry => setEntry entry.1 entry.2 known) [])

end Value
end ClaimCheck
