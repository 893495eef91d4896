import ClaimCheck.Calendar.Reader
import ClaimCheck.Json.Basic
import ClaimCheck.Number.Whole
import ClaimCheck.Table

/-!
Validation of records field by field. Every failing field is reported, and the reports are sorted by
their paths.
-/
namespace ClaimCheck

/-- What is wrong with a field. -/
inductive FieldFault
  | missing
  | notText
  | emptyText
  | blankMessageId
  | blankKeyPrefix
  | notMapping
  | notBytes
  | notMoment
  | badMoment
  | outsideCalendar
  | notInteger
  | fraction
  | infinite
  | badInteger
  | hugeInteger
  | negative
  | notBoolean
  | badBoolean
  | notList
  | notRecord
  | notJson
  | notJsonText
  | frozen
  deriving DecidableEq, Repr

/-- The code of a fault. -/
def FieldFault.code : FieldFault → String
  | .missing => "missing"
  | .notText => "string_type"
  | .emptyText => "string_too_short"
  | .blankMessageId => "value_error"
  | .blankKeyPrefix => "value_error"
  | .notMapping => "dict_type"
  | .notBytes => "bytes_type"
  | .notMoment => "datetime_type"
  | .badMoment => "datetime_from_date_parsing"
  | .outsideCalendar => "datetime_parsing"
  | .notInteger => "int_type"
  | .fraction => "int_from_float"
  | .infinite => "finite_number"
  | .badInteger => "int_parsing"
  | .hugeInteger => "int_parsing_size"
  | .negative => "greater_than_equal"
  | .notBoolean => "bool_type"
  | .badBoolean => "bool_parsing"
  | .notList => "list_type"
  | .notRecord => "model_type"
  | .notJson => "json_invalid"
  | .notJsonText => "json_type"
  | .frozen => "frozen_instance"

/-- The wording of a fault; dates and malformed JSON have none. -/
def FieldFault.message? : FieldFault → Option String
  | .missing => some "Field required"
  | .notText => some "Input should be a valid string"
  | .emptyText => some "String should have at least 1 character"
  | .blankMessageId => some "Value error, Message ID must be provided."
  | .blankKeyPrefix => some "Value error, key_prefix must be provided."
  | .notMapping => some "Input should be a valid dictionary"
  | .notBytes => some "Input should be a valid bytes"
  | .notMoment => none
  | .badMoment => none
  | .outsideCalendar => none
  | .notInteger => some "Input should be a valid integer"
  | .fraction => some "Input should be a valid integer, got a number with a fractional part"
  | .infinite => some "Input should be a finite number"
  | .badInteger => some "Input should be a valid integer, unable to parse string as an integer"
  | .hugeInteger => some "Unable to parse input string as an integer, exceeded maximum size"
  | .negative => some "Input should be greater than or equal to 0"
  | .notBoolean => some "Input should be a valid boolean"
  | .badBoolean => some "Input should be a valid boolean, unable to interpret input"
  | .notList => some "Input should be a valid array"
  | .notRecord => some "Input should be an object"
  | .notJson => none
  | .notJsonText => some "JSON input should be string, bytes or bytearray"
  | .frozen => some "Instance is frozen"

/-- A fault and the path of the field that has it. -/
structure FieldError where
  path : List String
  fault : FieldFault
  deriving DecidableEq, Repr

/-- Whether a text comes before another, by its code points. -/
def Text.precedes (left right : String) : Bool :=
  left.toList.lex right.toList fun c d => c.toNat < d.toNat

/-- Whether a report does not come after another: by path, then by code. -/
def FieldError.le (left right : FieldError) : Bool :=
  if left.path = right.path then !Text.precedes right.fault.code left.fault.code
  else !right.path.lex left.path Text.precedes

/-- A field read, or what is wrong with it and the fields inside it. -/
abbrev Checked (α : Type) := Except (List FieldError) α

namespace Checked

def fault (fault : FieldFault) : Checked α :=
  .error [⟨[], fault⟩]

def ofExcept (field : Except FieldFault α) : Checked α :=
  field.mapError fun fault => [⟨[], fault⟩]

/-- The reports of a field, seen from the record that holds it. -/
def inField (name : String) (field : Checked α) : Checked α :=
  field.mapError fun errors => errors.map fun e => ⟨name :: e.path, e.fault⟩

/-- Both fields, or the reports of both. -/
def both (left : Checked α) (right : Checked β) : Checked (α × β) :=
  match left, right with
  | .ok a, .ok b => .ok (a, b)
  | .ok _, .error errors => .error errors
  | .error errors, .ok _ => .error errors
  | .error errors, .error more => .error (errors ++ more)

def all : List (Checked α) → Checked (List α)
  | [] => .ok []
  | field :: rest => (field.both (all rest)).map fun pair => pair.1 :: pair.2

end Checked

namespace Field

/-- A field that must be there. -/
def required (read : Json → Checked α) : Option Json → Checked α
  | some json => read json
  | none => .fault .missing

/-- A field that has a value when it is not there. -/
def optional (default : α) (read : Json → Checked α) : Option Json → Checked α
  | some json => read json
  | none => .ok default

def text : Json → Checked String
  | .text s => .ok s
  | _ => .fault .notText

def textOrNull : Json → Checked (Option String)
  | .null => .ok none
  | json => (text json).map some

def nonEmptyText (json : Json) : Checked String := do
  let s ← text json
  if s.isEmpty then .fault .emptyText else .ok s

def texts : Json → Checked (Table String)
  | .object members =>
    (Checked.all (members.map fun m =>
      Checked.inField m.1 ((text m.2).map fun s => (m.1, s)))).map Table.ofList
  | _ => .fault .notMapping

/-- The whole number that a float is. The ends of the range of words are not among them. -/
def wholeFloat (x : Double) : Except FieldFault Int :=
  match x.toInt? with
  | some n => if n.natAbs < Nat.pow 2 63 then .ok n else .error .hugeInteger
  | none => .error (if x.quotient?.isSome then .fraction else .infinite)

def wholeText (s : String) : Except FieldFault Int :=
  (Whole.ofText s).mapError fun unread =>
    match unread with
    | .malformed => .badInteger
    | .tooLong => .hugeInteger

def integer : Json → Checked Int
  | .int n => .ok n
  | .bool b => .ok (if b then 1 else 0)
  | .float x => Checked.ofExcept (wholeFloat x)
  | .text s => Checked.ofExcept (wholeText s)
  | _ => .fault .notInteger

def natural (json : Json) : Checked Nat := do
  let n ← integer json
  if n < 0 then .fault .negative else .ok n.toNat

private def trueWords : List String := ["1", "on", "t", "true", "y", "yes"]

private def falseWords : List String := ["0", "off", "f", "false", "n", "no"]

private def truthOfText? (s : String) : Option Bool :=
  let word := String.ofList (s.toList.map Char.toLower)
  if trueWords.contains word then some true
  else if falseWords.contains word then some false
  else none

private def truthOfInteger? (n : Int) : Option Bool :=
  if n = 1 then some true else if n = 0 then some false else none

/-- A number counts as a truth value, even as a wrong one, only if it is whole and fits into a word.
-/
def boolean (json : Json) : Checked Bool :=
  let found? := match json with
    | .bool b => some (some b)
    | .int n => if Whole.isWord n then some (truthOfInteger? n) else none
    | .float x => (wholeFloat x).toOption.map truthOfInteger?
    | .text s => some (truthOfText? s)
    | _ => none
  match found? with
  | some (some b) => .ok b
  | some none => .fault .badBoolean
  | none => .fault .notBoolean

private def counted : Option Moment → Checked Moment
  | some m => .ok m
  | none => .fault .outsideCalendar

/-- A date and time as text, or as a count from the start of 1970. -/
def moment : Json → Checked Moment
  | .text s => Checked.ofExcept <| (Moment.ofText s).mapError fun unread =>
    match unread with
    | .unknown => .badMoment
    | .outside => .outsideCalendar
  | .int n => if Whole.isWord n then counted (Moment.ofCount? n 0) else .fault .notMoment
  | .float x => counted (Moment.ofDouble? x)
  | _ => .fault .notMoment

end Field

/-- The reports in the order in which they are given out. -/
def Checked.sorted (checked : Checked α) : Checked α :=
  checked.mapError fun errors => errors.mergeSort FieldError.le

end ClaimCheck
