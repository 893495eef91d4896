import ClaimCheck.Failure
import ClaimCheck.Message.Value

/-!
Messages as bytes: JSON in UTF-8. Reading checks the outermost type that the reader expects; orders
and batches are validated field by field.
-/
namespace ClaimCheck

/-- What a reader expects. -/
inductive Expected
  | anything
  | object
  | dict
  | list
  | text
  | int
  | float
  | bool
  | null
  | order
  | batch
  deriving DecidableEq, Repr

inductive Decoded
  | json (json : Json)
  | order (order : Order)
  | batch (batch : Batch)

def Expected.typeName : Expected → String
  | .anything => "Any"
  | .object => "object"
  | .dict => "dict"
  | .list => "list"
  | .text => "str"
  | .int => "int"
  | .float => "float"
  | .bool => "bool"
  | .null => "NoneType"
  | .order => "OrderPlaced"
  | .batch => "OrderBatch"

def Expected.all : List Expected :=
  [.anything, .object, .dict, .list, .text, .int, .float, .bool, .null, .order, .batch]

def Expected.ofTypeName? (typeName : String) : Option Expected :=
  Expected.all.find? (·.typeName = typeName)

/-- A truth value passes as an integer, an integer never as a float. -/
def Expected.admits (expected : Expected) (json : Json) : Bool :=
  match expected, json with
  | .anything, _ | .object, _ => true
  | .dict, .object _ | .list, .array _ | .text, .text _ | .float, .float _ | .null, .null => true
  | .int, .int _ | .int, .bool _ | .bool, .bool _ => true
  | _, _ => false

/-- Whether what is expected is validated field by field. -/
def Expected.isRecord (expected : Expected) : Bool :=
  expected == .order || expected == .batch

def Order.ofJson (json : Json) : Checked Order :=
  match json with
  | .object _ =>
    ((Checked.inField "order_id" (Field.required Field.text (json.member? "order_id"))).both <|
      (Checked.inField "amount" (Field.required Field.integer (json.member? "amount"))).both <|
      Checked.inField "placed_at" (Field.required Field.moment (json.member? "placed_at"))).map
        fun found => ⟨found.1, found.2.1, found.2.2⟩
  | _ => .fault .notRecord

def Batch.readOrders : Json → Checked (List Order)
  | .array items =>
    Checked.all (items.zipIdx.map fun item =>
      Checked.inField (toString item.2) (Order.ofJson item.1))
  | _ => .fault .notList

def Batch.ofJson (json : Json) : Checked Batch :=
  match json with
  | .object _ =>
    ((Checked.inField "name" (Field.optional "batch" Field.text (json.member? "name"))).both <|
      (Checked.inField "orders" (Field.required Batch.readOrders (json.member? "orders"))).both <|
      Checked.inField "note" (Field.optional none Field.textOrNull (json.member? "note"))).map
        fun found => ⟨found.1, found.2.1, found.2.2⟩
  | _ => .fault .notRecord

namespace Message

/-- Too deep a nesting passes through unwrapped; every other failure is one of serialization. -/
def serializeWithin (room : Nat) (message : Value) : Except Failure Bytes :=
  match Json.write room message with
  | .ok text => .ok (Text.Utf8.encode text)
  | .error .tooDeep => .error (.tooDeep Json.WriteError.tooDeep.message)
  | .error error => .error (.serialization (.unwritable error))

def serialize (message : Value) : Except Failure Bytes :=
  serializeWithin Json.usualRoom message

/-- Records are read by stricter rules than other messages. -/
def recordRules : Json.Rules := ⟨false, none, true⟩

/-- The reader of records counts brackets by itself. -/
def recordRoom : Nat := 200

private def readRecord (read : Json → Checked α) (raw : Bytes) : Except Failure α :=
  let json? := (Text.Utf8.decode raw).toOption.bind fun text =>
    (Json.readUnder recordRules recordRoom text).toOption
  let checked := match json? with
    | some json => read json
    | none => .fault .notJson
  (Checked.sorted checked).mapError fun errors => .serialization (.invalid errors)

private def readJson (room : Nat) (raw : Bytes) : Except Failure Json :=
  match Text.Utf8.decode raw with
  | .error error => .error (.serialization (.notText error))
  | .ok text =>
    match Json.readWithin room text with
    | .ok json => .ok json
    | .error (.malformed problem place) => .error (.serialization (.malformed problem place))
    | .error (.hugeInteger digits) => .error (.hugeInteger digits)
    | .error (.tooDeep isObject) => .error (.tooDeep (Json.ReadError.tooDeep isObject).message)

def deserializeWithin (room : Nat) (expected : Expected) (raw : Bytes) : Except Failure Decoded :=
  match expected with
  | .order => (readRecord Order.ofJson raw).map .order
  | .batch => (readRecord Batch.ofJson raw).map .batch
  | _ => do
    let json ← readJson room raw
    if expected.admits json then .ok (.json json)
    else .error (.serialization (.mismatch expected.typeName json.typeName))

def deserialize (expected : Expected) (raw : Bytes) : Except Failure Decoded :=
  deserializeWithin Json.usualRoom expected raw

/-- What is no record is read as JSON, and then only its type is checked. -/
theorem deserializeWithin_eq {expected : Expected} (other : expected.isRecord = false)
    (room : Nat) (raw : Bytes) :
    deserializeWithin room expected raw =
      match Text.Utf8.decode raw with
      | .error error => .error (.serialization (.notText error))
      | .ok text =>
        match Json.readWithin room text with
        | .ok json =>
          if expected.admits json then .ok (.json json)
          else .error (.serialization (.mismatch expected.typeName json.typeName))
        | .error (.malformed problem place) => .error (.serialization (.malformed problem place))
        | .error (.hugeInteger digits) => .error (.hugeInteger digits)
        | .error (.tooDeep isObject) =>
          .error (.tooDeep (Json.ReadError.tooDeep isObject).message) := by
  have reading : deserializeWithin room expected raw = (readJson room raw).bind fun json =>
      if expected.admits json then .ok (.json json)
      else .error (.serialization (.mismatch expected.typeName json.typeName)) := by
    cases expected with
    | order | batch => cases other
    | _ => rfl
  rw [reading, readJson]
  cases Text.Utf8.decode raw with
  | error error => rfl
  | ok text =>
    simp only
    cases Json.readWithin room text with
    | ok json => rfl
    | error error => cases error <;> rfl

/-- What is no record in the bytes is told by field. -/
theorem deserializeWithin_record {expected : Expected} (record : expected.isRecord = true)
    {room : Nat} {raw : Bytes} {failure : Failure}
    (failed : deserializeWithin room expected raw = .error failure) :
    ∃ errors, failure = .serialization (.invalid errors) := by
  have told {α : Type} {read : Json → Checked α} {wrap : α → Decoded}
      (failed : (readRecord read raw).map wrap = .error failure) :
      ∃ errors, failure = .serialization (.invalid errors) := by
    revert failed
    unfold readRecord
    simp only
    generalize Checked.sorted _ = checked
    cases checked with
    | error errors =>
      intro failed
      cases failed
      exact ⟨errors, rfl⟩
    | ok value =>
      intro failed
      cases failed
  cases expected with
  | order | batch => exact told failed
  | _ => cases record

/-- As `deserialize`, for bytes seen through a view of memory, from which no records are read. -/
def deserializeView (expected : Expected) (raw : Bytes) : Except Failure Decoded :=
  if expected.isRecord then .error (.serialization (.invalid [⟨[], .notJsonText⟩]))
  else deserialize expected raw

end Message
end ClaimCheck
