import ClaimCheck.Json.Basic
import ClaimCheck.Message.Value

/-!
Writing values as JSON text. Values of orders are records of texts and numbers; dates and times are
written as text; writing fails at the first value, from the left, that has no JSON form or is nested
too deep. How deep that is depends on the caller, so it is given as `room`: how many more containers
may be opened.
-/
namespace ClaimCheck.Json

/-- Why a value has no JSON text. -/
inductive WriteError
  | key (typeName : String)
  | unsupported (typeName : String)
  | circular
  | hugeInteger
  | tooDeep
  deriving DecidableEq, Repr

def WriteError.message : WriteError → String
  | .key typeName => s!"keys must be str, int, float, bool or None, not {typeName}"
  | .unsupported typeName => s!"Object of type {typeName} is not JSON serializable"
  | .circular => "Circular reference detected"
  | .hugeInteger =>
    "Exceeds the limit (4300 digits) for integer string conversion; use sys.set_int_max_str_digits() to increase the limit"
  | .tooDeep => "maximum recursion depth exceeded while encoding a JSON object"

def writeText (text : String) : List Char :=
  quote escapeChar text

def writeInt (n : Int) : Except WriteError (List Char) :=
  if isHuge n then .error .hugeInteger else .ok (toString n).toList

/-- The text of a key, not yet quoted. -/
def keyText : Value → Except WriteError String
  | .text s => .ok s
  | .status s => .ok s.word
  | .null => .ok "null"
  | .bool b => .ok (if b then "true" else "false")
  | .int n => (writeInt n).map String.ofList
  | .float x => .ok (floatLayout.render x)
  | value => .error (.key value.qualifiedName)

def separated (parts : List (List Char)) : List Char :=
  List.intercalate [',', ' '] parts

def member (name : String) (value : List Char) : List Char :=
  writeText name ++ ':' :: ' ' :: value

def inBrackets (parts : List (List Char)) : List Char :=
  '[' :: (separated parts ++ [']'])

def inBraces (parts : List (List Char)) : List Char :=
  '\x7b' :: (separated parts ++ ['\x7d'])

/-- A container is written with the room that is left when it is open. -/
def opening (room : Nat) (write : Nat → Except WriteError (List Char)) :
    Except WriteError (List Char) :=
  match room with
  | 0 => .error .tooDeep
  | room + 1 => write room

/-- A record within another value, as a dictionary of its fields. -/
def writeOrder (room : Nat) (order : Order) : Except WriteError (List Char) :=
  opening room fun _ => do
    let amount ← writeInt order.amount
    .ok (inBraces [member "order_id" (writeText order.orderId), member "amount" amount,
      member "placed_at" (writeText order.placedAt.isoZulu)])

def writeBatch (room : Nat) (batch : Batch) : Except WriteError (List Char) :=
  opening room fun room => do
    let orders ← opening room fun room => (batch.orders.mapM (writeOrder room)).map inBrackets
    .ok (inBraces [member "name" (writeText batch.name), member "orders" orders,
      member "note" ((batch.note.map writeText).getD "null".toList)])

mutual

/-- The JSON text of a value. One that holds itself is opened again before that is noticed. -/
def writeValue (room : Nat) : Value → Except WriteError (List Char)
  | .null => .ok "null".toList
  | .bool b => .ok (if b then "true" else "false").toList
  | .int n => writeInt n
  | .float x => .ok (floatLayout.render x).toList
  | .text s => .ok (writeText s)
  | .status s => .ok (writeText s.word)
  | .moment m => .ok (writeText m.iso)
  | .date d => .ok (writeText d.iso)
  | .clockTime t => .ok (writeText t.iso)
  | .order o => writeOrder room o
  | .batch b => writeBatch room b
  | .knot _ => opening room fun room => opening room fun _ => .error .circular
  | .list items => opening room fun room => (writeItems room items).map inBrackets
  | .tuple items => opening room fun room => (writeItems room items).map inBrackets
  | .dict entries => opening room fun room => (writeEntries room entries).map inBraces
  | value => .error (.unsupported value.typeName)

def writeItems (room : Nat) : List Value → Except WriteError (List (List Char))
  | [] => .ok []
  | item :: rest => do
    let item ← writeValue room item
    let rest ← writeItems room rest
    .ok (item :: rest)

def writeEntries (room : Nat) : List (Value × Value) → Except WriteError (List (List Char))
  | [] => .ok []
  | (key, value) :: rest => do
    let name ← keyText key
    let value ← writeValue room value
    let rest ← writeEntries room rest
    .ok (member name value :: rest)

end

/-- Members without blanks between them, and texts with no more escapes than they need. -/
def compactObject (members : List (String × List Char)) : List Char :=
  let shown := members.map fun m => quote escapeCharRaw m.1 ++ ':' :: m.2
  '\x7b' :: (List.intercalate [','] shown ++ ['\x7d'])

def compactOrder (order : Order) : List Char :=
  compactObject [("order_id", quote escapeCharRaw order.orderId),
    ("amount", (toString order.amount).toList),
    ("placed_at", quote escapeCharRaw order.placedAt.isoZulu)]

def compactBatch (batch : Batch) : List Char :=
  compactObject [("name", quote escapeCharRaw batch.name),
    ("orders", '[' :: (List.intercalate [','] (batch.orders.map compactOrder) ++ [']'])),
    ("note", (batch.note.map (quote escapeCharRaw)).getD "null".toList)]

/-- The text of a message: an order or a batch on its own is written compactly, without limits. -/
def write (room : Nat) : Value → Except WriteError String
  | .order o => .ok (String.ofList (compactOrder o))
  | .batch b => .ok (String.ofList (compactBatch b))
  | value => (writeValue room value).map String.ofList

end ClaimCheck.Json
