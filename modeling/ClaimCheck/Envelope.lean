import ClaimCheck.Headers
import ClaimCheck.Text.Utf8
import ClaimCheck.Validation

/-!
Envelopes carry a serialized message and who sent it when; contexts are what handlers see of them.
Both are values: nothing done to a table of headers given or taken changes them.
-/
namespace ClaimCheck

structure Envelope where
  messageId : String
  correlationId : Option String
  sentAt : Instant
  body : Bytes
  headers : Headers
  identified : Text.blank messageId = false

structure Context where
  messageId : String
  correlationId : Option String
  headers : Headers

/-- A field of a record under construction: not given, given with its type, or given as JSON. -/
inductive Given (α : Type)
  | absent
  | typed (value : α)
  | raw (json : Json)

namespace Envelope

/-- The fields of an envelope before validation. -/
structure Draft where
  messageId : Option Json
  correlationId : Option Json
  sentAt : Given Moment
  body : Given Bytes
  headers : Option Json

/-- Why no envelope came of a draft: its failing fields, or a time of sending whose conversion to
UTC leaves the calendar. -/
inductive DraftError
  | invalid (errors : List FieldError)
  | outOfRange

/-- A message id that is not blank. -/
def readMessageId (json : Json) : Checked { id : String // Text.blank id = false } := do
  let id ← Field.nonEmptyText json
  if shown : Text.blank id = false then .ok ⟨id, shown⟩ else .fault .blankMessageId

def readBody : Given Bytes → Checked Bytes
  | .absent => .ok []
  | .typed bytes => .ok bytes
  | .raw (.text s) => .ok (Text.Utf8.encode s)
  | .raw _ => .fault .notBytes

/-- An integer that does not fit into a word counts as the double nearest to it, if that is finite.
-/
def narrowed (json : Json) : Json :=
  match json with
  | .int n =>
    if Whole.isWord n || (Double.ofInt n).quotient?.isNone then json else .float (.ofInt n)
  | _ => json

/-- The time of sending, which is the present if none is given; none inside if it lies outside the
calendar in UTC. -/
def readSentAt (now : Instant) : Given Moment → Checked (Option Instant)
  | .absent => .ok (some now)
  | .typed moment => .ok moment.instant?
  | .raw json => (Field.moment (narrowed json)).map Moment.instant?

/-- A time of sending outside the calendar stops validation, whatever the other fields hold. -/
def ofDraft (now : Instant) (draft : Draft) : Except DraftError Envelope :=
  match readSentAt now draft.sentAt with
  | .ok none => .error .outOfRange
  | sentAt =>
    let fields :=
      (Checked.inField "message_id" (Field.required readMessageId draft.messageId)).both <|
      (Checked.inField "correlation_id"
        (Field.optional none Field.textOrNull draft.correlationId)).both <|
      (Checked.inField "sent_at" (sentAt.map (·.getD now))).both <|
      (Checked.inField "body" (readBody draft.body)).both <|
      Checked.inField "headers" (Field.required Field.texts draft.headers)
    match Checked.sorted fields with
    | .error errors => .error (.invalid errors)
    | .ok (id, correlationId, sentAt, body, headers) =>
      .ok ⟨id.val, correlationId, sentAt, body, headers, id.property⟩

/-- The same identity and time of sending, with another body. -/
def withBody (envelope : Envelope) (body : Bytes) : Envelope :=
  { envelope with body }

def withHeaders (envelope : Envelope) (headers : Headers) : Envelope :=
  { envelope with headers }

/-- A copy with another body or other headers, where given; headers given as JSON are validated. -/
def replace (envelope : Envelope) (body : Option Bytes) (headers : Option Json) :
    Checked Envelope :=
  let copy := envelope.withBody (body.getD envelope.body)
  match headers with
  | none => .ok copy
  | some json =>
    (Checked.sorted (Checked.inField "headers" (Field.texts json))).map copy.withHeaders

/-- Envelopes are equal when all they carry is; headers may stand in any order. -/
def agrees (left right : Envelope) : Bool :=
  left.messageId == right.messageId && left.correlationId == right.correlationId &&
    left.sentAt == right.sentAt && left.body == right.body && left.headers.agrees right.headers

/-- What handlers see of an envelope. -/
def context (envelope : Envelope) : Context :=
  ⟨envelope.messageId, envelope.correlationId, envelope.headers⟩

end Envelope

namespace Context

def agrees (left right : Context) : Bool :=
  left.messageId == right.messageId && left.correlationId == right.correlationId &&
    left.headers.agrees right.headers

/-- A context of given fields; its message id may be blank but not empty. -/
def ofFields (messageId correlationId headers : Option Json) : Checked Context :=
  let fields :=
    (Checked.inField "message_id" (Field.required Field.nonEmptyText messageId)).both <|
    (Checked.inField "correlation_id" (Field.optional none Field.textOrNull correlationId)).both <|
    Checked.inField "headers" (Field.required Field.texts headers)
  Checked.sorted (fields.map fun found => ⟨found.1, found.2.1, found.2.2⟩)

end Context
end ClaimCheck
