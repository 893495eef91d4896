import ClaimCheck.Rehearsal.Report
import ClaimCheck.Transport.Packing

/-!
Rehearsals of records: envelopes and contexts are made, copied, compared and shown. Registers hold
the records in the order in which they were made.
-/
namespace ClaimCheck.Rehearsal

inductive Record
  | envelope (envelope : Envelope)
  | context (context : Context)

inductive RecordStep
  | envelope (draft : Envelope.Draft)
  | context (messageId correlationId headers : Option Json)
  | replace (register : Nat) (body : Option Bytes) (headers : Option Json)
  | contextOf (register : Nat)
  /-- Change the table of headers that a record was made from. -/
  | changeSource
  | changeHeaders (register : Nat) (name value : String)
  | assign (field : String)
  | equal (register other : Nat)
  | show (register : Nat)

namespace Record

def answer : Record → Answer
  | .envelope e => .envelope e
  | .context c => .context c

/-- An envelope never agrees with a context. -/
def agrees : Record → Record → Bool
  | .envelope left, .envelope right => left.agrees right
  | .context left, .context right => left.agrees right
  | _, _ => false

def setHeader (record : Record) (name value : String) : Record :=
  match record with
  | .envelope e => .envelope (e.withHeaders (e.headers.set name value))
  | .context c => .context { c with headers := c.headers.set name value }

end Record

namespace RecordRehearsal

abbrev Registers := List Record

def keep (record : Record) : Action Registers Unit :=
  Action.update (· ++ [record])

def register (number : Nat) : Action Registers Record := do
  match (← Action.inspect id)[number]? with
  | some record => return record
  | none => throw .stalled

def envelopeIn (number : Nat) : Action Registers Envelope := do
  match ← register number with
  | .envelope envelope => return envelope
  | .context _ => throw .stalled

def perform : RecordStep → Action Registers Answer
  | .envelope draft => do
    let envelope ← Envelope.make draft
    keep (.envelope envelope)
    return .envelope envelope
  | .context messageId correlationId headers => do
    let context ← Action.ofExcept
      ((Context.ofFields messageId correlationId headers).mapError .invalid)
    keep (.context context)
    return .context context
  | .replace number body headers => do
    let envelope ← envelopeIn number
    let headers ← Action.ofExcept (headers.mapM Mapping.ofJson)
    let copy ← Action.ofExcept ((envelope.replace body headers).mapError .invalid)
    keep (.envelope copy)
    return .replaced copy (copy.agrees envelope)
  | .contextOf number => do
    let envelope ← envelopeIn number
    keep (.context envelope.context)
    return .context envelope.context
  | .changeSource => return .done
  | .changeHeaders number name value => do
    let record ← register number
    Action.update fun registers => registers.set number (record.setHeader name value)
    return .done
  | .assign field => throw (.frozen field)
  | .equal number other => do
    let left ← register number
    let right ← register other
    return .truth (left.agrees right)
  | .show number => Record.answer <$> register number

def performAll : List RecordStep → Scene Registers → List Report
  | [], _ => []
  | step :: rest, scene =>
    let (result, after) := outcome (perform step) scene
    .bare result :: performAll rest after

def run (steps : List RecordStep) : List Report :=
  performAll steps (opening [] [])

end RecordRehearsal

/-- A rehearsal of packing: the reports of messages packed one after the other. -/
def packAll : List Outgoing → Scene Unit → List Report
  | [], _ => []
  | outgoing :: rest, scene =>
    let (result, after) := outcome (Answer.envelope <$> outgoing.pack) scene
    .bare result :: packAll rest after

/-- Nothing can be packed without a serializer. -/
def packing (ids : List String) (hasSerializer : Bool) (messages : List Outgoing) : List Report :=
  if hasSerializer then .bare (.ok .done) :: packAll messages (opening ids ())
  else [.bare (.error (.misuse .noSerializer))]

end ClaimCheck.Rehearsal
