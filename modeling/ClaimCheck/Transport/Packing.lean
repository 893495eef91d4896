import ClaimCheck.Action
import ClaimCheck.Envelope
import ClaimCheck.Mapping
import ClaimCheck.Message.Serializer

/-! Messages packed into fresh envelopes. -/
namespace ClaimCheck

/-- What an application is told when no envelope comes of a draft. -/
def Envelope.DraftError.failure : Envelope.DraftError → Failure
  | .invalid errors => .invalid errors
  | .outOfRange => .outOfRange

/-- An envelope of a draft, at the present. -/
def Envelope.make (draft : Envelope.Draft) : Action ρ Envelope := do
  let now ← Action.now
  Action.ofExcept ((Envelope.ofDraft now draft).mapError Envelope.DraftError.failure)

/-- A message to be sent, with the headers and the correlation that go with it. -/
structure Outgoing where
  message : Value
  headers : Option Json
  correlationId : Option Json
  sentAt : Option Moment

namespace Outgoing

def ofMessage (message : Value) : Outgoing := ⟨message, none, none, none⟩

/-- No headers at all, however they are left out. -/
def givenHeaders (outgoing : Outgoing) : Json :=
  match outgoing.headers with
  | none => .object []
  | some headers => if headers.isNothing then .object [] else headers

/-- The identifier is taken before the message is serialized, and both before anything is checked.
-/
def pack (outgoing : Outgoing) : Action ρ Envelope := do
  let id ← Action.freshMessageId
  let body ← Action.ofExcept (Message.serialize outgoing.message)
  let headers ← Action.ofExcept (Mapping.ofJson outgoing.givenHeaders)
  let sentAt := match outgoing.sentAt with
    | some moment => .typed moment
    | none => .absent
  Envelope.make ⟨some (.text id), outgoing.correlationId, sentAt, .typed body, some headers⟩

end Outgoing
end ClaimCheck
