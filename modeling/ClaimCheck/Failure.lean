import ClaimCheck.Json.Reader
import ClaimCheck.Json.Writer
import ClaimCheck.Store.Error
import ClaimCheck.Text.Utf8
import ClaimCheck.Validation

/-!
Everything that can go wrong, by its cause: misuse by the caller, failures of stores, broken
messages, and errors of collaborators that pass through.
-/
namespace ClaimCheck

/-- Something taken out of, or put into, a store is not what its envelope says. -/
inductive IntegrityError
  | missingReference
  | emptyReference
  | unsupportedEncoding (encoding : Option String)
  | digestMismatch (expected actual : Option String)
  | undecodable
  | other (message : String)
  deriving DecidableEq, Repr

/-- Why a message cannot be turned into bytes, or bytes into a message. -/
inductive SerializationError
  | unwritable (error : Json.WriteError)
  | notText (error : Text.Utf8.DecodeError)
  | malformed (problem : Json.Problem) (place : Json.Place)
  | invalid (errors : List FieldError)
  | mismatch (expected actual : String)
  | other (message : String)
  deriving DecidableEq, Repr

/-- Arguments that no operation accepts. -/
inductive Misuse
  | unreadablePayload
  | negativeSizeHint
  | closedStream
  | noBucket
  | noConnection
  | noOptions
  | noContainer
  | noClient
  | noSerializer
  | noMessage
  | noHandler
  | negativeTimeout
  | timeoutType (typeName : String)
  | unorderedTimeout
  | noReference
  | noEnvelope
  | noStore
  deriving DecidableEq, Repr

inductive Failure
  | store (error : StoreError)
  | integrity (error : IntegrityError)
  | serialization (error : SerializationError)
  | invalid (errors : List FieldError)
  | misuse (error : Misuse)
  | configuration (message : String)
  | infrastructure (message : String)
  | general (message : String)
  | outOfRange
  | hugeInteger (digits : Nat)
  | tooDeep (message : String)
  | cancelled (message : String)
  | fault (fault : Fault)
  /-- The call waits for something that never happens. -/
  | stalled
  deriving DecidableEq, Repr

def IntegrityError.name : IntegrityError → String
  | .missingReference => "MissingPayloadReferenceError"
  | .emptyReference => "EmptyPayloadReferenceError"
  | .unsupportedEncoding _ => "UnsupportedPayloadEncodingError"
  | .digestMismatch _ _ => "PayloadHashMismatchError"
  | .undecodable => "PayloadIntegrityError"
  | .other _ => "PayloadIntegrityError"

def IntegrityError.message : IntegrityError → String
  | .missingReference => "LargePayload: Missing payload reference header."
  | .emptyReference => "Payload store returned an empty reference for an externalized payload."
  | .unsupportedEncoding encoding =>
    let name := Text.orNone encoding
    s!"Unsupported payload encoding '{name}' for external payload resolution."
  | .digestMismatch _ _ => "LargePayload: Payload hash mismatch."
  | .undecodable => "LargePayload: Payload could not be decompressed."
  | .other message => message

/-- The class of the error that a serialization error was raised for. -/
def SerializationError.cause? : SerializationError → Option String
  | .unwritable error =>
    match error with
    | .key _ | .unsupported _ => some "TypeError"
    | _ => some "ValueError"
  | .notText _ => some "UnicodeDecodeError"
  | .malformed _ _ => some "JSONDecodeError"
  | .invalid _ => some "ValidationError"
  | .mismatch _ _ => none
  | .other _ => none

def SerializationError.message : SerializationError → String
  | .unwritable error => error.message
  | .notText error => error.message
  | .malformed problem place => (Json.ReadError.malformed problem place).message
  | .invalid _ => ""
  | .mismatch expected actual => s!"Expected {expected}, got {actual}"
  | .other message => message

/-- Whether an argument has a wrong value, rather than a wrong type or no place in an order. -/
def Misuse.isValue : Misuse → Bool
  | .timeoutType _ | .unorderedTimeout | .noReference | .noEnvelope | .noStore => false
  | _ => true

def Misuse.name (error : Misuse) : String :=
  if error = .unorderedTimeout then "InvalidOperation"
  else if error.isValue then "ValueError" else "TypeError"

def Misuse.message : Misuse → String
  | .unreadablePayload => "Payload stream must be readable."
  | .negativeSizeHint => "Size hint must be greater than or equal to zero."
  | .closedStream => "I/O operation on closed file."
  | .noBucket => "bucket_name must be provided."
  | .noConnection => "connection must be provided."
  | .noOptions => "options must be provided."
  | .noContainer => "container_name must be provided."
  | .noClient => "Either client or connection_string must be provided."
  | .noSerializer => "serializer must be provided."
  | .noMessage => "message must be provided."
  | .noHandler => "handler must be provided."
  | .negativeTimeout => "Timeout must be non-negative or None."
  | .timeoutType typeName => s!"'<' not supported between instances of '{typeName}' and 'int'"
  | .unorderedTimeout => "[<class 'decimal.InvalidOperation'>]"
  | .noReference => "reference must not be None"
  | .noEnvelope => "envelope must not be None"
  | .noStore => "store must not be None"

namespace Failure

/-- A call ends this way when its caller's cancellation signal was seen. -/
def cancelledByCaller : Failure := .cancelled "Operation cancelled by caller."

/-- Records cannot be changed by assignment, whatever the field is. -/
def frozen (field : String) : Failure := .invalid [⟨[field], .frozen⟩]

def name : Failure → String
  | .store error => error.name
  | .integrity error => error.name
  | .serialization _ => "MessagingSerializationError"
  | .invalid _ => "ValidationError"
  | .misuse error => error.name
  | .configuration _ => "MessagingConfigurationError"
  | .infrastructure _ => "InfrastructureError"
  | .general _ => "LiaisonError"
  | .outOfRange => "OverflowError"
  | .hugeInteger _ => "ValueError"
  | .tooDeep _ => "RecursionError"
  | .cancelled _ => "CancelledError"
  | .fault f => f.name
  | .stalled => "stalled"

def message : Failure → String
  | .store error => error.message
  | .integrity error => error.message
  | .serialization error => error.message
  | .invalid _ => ""
  | .misuse error => error.message
  | .configuration message => message
  | .infrastructure message => message
  | .general message => message
  | .outOfRange => "date value out of range"
  | .hugeInteger digits => (Json.ReadError.hugeInteger digits).message
  | .tooDeep message => message
  | .cancelled message => message
  | .fault f => f.message
  | .stalled => ""

/-- Errors about a wrong value, in the wide sense: faulty records and settings are among them. -/
def isValueError : Failure → Bool
  | .misuse error => error.isValue
  | .configuration _ | .invalid _ | .hugeInteger _ => true
  | .fault f => f.family == .value
  | _ => false

/-- Errors that say that a time has elapsed. -/
def isTimeout : Failure → Bool
  | .fault f => f.family == .timeout
  | _ => false

def isCancelled : Failure → Bool
  | .cancelled _ => true
  | _ => false

/-- Families of this library's own errors, the widest first. -/
inductive Family
  | library
  | infrastructure
  | payloadStore
  | payloadIntegrity
  deriving DecidableEq, Repr

def Family.name : Family → String
  | .library => "LiaisonError"
  | .infrastructure => "InfrastructureError"
  | .payloadStore => "PayloadStoreError"
  | .payloadIntegrity => "PayloadIntegrityError"

def families : Failure → List Family
  | .store _ => [.library, .infrastructure, .payloadStore]
  | .integrity _ => [.library, .payloadIntegrity]
  | .serialization _ => [.library, .infrastructure]
  | .infrastructure _ => [.library, .infrastructure]
  | .configuration _ | .general _ => [.library]
  | _ => []

end Failure
end ClaimCheck
