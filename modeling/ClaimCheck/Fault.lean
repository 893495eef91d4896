import ClaimCheck.Json.Basic
import ClaimCheck.Number.Whole
import ClaimCheck.Text.Quoted

/-!
Errors that collaborators raise: the clients of the cloud services, the operating system, and any
code that an application supplies.
-/
namespace ClaimCheck

/-- The class of an error, as far as any decision depends on it. -/
inductive Fault.Family
  /-- An object service answered with an error. -/
  | objectResponse (status : Option Int) (code : String)
  /-- An object service answered with an error, and reading its status ends in the named one. -/
  | objectUnread (name message : String)
  /-- The connection to an object service failed. -/
  | objectTransport
  /-- The body of an object ended before its time. -/
  | objectTruncated
  /-- The client of an object service failed in any other way. -/
  | objectClient
  /-- A blob service answered with an error. -/
  | blobResponse (status : Option Int) (code : Option String)
  /-- The connection to a blob service failed. -/
  | blobTransport
  /-- The client of a blob service failed in any other way. -/
  | blobClient (status : Option Int) (code : Option String)
  | system
  | timeout
  | value
  | other
  deriving DecidableEq, Repr

structure Fault where
  name : String
  family : Fault.Family
  message : String
  deriving DecidableEq, Repr

namespace Fault

/-- The status of an answer as an integer, or the name and the message of the error that reading it
ends in. A fraction is cut off. -/
def readStatus : Json → Except (String × String) Int
  | .int n => .ok n
  | .bool b => .ok (if b then 1 else 0)
  | .float .nan => .error ("ValueError", "cannot convert float NaN to integer")
  | .float x =>
    match x.quotient? with
    | some q => .ok (q.1.tdiv q.2)
    | none => .error ("OverflowError", "cannot convert float infinity to integer")
  | .text s =>
    match Whole.ofScript? s with
    | some n => .ok n
    | none =>
      let shown := Text.Quoted.encode s
      .error ("ValueError", s!"invalid literal for int() with base 10: {shown}")
  | json =>
    .error ("TypeError",
      s!"int() argument must be a string, a bytes-like object or a real number, not '{json.typeName}'")

/-- What an object service answers to a call that it does not carry out. -/
structure Answer where
  operation : String
  code : Option String
  message : Option String
  /-- How often the client had tried again, if it was to try no more. -/
  retries : Option String

/-- An answer without a wording of its own, to a call that is not tried again. -/
def Answer.bare (operation code : String) : Answer := ⟨operation, some code, none, none⟩

/-- The wording of the service's client. -/
def Answer.text (answer : Answer) : String :=
  let code := answer.code.getD "Unknown"
  let message := answer.message.getD "Unknown"
  let tried := (answer.retries.map fun count => s!" (reached max retries: {count})").getD ""
  s!"An error occurred ({code}) when calling the {answer.operation} operation{tried}: {message}"

private def answered (family : Family) (answer : Answer) : Fault :=
  ⟨"ClientError", family, answer.text⟩

/-- An answer of the given status. A code that is missing decides nothing. -/
def ofResponse (answer : Answer) (status : Option Int) : Fault :=
  answered (.objectResponse status (answer.code.getD "")) answer

/-- An answer whose status is yet to be read. -/
def ofAnswer (answer : Answer) (status : Option Json) : Fault :=
  match status with
  | none => ofResponse answer none
  | some json =>
    match readStatus json with
    | .ok n => ofResponse answer (some n)
    | .error problem => answered (.objectUnread problem.1 problem.2) answer

/-- The errors of an object service's client, without those that are answers of the service. -/
def objectFamilies : List (String × Family) :=
  ["HTTPClientError", "ConnectionError", "EndpointConnectionError", "ConnectTimeoutError",
    "ReadTimeoutError", "ConnectionClosedError", "ProxyConnectionError", "SSLError",
    "ResponseStreamingError"].map (·, .objectTransport) ++
  ("IncompleteReadError", .objectTruncated) ::
  ["NoCredentialsError", "NoRegionError", "ParamValidationError", "PartialCredentialsError",
    "FlexibleChecksumError", "EndpointProviderError", "BotoCoreError"].map (·, .objectClient)

/-- The errors of an object service's client that word themselves. -/
def objectMessages : List (String × String) :=
  [("NoRegionError", "You must specify a region."),
    ("NoCredentialsError", "Unable to locate credentials"),
    ("BotoCoreError", "An unspecified error occurred")]

def ofObjectClient? (name message : String) : Option Fault :=
  (objectFamilies.lookup name).map fun family =>
    ⟨name, family, (objectMessages.lookup name).getD message⟩

def blobResponses : List String :=
  ["HttpResponseError", "ClientAuthenticationError", "DecodeError", "IncompleteReadError",
    "ResourceExistsError", "ResourceNotFoundError", "ResourceModifiedError",
    "ResourceNotModifiedError"]

def blobTransports : List String :=
  ["ServiceRequestError", "ServiceResponseError", "ServiceRequestTimeoutError",
    "ServiceResponseTimeoutError"]

def ofBlobClient (name message : String) (status : Option Int) (code : Option String) : Fault :=
  if blobResponses.contains name then ⟨name, .blobResponse status code, message⟩
  else if blobTransports.contains name then ⟨name, .blobTransport, message⟩
  else ⟨name, .blobClient status code, message⟩

/-- The errors that any code may raise; those not named here are of no special family. -/
def generalFamilies : List (String × Family) :=
  [("OSError", .system), ("ConnectionResetError", .system), ("PermissionError", .system),
    ("TimeoutError", .timeout), ("ValueError", .value), ("UnicodeError", .value)]

/-- A missing key is shown as it was looked up, in quotes. -/
def ofGeneral (name message : String) : Fault :=
  let shown := if name = "KeyError" && !message.isEmpty then Text.Quoted.encode message else message
  ⟨name, (generalFamilies.lookup name).getD .other, shown⟩

end Fault
end ClaimCheck
