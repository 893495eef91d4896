import ClaimCheck.Failure
import ClaimCheck.Json.Display

/-!
Errors of this library's own, built by the names of their classes from arguments. A class either
takes any arguments by position, or says what it takes and refuses everything else.
-/
namespace ClaimCheck

/-- What an error is built from; one with a default may be left out. -/
structure Parameter where
  name : String
  default : Option Json := none

/-- What the errors of a class are built from, and the class that says so. -/
structure Initializer where
  className : String
  parameters : List Parameter

/-- Arguments by position and by name. -/
structure Failure.Arguments where
  positional : List Json
  named : List (String × Json)

namespace Initializer

private def position? (initializer : Initializer) (name : String) : Option Nat :=
  initializer.parameters.findIdx? (·.name == name)

/-- A named argument must have the name of a parameter that none by position has taken. -/
private def misnamed? (initializer : Initializer) (arguments : Failure.Arguments) :
    Option String :=
  arguments.named.findSome? fun argument =>
    match initializer.position? argument.1 with
    | none => some s!"got an unexpected keyword argument '{argument.1}'"
    | some position =>
      if position < arguments.positional.length then
        some s!"got multiple values for argument '{argument.1}'"
      else none

/-- There may be as many arguments as parameters; the error under construction counts as one. -/
private def surplus? (initializer : Initializer) (arguments : Failure.Arguments) :
    Option String :=
  let most := initializer.parameters.length + 1
  let least := (initializer.parameters.filter (·.default.isNone)).length + 1
  let given := arguments.positional.length + 1
  let range := if least = most then s!"{most}" else s!"from {least} to {most}"
  let noun := if most = 1 then "argument" else "arguments"
  if most < given then some s!"takes {range} positional {noun} but {given} were given" else none

private def values (initializer : Initializer) (arguments : Failure.Arguments) :
    List (Parameter × Option Json) :=
  initializer.parameters.zipIdx.map fun entry =>
    let given := arguments.positional[entry.2]?.or (arguments.named.lookup entry.1.name)
    (entry.1, given.or entry.1.default)

private def missing? (found : List (Parameter × Option Json)) : Option String :=
  match (found.filter (·.2.isNone)).map fun entry => s!"'{entry.1.name}'" with
  | [] => none
  | [name] => some s!"missing 1 required positional argument: {name}"
  | names =>
    let listed := " and ".intercalate names
    some s!"missing {names.length} required positional arguments: {listed}"

/-- The values of the parameters, in their order. -/
def bind (initializer : Initializer) (arguments : Failure.Arguments) :
    Except Fault (List Json) :=
  let found := initializer.values arguments
  let problem? := (initializer.misnamed? arguments).or <|
    (initializer.surplus? arguments).or (missing? found)
  match problem? with
  | some problem => .error (.ofGeneral "TypeError" s!"{initializer.className}.__init__() {problem}")
  | none => .ok (found.filterMap (·.2))

end Initializer

namespace Failure

private def nullable (name : String) : Parameter := ⟨name, some .null⟩

private def required (name : String) : Parameter := ⟨name, none⟩

private def referenceFirst : List String :=
  ["PayloadNotFoundError", "PayloadAlreadyExistsError", "PayloadConditionalConflictError",
    "PayloadAccessDeniedError"]

private def messageFirst : List String :=
  ["PayloadStoreError", "PayloadReferenceInvalidError", "PayloadStoreUnclassifiedError"]

private def parameters? (className : String) : Option Initializer :=
  if referenceFirst.contains className then
    some ⟨className, [required "reference", nullable "message"]⟩
  else if messageFirst.contains className then
    some ⟨"PayloadStoreError", [required "message", nullable "reference"]⟩
  else
    (⟨className, ·⟩) <$> match className with
    | "PayloadStoreUnavailableError" =>
      some [⟨"message", some (.text StoreError.unavailable.message)⟩, nullable "reference"]
    | "ConditionalPutNotSupportedError" => some [nullable "message"]
    | "MissingPayloadReferenceError" | "EmptyPayloadReferenceError" => some []
    | "UnsupportedPayloadEncodingError" => some [required "encoding"]
    | "PayloadHashMismatchError" => some [required "expected", required "actual"]
    | _ => none

private def textOrNull (json : Json) : Option String :=
  match json with
  | .null => none
  | _ => some json.display

private def wording? (json : Json) : Option String :=
  if json.isNothing then none else some json.display

/-- The error of a class that says what it takes, of the values of its parameters. -/
private def ofValues? (className : String) (values : List Json) : Option Failure :=
  match className, values with
  | "MissingPayloadReferenceError", [] => some (.integrity .missingReference)
  | "EmptyPayloadReferenceError", [] => some (.integrity .emptyReference)
  | "ConditionalPutNotSupportedError", [message] =>
    some (.store (.conditionalPutNotSupported (wording? message)))
  | "UnsupportedPayloadEncodingError", [encoding] =>
    some (.integrity (.unsupportedEncoding (textOrNull encoding)))
  | "PayloadHashMismatchError", [expected, actual] =>
    some (.integrity (.digestMismatch (textOrNull expected) (textOrNull actual)))
  | "PayloadNotFoundError", [reference, message] =>
    some (.store (.notFound (textOrNull reference) (wording? message)))
  | "PayloadAlreadyExistsError", [reference, message] =>
    some (.store (.alreadyExists (textOrNull reference) (wording? message)))
  | "PayloadConditionalConflictError", [reference, message] =>
    some (.store (.conditionalConflict (textOrNull reference) (wording? message)))
  | "PayloadAccessDeniedError", [reference, message] =>
    some (.store (.accessDenied (textOrNull reference) (wording? message)))
  | "PayloadStoreError", [message, reference] =>
    some (.store (.plain message.display (textOrNull reference)))
  | "PayloadReferenceInvalidError", [message, reference] =>
    some (.store (.referenceInvalid message.display (textOrNull reference)))
  | "PayloadStoreUnclassifiedError", [message, reference] =>
    some (.store (.unclassified message.display (textOrNull reference)))
  | "PayloadStoreUnavailableError", [message, reference] =>
    some (.store (.unavailable message.display (textOrNull reference)))
  | _, _ => none

/-- The message of an error that takes any arguments: one is its own text, and several are shown
together. -/
def looseMessage (arguments : List Json) : String :=
  match arguments with
  | [] => ""
  | [argument] => argument.display
  | _ => "(" ++ ", ".intercalate (arguments.map Json.inner) ++ ")"

private def ofMessage? (className message : String) : Option Failure :=
  match className with
  | "PayloadIntegrityError" => some (.integrity (.other message))
  | "MessagingSerializationError" => some (.serialization (.other message))
  | "MessagingConfigurationError" => some (.configuration message)
  | "InfrastructureError" => some (.infrastructure message)
  | "LiaisonError" => some (.general message)
  | _ => none

/-- The error of a class of this library's own, or the one that its construction ends in. -/
def ofClass? (className : String) (arguments : Arguments) : Option (Except Fault Failure) :=
  match parameters? className with
  | some initializer =>
    match initializer.bind arguments with
    | .error problem => some (.error problem)
    | .ok values => (ofValues? className values).map .ok
  | none =>
    (ofMessage? className (looseMessage arguments.positional)).map fun failure =>
      if arguments.named.isEmpty then .ok failure
      else .error (.ofGeneral "TypeError" s!"{className}() takes no keyword arguments")

end Failure
end ClaimCheck
