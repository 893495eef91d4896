import ClaimCheck.Fault

/-!
The closed vocabulary in which every payload store reports failure, whichever service lies behind
it.
-/
namespace ClaimCheck

/-- What kind of failure it is, for callers to branch on. -/
inductive FailureKind
  | notFound
  | alreadyExists
  | conditionalConflict
  | accessDenied
  | referenceInvalid
  | unavailable
  | unclassified
  | notSupported
  deriving DecidableEq, Repr

def FailureKind.word : FailureKind → String
  | .notFound => "not_found"
  | .alreadyExists => "already_exists"
  | .conditionalConflict => "conditional_conflict"
  | .accessDenied => "access_denied"
  | .referenceInvalid => "reference_invalid"
  | .unavailable => "unavailable"
  | .unclassified => "unclassified"
  | .notSupported => "not_supported"

def FailureKind.all : List FailureKind :=
  [.notFound, .alreadyExists, .conditionalConflict, .accessDenied, .referenceInvalid, .unavailable,
    .unclassified, .notSupported]

/-- Trying again can help only when the store was unavailable. -/
def FailureKind.isRetryable (kind : FailureKind) : Bool :=
  kind == .unavailable

/-- What a store error was raised for: an error of a collaborator, or a call that was cancelled. -/
inductive Cause
  | fault (fault : Fault)
  | cancelled (message : String)
  deriving DecidableEq, Repr

/-- A failure of a payload store. One that is `general` has no class of its own and counts as
unclassified. -/
structure StoreError where
  kind : FailureKind
  general : Bool
  message : String
  reference : Option String
  cause : Option Cause
  deriving DecidableEq, Repr

namespace StoreError

def name (error : StoreError) : String :=
  if error.general then "PayloadStoreError"
  else match error.kind with
    | .notFound => "PayloadNotFoundError"
    | .alreadyExists => "PayloadAlreadyExistsError"
    | .conditionalConflict => "PayloadConditionalConflictError"
    | .accessDenied => "PayloadAccessDeniedError"
    | .referenceInvalid => "PayloadReferenceInvalidError"
    | .unavailable => "PayloadStoreUnavailableError"
    | .unclassified => "PayloadStoreUnclassifiedError"
    | .notSupported => "ConditionalPutNotSupportedError"

def isRetryable (error : StoreError) : Bool :=
  error.kind.isRetryable

def withCause (error : StoreError) (cause : Cause) : StoreError :=
  { error with cause := some cause }

private def wording (message : Option String) (default : String) : String :=
  match message with
  | some message => if message.isEmpty then default else message
  | none => default

/-- The kinds that concern one reference word themselves if they are given no message. -/
def notFound (reference : Option String) (message : Option String := none) : StoreError :=
  let name := Text.orNone reference
  ⟨.notFound, false, wording message s!"Payload reference '{name}' was not found.", reference,
    none⟩

def alreadyExists (reference : Option String) (message : Option String := none) : StoreError :=
  let name := Text.orNone reference
  ⟨.alreadyExists, false, wording message s!"Payload reference '{name}' already exists.", reference,
    none⟩

def conditionalConflict (reference : Option String) (message : Option String := none) :
    StoreError :=
  let name := Text.orNone reference
  ⟨.conditionalConflict, false,
    wording message s!"Conditional write conflict for payload reference '{name}'.", reference, none⟩

def accessDenied (reference : Option String) (message : Option String := none) : StoreError :=
  let name := Text.orNone reference
  ⟨.accessDenied, false, wording message s!"Access to payload reference '{name}' was denied.",
    reference, none⟩

def referenceInvalid (message : String) (reference : Option String := none) : StoreError :=
  ⟨.referenceInvalid, false, message, reference, none⟩

def unavailable (message : String := "Payload store is unavailable.")
    (reference : Option String := none) : StoreError :=
  ⟨.unavailable, false, message, reference, none⟩

def unclassified (message : String) (reference : Option String := none) : StoreError :=
  ⟨.unclassified, false, message, reference, none⟩

def plain (message : String) (reference : Option String := none) : StoreError :=
  ⟨.unclassified, true, message, reference, none⟩

def conditionalPutNotSupported (message : Option String := none) : StoreError :=
  ⟨.notSupported, false, wording message
    "Conditional PUT is required when overwrite is disabled, but this store configuration has supports_conditional_put=False.",
    none, none⟩

end StoreError
end ClaimCheck
