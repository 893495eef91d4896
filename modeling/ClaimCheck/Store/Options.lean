import ClaimCheck.Store.Cloud
import ClaimCheck.Store.Connection

/-! The options of cloud stores as callers give them, checked when a store is set up. -/
namespace ClaimCheck

/-- Options before they are checked. -/
structure CloudOptions.Draft (ρ : Type) where
  container : Option String
  path : Option String
  overwrite : Bool
  emitExpiresMarker : Bool
  supportsConditionalPut : Bool
  metadata : Option (Table Json)
  customize : Option (Customization ρ)

/-- A name without the blanks around it, if any of it is left. -/
def Text.given? (name : Option String) : Option String :=
  (name.map Text.trim).filter fun bare => !bare.isEmpty

namespace CloudOptions

/-- The container must be named; metadata become texts. -/
def ofDraft (unnamed : Misuse) (draft : Draft ρ) : Except Misuse (CloudOptions ρ) :=
  match Text.given? draft.container with
  | none => .error unnamed
  | some container =>
    .ok ⟨container, draft.path, draft.overwrite, draft.emitExpiresMarker,
      draft.supportsConditionalPut, draft.metadata.map Metadata.texts, draft.customize⟩

end CloudOptions

namespace Bucket

/-- A store in a bucket needs a connection and options. -/
def setUp (connection : Option Connection) (options : Option (CloudOptions ρ)) :
    Except Misuse (Connection × CloudOptions ρ) :=
  match connection, options with
  | none, _ => .error .noConnection
  | some _, none => .error .noOptions
  | some connection, some options => .ok (connection, options)

def readOptions (draft : CloudOptions.Draft ρ) : Except Misuse (CloudOptions ρ) :=
  CloudOptions.ofDraft .noBucket draft

end Bucket

namespace Container

/-- Options need a client, or a text that tells how to connect one. -/
def readOptions (hasClient : Bool) (connectionString : Option String)
    (draft : CloudOptions.Draft ρ) : Except Misuse (CloudOptions ρ) := do
  let options ← CloudOptions.ofDraft .noContainer draft
  if hasClient || (Text.given? connectionString).isSome then .ok options else .error .noClient

/-- Close the client of the service, if the store made it itself and has not closed it yet. The
state says whether that is so. -/
def close (closeService : Action ρ Unit) : Action (Bool × ρ) Unit := do
  let (owned, _) ← Action.inspect id
  if owned then
    closeService.on .second
    Action.update fun state => (false, state.2)

end Container
end ClaimCheck
