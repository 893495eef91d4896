import ClaimCheck.Action
import ClaimCheck.Json.Display
import ClaimCheck.Payload.Source
import ClaimCheck.Table

/-!
The request of an upload: parameters, metadata and tags, built in two phases. What a store requires
is set before and after the caller's changes, so that they can only add to it.
-/
namespace ClaimCheck

/-- An argument of a call of a client. -/
inductive Argument
  | json (value : Json)
  | payload (source : Source)
  | contentType (value : String)
  /-- The condition that nothing is stored there yet. -/
  | ifMissing

/-- A length, as far as it is known. -/
def Argument.ofLength (length : Option Int) : Argument :=
  .json ((length.map Json.int).getD .null)

abbrev Arguments := Table Argument

/-- The metadata key, and the tag, that hold the time of expiry. -/
def expiresMarkerKey : String := "liaison-expires-at"

def defaultContentType : String := "application/octet-stream"

structure UploadRequest where
  params : Arguments
  metadata : Table Json
  tags : Table Json

/-- A change that a caller makes to a request. -/
inductive Edit
  | withParam (name : String) (value : Argument)
  | withoutParam (name : String)
  | withMetadata (name : String) (value : Json)
  | withoutMetadata (name : String)
  | withTag (name : String) (value : Json)
  | withoutTag (name : String)

/-- What a store requires of a request. -/
structure Requirement where
  params : Arguments
  metadata : Table Json
  expiresMarker : Option String
  tagMarker : Bool

namespace UploadRequest

def empty : UploadRequest := ⟨∅, ∅, ∅⟩

def apply (request : UploadRequest) : Edit → UploadRequest
  | .withParam name value => { request with params := request.params.set name value }
  | .withoutParam name => { request with params := request.params.erase name }
  | .withMetadata name value => { request with metadata := request.metadata.set name value }
  | .withoutMetadata name => { request with metadata := request.metadata.erase name }
  | .withTag name value => { request with tags := request.tags.set name value }
  | .withoutTag name => { request with tags := request.tags.erase name }

/-- Set what is required over whatever is there. -/
def enforce (request : UploadRequest) (required : Requirement) : UploadRequest :=
  let params := request.params.merge required.params
  let metadata := request.metadata.merge required.metadata
  match required.expiresMarker with
  | none => { request with params, metadata }
  | some marker =>
    { params, metadata := metadata.set expiresMarkerKey (.text marker)
      tags := if required.tagMarker then request.tags.set expiresMarkerKey (.text marker)
        else request.tags }

end UploadRequest

/-- A caller's hand in a request. -/
abbrev Customization (ρ : Type) := UploadRequest → Action ρ UploadRequest

/-- Set what is required, let the caller change it, and set it again. -/
def UploadRequest.build (required : Requirement) (customize : Option (Customization ρ)) :
    Action ρ UploadRequest := do
  let seeded := UploadRequest.empty.enforce required
  let customized ← match customize with
    | some change => change seeded
    | none => pure seeded
  return customized.enforce required

namespace Metadata

/-- Metadata given in any form, as texts. -/
def texts (given : Table Json) : Table String :=
  given.map Json.display

/-- What every upload carries, with the time of expiry over it. -/
def required (fixed : Option (Table String)) (expiresMarker : Option String) : Table String :=
  let table := fixed.getD ∅
  match expiresMarker with
  | some marker => table.set expiresMarkerKey marker
  | none => table

end Metadata
end ClaimCheck
