import ClaimCheck.Store.Cloud

/-! Stores in a container of a blob service. -/
namespace ClaimCheck.Container

def demand (_container _key : String) (overwrite : Bool) (body : Source) (length : Option Int) :
    Arguments :=
  let arguments : Arguments := .ofList
    [("data", .payload body), ("length", .ofLength length), ("overwrite", .json (.bool overwrite)),
      ("content_settings", .contentType defaultContentType)]
  if overwrite then arguments else arguments.set "match_condition" .ifMissing

/-- Metadata and tags are left out when there are none. -/
def arguments (request : UploadRequest) : Arguments :=
  let table := if request.metadata.isEmpty then request.params
    else request.params.set "metadata" (.json (.object request.metadata.entries))
  if request.tags.isEmpty then table
  else table.set "tags" (.json (.object request.tags.entries))

def isContainerMissing (code : Option String) : Bool :=
  code == some "ContainerNotFound"

/-- What an answer of the service means for an upload. -/
def uploadMeaning (conditional : Bool) (status : Option Int) (code : Option String) : Meaning :=
  if isAccessDenied status then .accessDenied
  else if conditional && (status == some 412 ||
      (status == some 409 && code == some "BlobAlreadyExists")) then .alreadyExists
  else if conditional && status == some 409 then .conditionalConflict
  else if status == some 404 then .containerMissing
  else if isTransient status then .unavailable
  else .unclassified

def downloadMeaning (status : Option Int) (code : Option String) : Meaning :=
  if status == some 404 then if isContainerMissing code then .containerMissing else .notFound
  else if isAccessDenied status then .accessDenied
  else if isTransient status then .unavailable
  else .unclassified

/-- A blob that is not there needs no deleting. -/
def deleteMeaning (status : Option Int) (code : Option String) : Meaning :=
  if status == some 404 && !isContainerMissing code then .alreadyGone
  else if isAccessDenied status then .accessDenied
  else if status == some 404 then .containerMissing
  else if isTransient status then .unavailable
  else .unclassified

/-- While reading, every error of the client means that the service is unavailable. -/
def meaning (purpose : Purpose) (conditional : Bool) (fault : Fault) : Meaning :=
  match fault.family with
  | .blobResponse status code =>
    match purpose with
    | .uploading => uploadMeaning conditional status code
    | .downloading => downloadMeaning status code
    | .deleting => deleteMeaning status code
    | .reading => .unavailable
  | .blobTransport | .system | .timeout => .unavailable
  | .blobClient _ _ => if purpose = .reading then .unavailable else .unclassified
  | _ => .foreign

def describe (fault : Fault) : String :=
  let (status, code) := match fault.family with
    | .blobResponse status code | .blobClient status code => (status, code)
    | _ => (none, none)
  let status := Text.orNone (status.map toString)
  let code := Text.orNone code
  s!"{fault.name} status={status} code={code}"

def service : Service where
  title := "Azure Blob Storage"
  shortTitle := "Azure Blob"
  containerTitle := "Blob container"
  needsLength := false
  demand := demand
  arguments := arguments
  tagMarker := false
  downloadArguments := fun _ _ => ∅
  deleteArguments := fun _ _ => .ofList [("delete_snapshots", .json (.text "include"))]
  meaning := meaning
  describe := describe

end ClaimCheck.Container
