import ClaimCheck.Store.Cloud
import ClaimCheck.Text.Form

/-! Stores in a bucket of an object service. -/
namespace ClaimCheck.Bucket

def demand (bucket key : String) (overwrite : Bool) (body : Source) (length : Option Int) :
    Arguments :=
  let arguments : Arguments := .ofList
    [("Bucket", .json (.text bucket)), ("Key", .json (.text key)), ("Body", .payload body),
      ("ContentType", .json (.text defaultContentType)), ("ContentLength", .ofLength length)]
  if overwrite then arguments else arguments.set "IfNoneMatch" (.json (.text "*"))

/-- Metadata and tags are left out when there are none; tags travel as a form. -/
def arguments (request : UploadRequest) : Arguments :=
  let table := if request.metadata.isEmpty then request.params
    else request.params.set "Metadata" (.json (.object request.metadata.entries))
  if request.tags.isEmpty then table
  else
    table.set "Tagging" (.json (.text (Text.Form.encode (request.tags.map Json.display).entries)))

def address (bucket key : String) : Arguments :=
  .ofList [("Bucket", .json (.text bucket)), ("Key", .json (.text key))]

def isDenied (status : Option Int) (code : String) : Bool :=
  isAccessDenied status || code == "AccessDenied"

def isBucketMissing (code : String) : Bool :=
  code == "NoSuchBucket"

def isKeyMissing (code : String) : Bool :=
  code == "NoSuchKey" || code == "NotFound" || code == "404"

/-- What an answer of the service means for an upload. -/
def uploadMeaning (conditional : Bool) (status : Option Int) (code : String) : Meaning :=
  if isDenied status code then .accessDenied
  else if conditional && (status == some 412 || code == "PreconditionFailed") then .alreadyExists
  else if conditional && (status == some 409 || code == "ConditionalRequestConflict") then
    .conditionalConflict
  else if isTransient status then .unavailable
  else if status == some 404 || isBucketMissing code then .containerMissing
  else .unclassified

def downloadMeaning (status : Option Int) (code : String) : Meaning :=
  if isBucketMissing code then .containerMissing
  else if status == some 404 || isKeyMissing code then .notFound
  else if isDenied status code then .accessDenied
  else if isTransient status then .unavailable
  else .unclassified

def deleteMeaning (status : Option Int) (code : String) : Meaning :=
  if isDenied status code then .accessDenied
  else if status == some 404 || isBucketMissing code then .containerMissing
  else if isTransient status then .unavailable
  else .unclassified

/-- An answer has a meaning for each purpose but reading, where none is expected; a failed
connection means that the service is unavailable, and so does, while reading, a body that ends too
soon. -/
def meaning (purpose : Purpose) (conditional : Bool) (fault : Fault) : Meaning :=
  match fault.family with
  | .objectResponse status code =>
    match purpose with
    | .uploading => uploadMeaning conditional status code
    | .downloading => downloadMeaning status code
    | .deleting => deleteMeaning status code
    | .reading => .foreign
  | .objectUnread name message =>
    if purpose = .reading then .foreign else .unread (.ofGeneral name message)
  | .objectTransport | .system | .timeout => .unavailable
  | .objectTruncated => if purpose = .reading then .unavailable else .unclassified
  | .objectClient => .unclassified
  | _ => .foreign

def describe (fault : Fault) : String :=
  match fault.family with
  | .objectResponse status code =>
    let status := Text.orNone (status.map toString)
    s!"status={status} code={code}"
  | _ => fault.name

def service : Service where
  title := "S3"
  shortTitle := "S3"
  containerTitle := "S3 bucket"
  needsLength := true
  demand := demand
  arguments := arguments
  tagMarker := true
  downloadArguments := address
  deleteArguments := address
  meaning := meaning
  describe := describe

end ClaimCheck.Bucket
