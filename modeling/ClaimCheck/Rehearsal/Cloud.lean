import ClaimCheck.Rehearsal.Act
import ClaimCheck.Store.Cloud

/-!
Cloud clients on the stage: one map from keys to bytes, in front of which every call is noted and
plays the act of its step. A put that is conditional fails where something is stored already.
-/
namespace ClaimCheck.Rehearsal

/-- A body opened by a download. It keeps the script and the signal of that step. -/
structure Body where
  rest : Bytes
  reads : Nat
  script : BodyScript
  signal : Option Signal

namespace CloudKind

def payloadName : CloudKind → String
  | .bucket => "Body"
  | .container => "data"

/-- Whether a put must not replace anything. -/
def isConditional (kind : CloudKind) (arguments : Arguments) : Bool :=
  match kind with
  | .bucket => match arguments.get? "IfNoneMatch" with
    | some (.json (.text "*")) => true
    | _ => false
  | .container => match arguments.get? "match_condition" with
    | some .ifMissing => true
    | _ => false

def occupied : CloudKind → Fault
  | .bucket => .ofResponse (.bare "PutObject" "PreconditionFailed") (some 412)
  | .container => .ofBlobClient "ResourceExistsError" "" (some 409) (some "BlobAlreadyExists")

def missing : CloudKind → Fault
  | .bucket => .ofResponse (.bare "GetObject" "NoSuchKey") (some 404)
  | .container => .ofBlobClient "ResourceNotFoundError" "" (some 404) (some "BlobNotFound")

end CloudKind

/-- The bytes of a payload argument. -/
def payloadOf (arguments : Arguments) (name : String) : Bytes :=
  match arguments.get? name with
  | some (.payload source) => source.remaining
  | _ => []

def putObject (kind : CloudKind) (key : String) (arguments : Arguments) : Action Stage Unit := do
  let stage ← Action.inspect id
  if kind.isConditional arguments && stage.objects.contains key then throw (.fault kind.occupied)
  Action.update fun stage =>
    { stage with objects := stage.objects.set key (payloadOf arguments kind.payloadName) }

def getObject (kind : CloudKind) (key : String) : Action Stage Body := do
  let stage ← Action.inspect id
  match stage.objects.get? key with
  | some bytes => return ⟨bytes, 0, stage.script.body, stage.signal⟩
  | none => throw (.fault kind.missing)

/-- Deleting what is not there is an error for containers only. -/
def deleteObject (kind : CloudKind) (key : String) : Action Stage Unit := do
  let stage ← Action.inspect id
  if kind = .container && !stage.objects.contains key then throw (.fault kind.missing)
  Action.update fun stage => { stage with objects := stage.objects.erase key }

namespace Body

/-- What a read gives, and the body after it. Only a read of given size is cut to a chunk. -/
def take (body : Body) (size : Option Nat) : Bytes × Body :=
  match size with
  | none => (body.rest, { body with rest := [] })
  | some size =>
    let size := min size (body.script.chunk.getD size)
    (body.rest.take size, { body with rest := body.rest.drop size })

private def give (size : Option Nat) : Action (Body × Stage) Bytes := do
  let (body, _) ← Action.inspect id
  let (bytes, body) := body.take size
  Action.update fun state => (body, state.2)
  return bytes

def read (kind : CloudKind) (size : Option Nat) : Call (Body × Stage) Bytes :=
  Call.after
    (do
      (Stage.note (.bodyRead kind size)).on .second
      Action.update fun state => ({ state.1 with reads := state.1.reads + 1 }, state.2))
    (callBy fun state =>
      let body := state.1
      let act := if body.reads = body.script.turn then body.script.act else .plain
      act.call .second body.signal (give size))

def close (kind : CloudKind) : Action (Body × Stage) Unit := do
  let (body, _) ← Action.inspect id
  if kind = .bucket then
    (Stage.note .bodyClosed).on .second
    if body.script.closesLater then (Stage.note .bodyClosedLater).on .second

end Body

/-- Note a request, play the act of the step, and have the effect. -/
def request (kind : CloudKind) (operation : Operation) (key : String) (arguments : Arguments)
    (effect : Action Stage α) : Call Stage α :=
  Call.after (Stage.note (.request kind operation key arguments)) (playScript effect)

/-- How the stage makes clients, and enters and leaves their contexts. -/
def maker : Connection.Maker Stage where
  create settings := do
    Stage.note (.clientMade settings)
    Stage.failBy Script.making
  enter _ := do
    Stage.note .clientEntered
    Stage.failBy Script.entering
  exit _ := do
    Stage.note .clientLeft
    Stage.failBy Script.leaving

/-- A bucket's client is the one of a connection, which is opened when it is first needed. -/
def client (kind : CloudKind) : Client (Connection × Stage) Body where
  acquire := match kind with
    | .bucket => do let _ ← Connection.getClient maker
    | .container => return ()
  put key arguments := (request kind .put key arguments (putObject kind key arguments)).on .second
  get key arguments := (request kind .get key arguments (getObject kind key)).on .second
  delete key arguments := (request kind .delete key arguments (deleteObject kind key)).on .second
  read size := (Body.read kind size).on Part.second.beside
  close := (Body.close kind).on Part.second.beside
  pieces body := body.rest.length

/-- A probe of a bucket. -/
def probe (bucket : String) : Call Stage Unit :=
  request .bucket .probe bucket (.ofList [("Bucket", .json (.text bucket))]) (return ())

/-- A change that a customization makes, or something else that it does. -/
inductive Change
  | edit (edit : Edit)
  /-- Note the request as it is now. -/
  | snapshot
  /-- Change a copy of the request. -/
  | changeCopy
  | enforce (required : Requirement)
  | fail (failure : Failure)

def customize : List Change → Customization Stage
  | [], request => return request
  | .edit edit :: rest, request => customize rest (request.apply edit)
  | .snapshot :: rest, request => do
    Stage.noteRequest request
    customize rest request
  | .changeCopy :: rest, request => customize rest request
  | .enforce required :: rest, request => customize rest (request.enforce required)
  | .fail failure :: _, _ => throw failure

end ClaimCheck.Rehearsal
