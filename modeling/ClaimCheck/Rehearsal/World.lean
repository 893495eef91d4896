import ClaimCheck.Policy
import ClaimCheck.Rehearsal.Cloud
import ClaimCheck.Store.Bucket
import ClaimCheck.Store.Container
import ClaimCheck.Store.Memory
import ClaimCheck.Store.Options

/-!
The world of a rehearsal: the stage, and one store of each kind that can be set up on it.
-/
namespace ClaimCheck.Rehearsal

structure World where
  stage : Stage
  memory : MemoryStore
  connection : Connection
  ownsService : Bool

namespace World

def stagePart : Part World Stage :=
  ⟨World.stage, fun stage world => { world with stage }⟩

def memoryPart : Part World MemoryStore :=
  ⟨World.memory, fun memory world => { world with memory }⟩

def linePart : Part World (Connection × Stage) :=
  ⟨fun world => (world.connection, world.stage),
    fun line world => { world with connection := line.1, stage := line.2 }⟩

def ownershipPart : Part World (Bool × Stage) :=
  ⟨fun world => (world.ownsService, world.stage),
    fun pair world => { world with ownsService := pair.1, stage := pair.2 }⟩

end World

/-- A store that an application supplies: it takes anything, and gives what it was told to give. -/
structure Stub where
  reference : Option String
  uploadFailure : Option Failure
  content : Bytes
  downloadFailure : Option Failure

namespace Stub

def fail? : Option Failure → Action Stage Unit
  | some failure => throw failure
  | none => return ()

def reader : StreamReader Stage ByteStream :=
  ⟨ByteStream.read, (do (Stage.note .streamClosed).on .second; ByteStream.close),
    fun stream => stream.rest.length⟩

def store (stub : Stub) : Store Stage ByteStream where
  upload given := do
    Stage.note (.offered given)
    fail? stub.uploadFailure
    return stub.reference
  download reference signal := do
    Stage.note (.asked reference signal.isSome)
    fail? stub.downloadFailure
    return .ofBytes stub.content
  delete _ _ := return ()
  reader := reader

end Stub

/-- The settings of a connection, as they are given. -/
structure ConnectionSettings where
  region : String
  endpointUrl : Option String
  pathStyle : Bool
  given : Table Connection.Setting

def ConnectionSettings.connection (settings : ConnectionSettings) : Connection :=
  .ofParts settings.region settings.endpointUrl settings.pathStyle settings.given

def ConnectionSettings.plain : ConnectionSettings :=
  ⟨Connection.defaultRegion, none, false, ∅⟩

abbrev OptionsDraft := CloudOptions.Draft (Connection × Stage)

/-- The hook that makes the given changes to every request. -/
def hook (changes : List Change) : Customization (Connection × Stage) :=
  fun request => (customize changes request).on .second

/-- How a store is set up. -/
inductive StoreSetup
  | memory
  | stub (stub : Stub)
  | bucket (connection : Option ConnectionSettings) (options : Option OptionsDraft)
  | container (hasClient : Bool) (connectionString : Option String) (options : Option OptionsDraft)

/-- A store that has been set up. -/
inductive Ready
  | memory
  | stub (stub : Stub)
  | cloud (kind : CloudKind) (store : CloudStore (Connection × Stage) Body)

namespace StoreSetup

private def ensured (result : Except Misuse α) : Action World α :=
  Action.ofExcept (result.mapError .misuse)

private def openBucket (connection : Option ConnectionSettings) (options : Option OptionsDraft) :
    Action World Ready := do
  let options ← ensured (options.mapM Bucket.readOptions)
  let (connection, options) ← ensured
    (Bucket.setUp (connection.map ConnectionSettings.connection) options)
  Action.update fun world => { world with connection }
  return .cloud .bucket ⟨Bucket.service, client .bucket, options⟩

private def openContainer (hasClient : Bool) (connectionString : Option String)
    (options : Option OptionsDraft) : Action World Ready := do
  let some options := options | throw (.misuse .noOptions)
  let options ← ensured (Container.readOptions hasClient connectionString options)
  if !hasClient then
    (Stage.note (.serviceMade (connectionString.getD ""))).on World.stagePart
  (Stage.note (.containerOpened options.container)).on World.stagePart
  Action.update fun world => { world with ownsService := !hasClient }
  return .cloud .container ⟨Container.service, client .container, options⟩

def ready : StoreSetup → Action World Ready
  | .memory => return .memory
  | .stub supplied => return .stub supplied
  | .bucket connection options => openBucket connection options
  | .container hasClient connectionString options =>
    openContainer hasClient connectionString options

end StoreSetup

namespace Ready

/-- Do something with a store that has been set up, whatever its streams are. -/
def use (ready : Ready) (action : {τ : Type} → Store World τ → α) : α :=
  match ready with
  | .memory => action (MemoryStore.store.on World.memoryPart)
  | .stub supplied => action (supplied.store.on World.stagePart)
  | .cloud _ store => action (store.toStore.on World.linePart)

/-- The name of the container of a cloud store, and whether it can store only where nothing is. -/
def properties? : Ready → Option (String × Bool)
  | .cloud _ store => some (store.options.container, store.options.supportsConditionalPut)
  | _ => none

end Ready

/-- The settings of a policy, as they are given. -/
structure PolicySettings where
  threshold : Option Json
  compresses : Option Json
  keyRoot : Option Json

def PolicySettings.policy (settings : PolicySettings) : Action ρ Policy :=
  Action.ofExcept
    ((Policy.ofFields settings.threshold settings.compresses settings.keyRoot).mapError .invalid)

/-- Rehearsals take place at the start of 2024. -/
def present : Instant := ⟨738885 * Calendar.day, by decide⟩

/-- A world with nothing in it. The clock of its memory store shows the given time. -/
def World.initial (clock : Option Moment) : World :=
  ⟨.empty, ⟨∅, clock.getD present.moment⟩, ConnectionSettings.plain.connection, false⟩

/-- The scene before the first step. -/
def opening (ids : List String) (rest : ρ) : Scene ρ :=
  ⟨present, [], ⟨false, false⟩, .initial ids, [], rest⟩

end ClaimCheck.Rehearsal
