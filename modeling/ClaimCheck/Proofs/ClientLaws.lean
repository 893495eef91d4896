import ClaimCheck.Proofs.ActionOutcome
import ClaimCheck.Store.Bucket
import ClaimCheck.Store.Container

/-!
What the services promise of their clients: a map from keys to objects. A service takes the key and
the payload of a call from its arguments, which say the same whatever a caller changed in them.
-/
namespace ClaimCheck

namespace Call

variable {ρ α : Type}

theorem await_of_ended {call : Call ρ α} {scene after : Scene ρ} {result : Except Failure α}
    (ended : call.start scene = (.ended result, after)) :
    call.run none scene = Action.ofExcept result after := by
  simp [run, await, ended]

private theorem run_eq_ok_of_ended {call : Call ρ α} {signal : Option Signal}
    {scene middle after : Scene ρ} {result : Except Failure α} {value : α}
    (ended : call.start scene = (.ended result, middle))
    (ran : call.run signal scene = .ok value after) : result = .ok value ∧ middle = after := by
  cases signal with
  | none => exact Action.ofExcept_eq_ok.mp ((await_of_ended ended).symm.trans ran)
  | some signal =>
    simp only [run, race, ended, RaceVerdict.decide, Progress.hasEnded] at ran
    cases pending : middle.task.pending with
    | true => simp [pending] at ran
    | false => exact Action.ofExcept_eq_ok.mp (by simpa [pending, Progress.outcome] using ran)

private theorem ofAction_eq_ok {action : Action ρ α} {signal : Option Signal}
    {scene after : Scene ρ}
    {value : α} (ran : (ofAction action).run signal scene = .ok value after) :
    action scene = .ok value after := by
  cases first : action scene with
  | ok own middle =>
    have ended : (ofAction action).start scene = (.ended (.ok own), middle) := by
      simp [ofAction, first]
    obtain ⟨same, rfl⟩ := run_eq_ok_of_ended ended ran
    cases same
    rfl
  | error failure middle =>
    have ended : (ofAction action).start scene = (.ended (.error failure), middle) := by
      simp [ofAction, first]
    cases (run_eq_ok_of_ended ended ran).1

end Call

namespace Table

variable {α : Type}

private theorem get?_foldl_set (entries : List (String × α)) (table : Table α) (name : String)
    (nodup : (entries.map Prod.fst).Nodup) :
    (entries.foldl (fun table entry => table.set entry.1 entry.2) table).get? name =
      ((entries.find? (·.1 = name)).map (·.2)).or (table.get? name) := by
  induction entries generalizing table with
  | nil => rfl
  | cons entry rest ih =>
    obtain ⟨fresh, nodup⟩ := List.nodup_cons.mp nodup
    rw [List.foldl_cons, ih _ nodup, get?_set]
    by_cases same : entry.1 = name
    · have absent : rest.find? (·.1 = name) = none := by
        rw [List.find?_eq_none]
        intro other member found
        refine fresh (List.mem_map.mpr ⟨other, member, ?_⟩)
        simpa [same] using found
      simp [same, absent]
    · simp [same, Ne.symm same]

/-- What the upper table holds comes first. -/
theorem get?_merge (table upper : Table α) (name : String) :
    (table.merge upper).get? name = (upper.get? name).or (table.get? name) :=
  get?_foldl_set upper.entries table name upper.nodup

end Table

/-- Whatever a caller made of a request, what a store requires of it is there in the end. -/
theorem UploadRequest.get?_enforce (request : UploadRequest) (required : Requirement)
    {name : String} {value : Argument} (asked : required.params.get? name = some value) :
    (request.enforce required).params.get? name = some value := by
  have merged : (request.params.merge required.params).get? name = some value := by
    rw [Table.get?_merge, asked, Option.some_or]
  cases marker : required.expiresMarker <;> simp [enforce, marker, merged]

/-- How a service reads the calls of its client: what a put stores, and where, and which key any
other call is about. -/
structure CallReading where
  stored? : String → Arguments → Option (String × Bytes)
  addressed? : String → Arguments → Option String

namespace CallReading

def text? (arguments : Arguments) (name : String) : Option String :=
  match arguments.get? name with
  | some (.json (.text value)) => some value
  | _ => none

def payload? (arguments : Arguments) (name : String) : Option Bytes :=
  match arguments.get? name with
  | some (.payload source) => some source.remaining
  | _ => none

/-- A bucket's client finds everything in the arguments. -/
def ofBucket (bucket : String) : CallReading where
  stored? _ arguments :=
    if text? arguments "Bucket" = some bucket then
      (text? arguments "Key").bind fun key => (payload? arguments "Body").map (key, ·)
    else none
  addressed? _ arguments :=
    if text? arguments "Bucket" = some bucket then text? arguments "Key" else none

/-- A container's client is made for one blob. -/
def ofContainer : CallReading where
  stored? key arguments := (payload? arguments "data").map (key, ·)
  addressed? key _ := some key

end CallReading

/-- A service whose calls say what their store means, as they are read. -/
structure Service.Speaks (service : Service) (container : String) (reading : CallReading) :
    Prop where
  stored : ∀ (customized : UploadRequest) (key : String) (overwrite : Bool) (source : Source)
      (sizeHint : Option Int) (metadata : Table Json) (marker : Option String) (tagged : Bool),
    reading.stored? key (service.arguments (customized.enforce
        ⟨service.required container key overwrite source sizeHint, metadata, marker, tagged⟩)) =
      some (key, source.remaining)
  downloads : ∀ key, reading.addressed? key (service.downloadArguments container key) = some key
  deletes : ∀ key, reading.addressed? key (service.deleteArguments container key) = some key

namespace Bucket

theorem get?_arguments (request : UploadRequest) {name : String} (plain : name ≠ "Metadata")
    (untagged : name ≠ "Tagging") : (arguments request).get? name = request.params.get? name := by
  simp only [arguments]
  split <;> split <;> simp [plain, untagged]

theorem speaks (bucket : String) : service.Speaks bucket (.ofBucket bucket) where
  stored customized key overwrite source sizeHint metadata marker tagged := by
    have sent (name : String) (value : Argument) (plain : name ≠ "Metadata")
        (untagged : name ≠ "Tagging")
        (asked : (service.required bucket key overwrite source sizeHint).get? name = some value) :
        (arguments (customized.enforce ⟨service.required bucket key overwrite source sizeHint,
          metadata, marker, tagged⟩)).get? name = some value :=
      (get?_arguments _ plain untagged).trans (UploadRequest.get?_enforce _ _ asked)
    have inBucket := sent "Bucket" (.json (.text bucket)) (by decide) (by decide)
      (by cases overwrite <;> simp [service, Service.required, demand, Table.ofList])
    have underKey := sent "Key" (.json (.text key)) (by decide) (by decide)
      (by cases overwrite <;> simp [service, Service.required, demand, Table.ofList])
    have payload := sent "Body" (.payload (source.prepared true sizeHint).1) (by decide) (by decide)
      (by cases overwrite <;> simp [service, Service.required, demand, Table.ofList])
    have spoken : service.arguments = arguments := rfl
    simp [CallReading.ofBucket, CallReading.text?, CallReading.payload?, spoken, inBucket,
      underKey, payload]
  downloads key := by
    simp [CallReading.ofBucket, CallReading.text?, service, address, Table.ofList]
  deletes key := by
    simp [CallReading.ofBucket, CallReading.text?, service, address, Table.ofList]

end Bucket

namespace Container

theorem get?_arguments (request : UploadRequest) {name : String} (plain : name ≠ "metadata")
    (untagged : name ≠ "tags") : (arguments request).get? name = request.params.get? name := by
  simp only [arguments]
  split <;> split <;> simp [plain, untagged]

theorem speaks (container : String) : service.Speaks container .ofContainer where
  stored customized key overwrite source sizeHint metadata marker tagged := by
    have asked : (service.required container key overwrite source sizeHint).get? "data" =
        some (.payload (source.prepared false sizeHint).1) := by
      cases overwrite <;> simp [service, Service.required, demand, Table.ofList]
    have sent := (get?_arguments _ (by decide) (by decide)).trans
      (UploadRequest.get?_enforce customized
        ⟨service.required container key overwrite source sizeHint, metadata, marker, tagged⟩ asked)
    have spoken : service.arguments = arguments := rfl
    simp [CallReading.ofContainer, CallReading.payload?, spoken, sent]
  downloads _ := rfl
  deletes _ := rfl

end Container

/-- A client that keeps a map from keys to objects: a put that returns has stored its payload, what
is there can be opened and read to its end, and a deletion removes one object. -/
structure Client.IsMap {ρ β : Type} (client : Client ρ β) (reading : CallReading)
    (objects : ρ → String → Option Bytes) (left : β → Bytes) : Prop where
  acquire : ∀ scene, ∃ after, client.acquire scene = .ok () after ∧
    objects after.rest = objects scene.rest
  put : ∀ {key arguments name bytes signal scene after},
    reading.stored? key arguments = some (name, bytes) →
    (client.put key arguments).run signal scene = .ok () after →
    objects after.rest name = some bytes
  get : ∀ {key arguments name bytes} (scene : Scene ρ),
    reading.addressed? key arguments = some name → objects scene.rest name = some bytes →
    ∃ body after, (client.get key arguments).start scene = (.ended (.ok body), after) ∧
      left body = bytes ∧ objects after.rest = objects scene.rest
  delete : ∀ {key arguments name} (scene : Scene ρ), reading.addressed? key arguments = some name →
    ∃ result after, (client.delete key arguments).start scene = (.ended result, after) ∧
      (objects scene.rest name ≠ none → result = .ok ()) ∧
      ∀ other, objects after.rest other =
        if other = name then none else objects scene.rest other
  read : ∀ {size} (scene : Scene (β × ρ)), 0 < size →
    ∃ piece after, (client.read (some size)).start scene = (.ended (.ok piece), after) ∧
      left scene.rest.1 = piece ++ left after.rest.1 ∧
      (piece = [] → left scene.rest.1 = []) ∧
      (piece ≠ [] → client.pieces after.rest.1 < client.pieces scene.rest.1) ∧
      objects after.rest.2 = objects scene.rest.2
  close : ∀ scene, ∃ after, client.close scene = .ok () after ∧
    objects after.rest.2 = objects scene.rest.2

namespace Client

def readTable (size : Option Nat) : Action (Bytes × Table Bytes) Bytes := do
  let (rest, _) ← Action.inspect id
  let size := size.getD rest.length
  Action.update fun state => (rest.drop size, state.2)
  return rest.take size

/-- A client over a table of objects. A put that `refuses` marks replaces nothing. -/
def ofTable (reading : CallReading) (refuses : Arguments → Bool) :
    Client (Table Bytes) Bytes where
  acquire := pure ()
  put key arguments := .ofAction do
    let objects ← Action.inspect id
    match reading.stored? key arguments with
    | some (name, bytes) =>
      if refuses arguments && objects.contains name then
        throw (.fault (.ofResponse (.bare "PutObject" "PreconditionFailed") (some 412)))
      else Action.update fun objects => objects.set name bytes
    | none => throw (.fault (.ofGeneral "ParamValidationError" "Parameter validation failed"))
  get key arguments := .ofAction do
    let objects ← Action.inspect id
    match (reading.addressed? key arguments).bind objects.get? with
    | some bytes => return bytes
    | none => throw (.fault (.ofResponse (.bare "GetObject" "NoSuchKey") (some 404)))
  delete key arguments := .ofAction do
    match reading.addressed? key arguments with
    | some name => Action.update fun objects => objects.erase name
    | none => throw (.fault (.ofGeneral "ParamValidationError" "Parameter validation failed"))
  read size := .ofAction (readTable size)
  close := pure ()
  pieces := List.length

theorem ofTable_isMap (reading : CallReading) (refuses : Arguments → Bool) :
    (ofTable reading refuses).IsMap reading Table.get? id where
  acquire scene := ⟨scene, rfl, rfl⟩
  put {key arguments name bytes signal scene after} stored ran := by
    have effect := Call.ofAction_eq_ok ran
    simp only [Action.bind_run, Action.inspect_run, stored, id] at effect
    split at effect
    · cases effect
    · cases effect
      simp
  get {key arguments name bytes} scene addressed held := by
    refine ⟨bytes, scene, ?_, rfl, rfl⟩
    simp [ofTable, Call.ofAction, Action.bind_run, addressed, held]
  delete {key arguments name} scene addressed := by
    refine ⟨.ok (), { scene with rest := scene.rest.erase name }, ?_, fun _ => rfl, ?_⟩
    · simp [ofTable, Call.ofAction, addressed]
    · simp
  read {size} scene positive := by
    refine ⟨scene.rest.1.take size, scene.withRest (scene.rest.1.drop size, scene.rest.2),
      ?_, ?_, ?_, ?_, rfl⟩
    · simp [ofTable, Call.ofAction, readTable, Action.bind_run]
      rfl
    · simp
    · intro empty
      have short : size = 0 ∨ scene.rest.1 = [] := by simpa using empty
      exact short.resolve_left (by omega)
    · intro some
      have present : scene.rest.1 ≠ [] := by
        intro nothing
        simp [nothing] at some
      have longer := List.length_pos_iff.mpr present
      simp only [ofTable, Scene.withRest_rest, List.length_drop]
      omega
  close scene := ⟨scene, rfl, rfl⟩

end Client
end ClaimCheck
