import ClaimCheck.Rehearsal.Report
import ClaimCheck.Transport.Packing

/-!
Sessions with a store: payloads and envelopes go in and come out, and streams stay open from step to
step.
-/
namespace ClaimCheck.Rehearsal

/-- The envelope that a step is given, or none at all. -/
abbrev EnvelopeSetup := Option Envelope.Draft

inductive SessionStep
  | upload (source : Source) (key : Option String) (sizeHint : Option Int)
      (expiresAt : Option Moment)
  | download (reference : Option String)
  | fetch (reference : Option String)
  | read (stream : Nat) (size : Int)
  | readAll (stream : Nat)
  | closeStream (stream : Nat)
  | delete (reference : Option String)
  | size
  | contains (reference : String)
  | clock (now : Moment)
  | raiseShared
  | objects
  | properties
  | closeStore
  | withStore
  | prepare (envelope : EnvelopeSetup) (expiresAt : Option Moment) (noStore : Bool)
  | resolve (envelope : EnvelopeSetup) (noStore : Bool)
  | roundTrip (envelope : EnvelopeSetup) (expiresAt : Option Moment)
      (set : List (String × Json)) (dropped : List String)

namespace Session

variable {τ : Type}

/-- The streams opened so far, and the world. -/
abbrev State (τ : Type) := List τ × World

/-- Use the stream of the given number. -/
def onStream (number : Nat) (action : Action (τ × World) α) : Action (State τ) α := do
  let (streams, _) ← Action.inspect id
  match streams[number]? with
  | none => throw .stalled
  | some stream =>
    action.on ⟨fun state => (state.1.getD number stream, state.2),
      fun inner state => (state.1.set number inner.1, inner.2)⟩

/-- The headers of an envelope after some are set and others dropped. -/
def changedHeaders (headers : Headers) (set : List (String × Json)) (dropped : List String) :
    Json :=
  let members := set.foldl (fun known member => Json.setMember member.1 member.2 known)
    (headers.map Json.text).entries
  .object (members.filter fun member => !dropped.contains member.1)

def roundTrip (store : Store World τ) (policy : Policy) (envelope : EnvelopeSetup)
    (expiresAt : Option Moment) (set : List (String × Json)) (dropped : List String)
    (signal : Option Signal) : Action World Answer := do
  let envelope ← envelope.mapM Envelope.make
  let transmitted ← policy.prepare (some store) envelope expiresAt signal
  let headers := changedHeaders transmitted.headers set dropped
  let changed ← Action.ofExcept ((transmitted.replace none (some headers)).mapError .invalid)
  let received ← Policy.resolve (some store) (some changed) signal
  return .journey transmitted received (envelope.any fun e => e.body == received.body)

/-- Close the client of a container's service, if the store owns it. -/
def closeService : Action World Unit :=
  (Container.close (Stage.note .serviceClosed)).on World.ownershipPart

def onMemory (action : Action MemoryStore α) : Action (State τ) α :=
  action.on (Part.second.compose World.memoryPart)

def perform (ready : Ready) (store : Store World τ) (policy : Policy) (step : SessionStep)
    (signal : Option Signal) : Action (State τ) Answer :=
  match step with
  | .upload source key sizeHint expiresAt =>
    .reference <$> (store.upload ⟨source, key, sizeHint, expiresAt, signal⟩).on .second
  | .download reference => do
    let stream ← (store.download reference signal).on .second
    let (streams, _) ← Action.inspect id
    Action.update fun state => (state.1 ++ [stream], state.2)
    return .stream streams.length
  | .fetch reference => .bytes <$> (store.fetch reference signal).on .second
  | .read stream size => .bytes <$> onStream stream (store.reader.read size)
  | .readAll stream => .bytes <$> onStream stream store.reader.readAll
  | .closeStream stream => do
    onStream stream store.reader.close
    return .done
  | .delete reference => do
    (store.delete reference signal).on .second
    return .done
  | .size => onMemory (.count <$> Action.inspect MemoryStore.size)
  | .contains reference => onMemory (.truth <$> Action.inspect (·.contains reference))
  | .clock now => onMemory do
    Action.update fun store => { store with clock := now }
    return .done
  | .raiseShared => fun scene => .ok .done (scene.raise sharedSignal)
  | .objects => do
    let (_, world) ← Action.inspect id
    return .objects world.stage.objects
  | .properties =>
    match ready.properties? with
    | some (name, conditional) => return .properties name conditional
    | none => return .done
  | .closeStore => do
    closeService.on .second
    return .done
  | .withStore => do
    closeService.on .second
    return .truth true
  | .prepare envelope expiresAt noStore => Action.on .second do
    let envelope ← envelope.mapM Envelope.make
    .envelope <$> policy.prepare (if noStore then none else some store) envelope expiresAt signal
  | .resolve envelope noStore => Action.on .second do
    let envelope ← envelope.mapM Envelope.make
    .envelope <$> Policy.resolve (if noStore then none else some store) envelope signal
  | .roundTrip envelope expiresAt set dropped =>
    (roundTrip store policy envelope expiresAt set dropped signal).on .second

/-- One step of a session, with its signal and its script. -/
structure Turn where
  cue : Cue
  script : Script
  step : SessionStep

/-- Set up a store and a policy, and perform the steps. -/
def run (clock : Option Moment) (store : StoreSetup) (policy : PolicySettings) (turns : List Turn) :
    List Report :=
  let setUp := do
    let ready ← store.ready
    let policy ← policy.policy
    return (ready, policy)
  let (result, scene) := outcome setUp (opening [] (World.initial clock))
  let (report, scene) := collected World.stagePart (result.map fun _ => .done) scene
  match result with
  | .error _ => [report]
  | .ok (ready, policy) =>
    report :: ready.use fun {τ} store =>
      let steps := turns.map fun turn =>
        (⟨turn.cue, turn.script, perform ready store policy turn.step⟩ : Step (State τ))
      performAll (Part.second.compose World.stagePart) 0 steps (scene.withRest ([], scene.rest))

end Session
end ClaimCheck.Rehearsal
