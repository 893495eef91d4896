import ClaimCheck.Rehearsal.Desk
import ClaimCheck.Transport.Bus

/-! Rehearsals of the bus, with handlers that follow a script. -/
namespace ClaimCheck.Rehearsal

/-- What a handler of the bus does with a message. -/
inductive HandlerAction
  | subscribe (name : String)
  | close (subscription : Subscription)
  | clear
  | setHeader (name : String)
  | publish (message : Value)
  | act (act : Act)

structure Handler where
  name : String
  actions : List HandlerAction

inductive BusStep
  | subscribe (handler : Option Handler)
  | publish (outgoing : Outgoing)
  | close (subscription : Subscription)
  | within (subscription : Subscription) (message : Value)
  | closed
  | count
  | published
  | clear

namespace BusRehearsal

variable {τ : Type}

abbrev State := Bus Handler × World

def stagePart : Part State Stage :=
  Part.second.compose World.stagePart

def onBus (change : Bus Handler → Bus Handler) : Action State Unit :=
  Action.update fun state => (change state.1, state.2)

/-- Play an act in the caller's own task. -/
def playAct (act : Act) : Action State Unit := do
  let (_, world) ← Action.inspect id
  (act.call stagePart world.stage.signal (return ())).await

/-- Do one thing after the other; the context is handed on as it is left. -/
def play (publish : Value → Action State Unit) (name : String) :
    List HandlerAction → Context → Action State Context
  | [], context => return context
  | action :: rest, context => do
    match action with
    | .subscribe other => onBus (·.add ⟨other, []⟩)
    | .close subscription => onBus (·.close subscription)
    | .clear => onBus Bus.clear
    | .setHeader _ => pure ()
    | .publish message => publish message
    | .act act => playAct act
    let context := match action with
      | .setHeader header =>
        { context with headers := context.headers.set header s!"added by {name}" }
      | _ => context
    play publish name rest context

/-- A handler notes what it got and does what it was told to. -/
def deliver (publish : Value → Action State Unit) : Bus.Delivery Handler World :=
  fun handler message context => do
    (Stage.noteDelivery ⟨handler.name, message, context⟩).on stagePart
    play publish handler.name handler.actions context

/-- What a handler publishes is delivered too, but its handlers publish nothing. -/
def publishNested (desk : Desk World τ) (message : Value) : Action State Unit :=
  Bus.publish desk (deliver fun _ => return ()) (.ofMessage message) none

def publish (desk : Desk World τ) (outgoing : Outgoing) (signal : Option Signal) :
    Action State Unit :=
  Bus.publish desk (deliver (publishNested desk)) outgoing signal

def perform (desk : Desk World τ) (step : BusStep) (signal : Option Signal) : Action State Answer :=
  match step with
  | .subscribe handler => .subscription <$> Bus.subscribe handler
  | .publish outgoing => do
    publish desk outgoing signal
    return .done
  | .close subscription => do
    onBus (·.close subscription)
    return .done
  | .within subscription message => do
    (publish desk (.ofMessage message) signal).andFinally (onBus (·.close subscription))
    return .truth true
  | .closed => .truths <$> Action.inspect fun state =>
    (List.range state.1.issued).map state.1.isClosed
  | .count => .count <$> Action.inspect fun state => state.1.subscriberCount
  | .published => .envelopes <$> Action.inspect fun state => state.1.published
  | .clear => do
    onBus Bus.clear
    return .done

structure Turn where
  cue : Cue
  script : Script
  step : BusStep

def run (ids : List String) (clock : Option Moment) (setup : DeskSetup) (turns : List Turn) :
    List Report :=
  rehearse ids clock setup.parts fun parts =>
    parts.use fun desk scene =>
      let steps := turns.map fun turn =>
        (⟨turn.cue, turn.script, perform desk turn.step⟩ : Step State)
      performAll stagePart 0 steps (scene.withRest (Bus.empty, scene.rest))

end BusRehearsal

end ClaimCheck.Rehearsal
