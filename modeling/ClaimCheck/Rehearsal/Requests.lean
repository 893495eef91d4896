import ClaimCheck.Rehearsal.Desk
import ClaimCheck.Transport.Requests

/-! Rehearsals of requests, with a handler that follows a script. -/
namespace ClaimCheck.Rehearsal

/-- A handler of requests. It plays an act, and answers with the given value or else the request. -/
structure RequestHandler where
  act : Act
  value : Option Value

inductive TimeoutSetup
  | fixed (limit : Value)
  | foreign (limit : Value)

namespace RequestRehearsal

variable {τ : Type}

def handle (handler : RequestHandler) (request : Value) (context : Context) : Call World Value :=
  Call.after ((Stage.noteContext context).on World.stagePart)
    (callBy fun world =>
      handler.act.call World.stagePart world.stage.signal (return handler.value.getD request))

/-- The limit that a timeout policy answers with. Only a fixed one is checked beforehand. -/
def TimeoutSetup.limit : TimeoutSetup → Except Failure Value
  | .fixed limit => (Timeout.fixed limit).mapError .misuse
  | .foreign limit => .ok limit

structure Turn where
  cue : Cue
  script : Script
  outgoing : Outgoing

/-- The desk's parts come first, then the time limit, then the handler, then the desk. -/
def run (ids : List String) (clock : Option Moment) (handler : Option RequestHandler)
    (timeout : Option TimeoutSetup) (setup : DeskSetup) (turns : List Turn) : List Report :=
  let setUp := do
    let parts ← setup.parts
    let limit ← Action.ofExcept ((timeout.mapM TimeoutSetup.limit).map (·.getD .null))
    let some handler := handler | throw (.misuse .noHandler)
    return (parts, limit, handler)
  rehearse ids clock setUp fun (parts, limit, handler) =>
    parts.use fun desk scene =>
      let steps := turns.map fun turn =>
        (⟨turn.cue, turn.script, fun signal =>
          .reply <$> Requests.send desk limit (handle handler) turn.outgoing signal⟩ : Step World)
      performAll World.stagePart 0 steps scene

end RequestRehearsal

end ClaimCheck.Rehearsal
