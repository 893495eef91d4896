import ClaimCheck.Rehearsal.Report

/-! Rehearsals of a connection that is opened, probed and closed. -/
namespace ClaimCheck.Rehearsal

inductive LineStep
  | open
  | close
  | probe (bucket : String)

namespace LineRehearsal

/-- The stage makes the same client every time. -/
def perform : LineStep → Action (Connection × Stage) Answer
  | .open => do
    let _ ← Connection.getClient maker
    return .client
  | .close => do
    Connection.close maker
    return .done
  | .probe bucket => .truth <$> Connection.health maker (Rehearsal.probe bucket)

structure Turn where
  script : Script
  step : LineStep

def run (settings : ConnectionSettings) (turns : List Turn) : List Report :=
  let connection := settings.connection
  let steps := turns.map fun turn =>
    (⟨.silent, turn.script, fun _ => perform turn.step⟩ : Step (Connection × Stage))
  .bare (.ok (.endpoint connection.endpointUrl)) ::
    performAll .second 0 steps (opening [] (connection, Stage.empty))

end LineRehearsal
end ClaimCheck.Rehearsal
