import ClaimCheck.Rehearsal.Report

/-! A rehearsal of one call, raced against a signal. -/
namespace ClaimCheck.Rehearsal.CallRehearsal

/-- Make the call, and note whose doing it was if a cancellation comes out. -/
def perform (act : Act) (value : Value) (signal : Option Signal) : Action Stage Answer :=
  let call := Call.after (Stage.note .worked) (act.call .whole signal (return Answer.value value))
  (call.run signal).recover fun failure => do
    if failure.isCancelled then
      let scene ← get
      Stage.note (.callerCancelled (scene.callerCancelled signal))
    throw failure

def run (act : Act) (value : Value) (cue : Cue) : Report :=
  performOne .whole ⟨cue, .plain, perform act value⟩ (opening [] Stage.empty)

end ClaimCheck.Rehearsal.CallRehearsal
