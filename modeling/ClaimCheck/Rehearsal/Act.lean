import ClaimCheck.Rehearsal.Stage

/-! How a call on the stage plays an act: up to its first pause, and on when it is told to end. -/
namespace ClaimCheck.Rehearsal

namespace Act

variable {ρ α : Type}

def cleanupFailure : Failure :=
  .fault (.ofGeneral "RuntimeError" "cleanup failed")

/-- A call that is told to end while it waits. -/
def wake (act : Act) (effect : Action ρ α) : Action ρ α :=
  match act.ending with
  | .leaves => throw (.cancelled "")
  | .fails => throw cleanupFailure
  | .finishes => effect

/-- Play an act, and have the effect when it is over. The signal is the one that the act may raise.
-/
def call (act : Act) (stage : Part ρ Stage) (signal : Option Signal) (effect : Action ρ α) :
    Call ρ α where
  start scene :=
    let scene := match signal with
      | some signal => if act.raisesSignal then scene.raise signal else scene
      | none => scene
    if act.cancelsItself then (.selfCancelled, scene)
    else
      let scene := if act.cancelsCaller then { scene with task := ⟨true, true⟩ } else scene
      if act.waits then
        let stop := do
          (Stage.note .callCancelled).on stage
          act.wake effect
        let abandon := do
          (Stage.noteLate .callCancelled).on stage
          act.wake effect
        (.waiting stop (Progress.waiting abandon id).halt, scene)
      else match act.failure with
        | some failure => (.ended (.error failure), scene)
        | none => (Call.ofAction effect).start scene

end Act

/-- A call that depends on the state that it starts in. -/
def callBy (choose : ρ → Call ρ α) : Call ρ α where
  start scene := (choose scene.rest).start scene

/-- Play the act of the step. -/
def playScript (effect : Action Stage α) : Call Stage α :=
  callBy fun stage => stage.script.act.call .whole stage.signal effect

end ClaimCheck.Rehearsal
