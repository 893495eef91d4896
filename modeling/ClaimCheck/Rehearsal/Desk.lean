import ClaimCheck.Rehearsal.Report
import ClaimCheck.Transport.Desk
import ClaimCheck.Transport.Packing

/-! Rehearsals of the desk, and how the rehearsals of a transport begin. -/
namespace ClaimCheck.Rehearsal

/-- What a transport is given for its desk. -/
structure DeskSetup where
  policy : Option PolicySettings
  store : Option StoreSetup

/-- A desk that is set up later: a policy and a store may be there or not. -/
structure DeskParts where
  policy : Option Policy
  store : Option Ready

/-- The policy is made before the store. -/
def DeskSetup.parts (setup : DeskSetup) : Action World DeskParts := do
  let policy ← setup.policy.mapM PolicySettings.policy
  let store ← setup.store.mapM StoreSetup.ready
  return ⟨policy, store⟩

/-- Set up a desk and do something with it, whatever the streams of its store are. -/
def DeskParts.use (parts : DeskParts) (action : {τ : Type} → Desk World τ → α) : Except Failure α :=
  match parts.store with
  | none => (Desk.of parts.policy (none : Option (Store World Unit))).map action
  | some ready => ready.use fun store => (Desk.of parts.policy (some store)).map action

/-- Set up something from a desk's parts, and rehearse with it. What is noted while it is set up
counts towards the first step. -/
def rehearse (ids : List String) (clock : Option Moment) (setUp : Action World α)
    (steps : α → Except Failure (Scene World → List Report)) : List Report :=
  let (result, scene) := outcome setUp (opening ids (World.initial clock))
  match result.bind steps with
  | .error failure => [.bare (.error failure)]
  | .ok rest => .bare (.ok .done) :: rest scene

namespace DeskRehearsal

variable {τ : Type}

/-- An envelope that leaves the desk as it came to it is the same one only where no desk is staffed.
-/
def passed (desk : Desk World τ) (envelope : Envelope) : Answer :=
  .passed envelope (!desk.isStaffed)

/-- Take an envelope out, and what became of it in again; if it does not get out, the envelope
itself. -/
def reports (desk : Desk World τ) (envelope : Envelope) (cue : Cue) (scene : Scene World) :
    List Report :=
  let step (perform : Option Signal → Action World Answer) : Step World := ⟨cue, .plain, perform⟩
  let outward := step fun signal => passed desk <$> desk.outbound envelope signal
  let start := prepared World.stagePart outward 0 scene
  let (sent, after) := outcome (desk.outbound envelope (cue.signal? 0)) start
  let (out, after) := collected World.stagePart (sent.map (passed desk)) after
  let back := sent.toOption.getD envelope
  let (received, after) := outcome (desk.inbound back (cue.signal? 0)) after
  let (inward, _) := collected World.stagePart (received.map (passed desk)) after
  [out, inward]

/-- Whether a desk is staffed, and what it does with an envelope. -/
def open? (parts : DeskParts) (envelope : Envelope.Draft) (cue : Cue) :
    Except Failure (Bool × (Scene World → List Report)) :=
  parts.use fun desk => (desk.isStaffed, fun scene =>
    match outcome (Envelope.make envelope) scene with
    | (.error failure, _) => [.bare (.error failure)]
    | (.ok envelope, scene) => reports desk envelope cue scene)

def run (clock : Option Moment) (setup : DeskSetup) (envelope : Envelope.Draft) (cue : Cue) :
    List Report :=
  let (parts, scene) := outcome setup.parts (opening [] (World.initial clock))
  let opened := parts.bind (open? · envelope cue)
  let (report, scene) := collected World.stagePart (opened.map fun found => .staffed found.1) scene
  match opened with
  | .error _ => [report]
  | .ok found => report :: found.2 scene

end DeskRehearsal
end ClaimCheck.Rehearsal
