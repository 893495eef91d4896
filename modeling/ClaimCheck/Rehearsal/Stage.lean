import ClaimCheck.Envelope
import ClaimCheck.Message.Value
import ClaimCheck.Payload.Upload
import ClaimCheck.Store.Basic
import ClaimCheck.Store.Connection

/-!
Rehearsals run the library against collaborators that follow a script. Here is the stage: what a
script says, and the journal of all that the collaborators are asked to do.
-/
namespace ClaimCheck.Rehearsal

/-- How a call that waits ends when it is told to. -/
inductive Ending
  | leaves
  | fails
  | finishes
  deriving DecidableEq, Repr

/-- What a call does before it has its effect, in this order. -/
structure Act where
  raisesSignal : Bool
  cancelsItself : Bool
  cancelsCaller : Bool
  waits : Bool
  ending : Ending
  failure : Option Failure

def Act.plain : Act := ⟨false, false, false, false, .leaves, none⟩

/-- How the bodies opened in a step behave: the act is played at the read of the given number, and
no read gives more than a chunk. -/
structure BodyScript where
  turn : Nat
  chunk : Option Nat
  closesLater : Bool
  act : Act

/-- What the collaborators do during one step. -/
structure Script where
  act : Act
  making : Option Failure
  entering : Option Failure
  leaving : Option Failure
  body : BodyScript

def Script.plain : Script :=
  ⟨.plain, none, none, none, ⟨0, none, false, .plain⟩⟩

inductive CloudKind
  | bucket
  | container
  deriving DecidableEq, Repr

inductive Operation
  | put
  | get
  | delete
  | probe
  deriving DecidableEq, Repr

/-- One thing that a collaborator was asked to do. -/
inductive Entry
  | request (kind : CloudKind) (operation : Operation) (key : String) (arguments : Arguments)
  | clientMade (settings : Table Connection.Setting)
  | clientEntered
  | clientLeft
  | serviceMade (connectionString : String)
  | containerOpened (name : String)
  | serviceClosed
  | bodyRead (kind : CloudKind) (size : Option Nat)
  | bodyClosed
  | bodyClosedLater
  | offered (upload : Upload)
  | asked (reference : Option String) (cancellable : Bool)
  | streamClosed
  | worked
  | callCancelled
  | callerCancelled (answer : Bool)

/-- A message that a handler got, with the context as it was then. -/
structure Delivered where
  handler : String
  message : Value
  context : Context

/-- What is noted during a step; late entries are those of calls that nobody waits for. -/
structure Journal where
  entries : List Entry
  late : List Entry
  requests : List UploadRequest
  deliveries : List Delivered
  contexts : List Context

def Journal.blank : Journal := ⟨[], [], [], [], []⟩

structure Stage where
  script : Script
  signal : Option Signal
  journal : Journal
  objects : Table Bytes

def Stage.empty : Stage := ⟨.plain, none, .blank, ∅⟩

namespace Stage

def note (entry : Entry) : Action Stage Unit :=
  Action.update fun stage =>
    { stage with journal := { stage.journal with entries := stage.journal.entries ++ [entry] } }

def noteLate (entry : Entry) : Action Stage Unit :=
  Action.update fun stage =>
    { stage with journal := { stage.journal with late := stage.journal.late ++ [entry] } }

def noteRequest (request : UploadRequest) : Action Stage Unit :=
  Action.update fun stage =>
    { stage with journal := { stage.journal with requests := stage.journal.requests ++ [request] } }

def noteDelivery (delivered : Delivered) : Action Stage Unit :=
  Action.update fun stage =>
    { stage with
      journal := { stage.journal with deliveries := stage.journal.deliveries ++ [delivered] } }

def noteContext (context : Context) : Action Stage Unit :=
  Action.update fun stage =>
    { stage with journal := { stage.journal with contexts := stage.journal.contexts ++ [context] } }

/-- Fail if the script says so. -/
def failBy (failure : Script → Option Failure) : Action Stage Unit := do
  match failure (← Action.inspect Stage.script) with
  | some failure => throw failure
  | none => return ()

end Stage

end ClaimCheck.Rehearsal
