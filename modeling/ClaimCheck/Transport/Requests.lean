import ClaimCheck.Cancellation
import ClaimCheck.Timeout
import ClaimCheck.Transport.Desk
import ClaimCheck.Transport.Packing

/-!
Requests to one handler in the same process. The handler runs in a task of its own, raced against
the caller's signal and the time limit; whatever it comes to is reported as a reply.
-/
namespace ClaimCheck

/-- Why a handler that had not ended was stopped. -/
inductive Overrun
  | cancelled
  | timedOut
  deriving DecidableEq, Repr

def Overrun.message : Overrun → String
  | .cancelled => "Request cancelled."
  | .timedOut => "Request timed out."

namespace Requests

variable {ρ τ α : Type}

/-- The message of an elapsed time, which has a wording of its own if it has none. -/
def timeoutMessage (failure : Failure) : String :=
  if failure.message.isEmpty then Overrun.timedOut.message else failure.message

/-- What a handler's own result means to the sender. A cancellation is no result. -/
def reply (messageId : String) : Except Failure α → Action ρ (Reply α)
  | .ok value => return .success value
  | .error failure => do
    if failure.isCancelled || failure == .stalled then throw failure
    else if failure.isValueError then return .rejected failure.message
    else if failure.isTimeout then return .timedOut (timeoutMessage failure)
    else
      Action.warn s!"Request handler failed for message {messageId}: {failure.message}"
      return .failed failure.message

/-- Stop a handler and wait for its end. A late value is dropped; a failure to clean up is not. -/
def stop (progress : Progress ρ α) : Action ρ Unit :=
  match progress with
  | .waiting stop _ =>
    Action.recover (do let _ ← stop) fun failure =>
      if failure.isCancelled then return () else throw failure
  | _ => return ()

/-- What comes of a handler that is under way: it is waited for until it ends, its time is up or the
signal is raised. -/
def settle (messageId : String) (limited : Bool) (signal : Option Signal)
    (progress : Progress ρ α) : Action ρ (Reply α) := fun paused =>
  let overrun := if paused.isCancelled signal then .cancelled else Overrun.timedOut
  match RaceVerdict.decide paused.task.pending progress.hasEnded
      (paused.isCancelled signal || limited) with
  | .callerStops =>
    .error (.cancelled "")
      (progress.leave { paused with task := { paused.task with pending := false } })
  | .callWins => reply messageId progress.outcome paused
  | .signalWins => (do stop progress; return Reply.timedOut overrun.message) paused
  | .undecided => .error .stalled paused

/-- Run a handler in a task of its own. The task is there before the wait for it begins, so a limit
that no clock can count ends the request and leaves the handler to itself. -/
def await (messageId : String) (limit : Value) (signal : Option Signal) (call : Call ρ α) :
    Action ρ (Reply α) := do
  let progress ← call.begin
  Action.ofExcept ((Timeout.ensureTimed limit).mapError .fault)
  settle messageId (Timeout.elapses limit) signal progress

/-- All that a request comes to before its handler is begun: a reply without a handler, or the
envelope that was sent and the one that was received. -/
def transfer (passage : Passage ρ) (limit : Value) (outgoing : Outgoing)
    (signal : Option Signal) : Action ρ (Except (Reply α) (Envelope × Envelope)) := do
  let negative ← Action.ofExcept ((Timeout.isNegative limit).mapError .misuse)
  if negative then return .error (.failed "Timeout policy returned an invalid timeout.")
  else
    let envelope ← outgoing.pack
    let transmitted ← passage.outbound envelope signal
    let received ← passage.inbound transmitted signal
    let scene ← get
    if scene.isCancelled signal then return .error (.timedOut "Request was cancelled.")
    else return .ok (envelope, received)

/-- A request by way of any passage. -/
def sendBy (passage : Passage ρ) (limit : Value) (handle : Value → Context → Call ρ α)
    (outgoing : Outgoing) (signal : Option Signal) : Action ρ (Reply α) := do
  match ← transfer passage limit outgoing signal with
  | .error reply => return reply
  | .ok (envelope, received) =>
    await envelope.messageId limit signal (handle outgoing.message received.context)

/-- Send a request. The handler is begun only if the time limit does not lie below zero, the message
has passed the desk both ways, and the signal is not raised by then. -/
def send (desk : Desk ρ τ) (limit : Value) (handle : Value → Context → Call ρ α)
    (outgoing : Outgoing) (signal : Option Signal) : Action ρ (Reply α) :=
  sendBy desk.passage limit handle outgoing signal

end Requests
end ClaimCheck
