import ClaimCheck.Transport.Desk
import ClaimCheck.Transport.Packing

/-!
Publishing to subscribers in one process. Every message is packed, and passes the desk as if it were
sent and received, before the handlers of the live subscriptions get it, one after the other.
-/
namespace ClaimCheck

/-- Subscriptions are numbered as they are made, and no number is used again. -/
abbrev Subscription := Nat

/-- `live` holds the handlers of the live subscriptions in the order in which they were made. -/
structure Bus (η : Type) where
  issued : Nat
  live : List (Subscription × η)
  closed : List Subscription
  published : List Envelope

namespace Bus

variable {η ρ τ : Type}

def empty : Bus η := ⟨0, [], [], []⟩

/-- The bus with one more subscription, which has the next number. -/
def add (bus : Bus η) (handler : η) : Bus η :=
  { bus with issued := bus.issued + 1, live := bus.live ++ [(bus.issued, handler)] }

def isClosed (bus : Bus η) (subscription : Subscription) : Bool :=
  bus.closed.contains subscription

/-- Only the first closing of a subscription removes its handler. -/
def close (bus : Bus η) (subscription : Subscription) : Bus η :=
  if bus.isClosed subscription then bus
  else { bus with
    closed := subscription :: bus.closed
    live := bus.live.filter fun entry => entry.1 != subscription }

/-- Forget all that was published, and all handlers. -/
def clear (bus : Bus η) : Bus η :=
  { bus with live := [], published := [] }

def record (bus : Bus η) (envelope : Envelope) : Bus η :=
  { bus with published := bus.published ++ [envelope] }

def subscriberCount (bus : Bus η) : Nat :=
  bus.live.length

def subscribe (handler : Option η) : Action (Bus η × ρ) Subscription := do
  let some handler := handler | throw (.misuse .noHandler)
  let (bus, _) ← Action.inspect id
  Action.update fun state => (state.1.add handler, state.2)
  return bus.issued

/-- How a handler is called: it sees the message and the context, and may change the context for the
handlers after it. -/
abbrev Delivery (η ρ : Type) := η → Value → Context → Action (Bus η × ρ) Context

/-- Call the handlers in turn, until one fails or the signal is raised. -/
def deliverAll (deliver : Delivery η ρ) (signal : Option Signal) (message : Value) :
    List (Subscription × η) → Context → Action (Bus η × ρ) Unit
  | [], _ => return ()
  | (_, handler) :: rest, context => do
    Action.ensureNotCancelled signal
    let context ← deliver handler message context
    deliverAll deliver signal message rest context

/-- All that publishing does before it calls a handler: the subscriptions that are live by then, and
the envelope that was received. The passage may be one that uses the bus. -/
def transfer (passage : Passage (Bus η × ρ)) (outgoing : Outgoing) (signal : Option Signal) :
    Action (Bus η × ρ) (List (Subscription × η) × Envelope) := do
  Action.ensure (!outgoing.message.isNull) (.misuse .noMessage)
  let envelope ← outgoing.pack
  let transmitted ← passage.outbound envelope signal
  Action.update fun state => (state.1.record transmitted, state.2)
  let received ← passage.inbound transmitted signal
  let (bus, _) ← Action.inspect id
  return (bus.live, received)

/-- A publication by way of any passage. -/
def publishBy (passage : Passage (Bus η × ρ)) (deliver : Delivery η ρ) (outgoing : Outgoing)
    (signal : Option Signal) : Action (Bus η × ρ) Unit := do
  let (live, received) ← transfer passage outgoing signal
  deliverAll deliver signal outgoing.message live received.context

/-- Publish a message to the subscriptions that are live when its envelope has been received. -/
def publish (desk : Desk ρ τ) (deliver : Delivery η ρ) (outgoing : Outgoing)
    (signal : Option Signal) : Action (Bus η × ρ) Unit :=
  publishBy (desk.passage.on .second) deliver outgoing signal

end Bus
end ClaimCheck
