import ClaimCheck.Proofs.BusRuns
import ClaimCheck.Proofs.Likeness
import ClaimCheck.Proofs.MemoryClaims
import ClaimCheck.Proofs.VerifiedDelivery

/-!
What handlers may do. A handler learns of a message, and of all in its context but the reserved
headers; it acts on a world that it shares with the other handlers, and may use the bus that called
it. Nothing that it does depends on where the bodies of messages lie.
-/
namespace ClaimCheck

/-- What applications see of a context. -/
structure Context.View where
  messageId : String
  correlationId : Option String
  headers : List (String × String)

def Context.view (context : Context) : Context.View :=
  ⟨context.messageId, context.correlationId, context.headers.visible⟩

def Heard.seen {η : Type} (heard : Heard η) : η × Value × Context.View :=
  (heard.handler, heard.message, heard.context.view)

theorem Heard.seen_eq {η : Type} {handler : η} {message : Value} {context other : Context}
    (same : context.view = other.view) :
    Heard.seen ⟨handler, message, context⟩ = Heard.seen ⟨handler, message, other⟩ :=
  congrArg (handler, message, ·) same

/-- What handlers share, with a record of their calls. -/
structure World (η ω : Type) where
  heard : List (Heard η)
  shared : ω

namespace World

variable {η ω : Type}

def journal : Part (World η ω) (List (Heard η)) :=
  ⟨World.heard, fun heard world => { world with heard }⟩

def common : Part (World η ω) ω :=
  ⟨World.shared, fun shared world => { world with shared }⟩

/-- The calls as the handlers saw them, and what is shared. -/
def seen (world : World η ω) : List (η × Value × Context.View) × ω :=
  (world.heard.map Heard.seen, world.shared)

variable {world other : World η ω}

theorem shared_eq (same : world.seen = other.seen) : world.shared = other.shared :=
  congrArg Prod.snd same

theorem seen_common (same : world.seen = other.seen) (shared : ω) :
    (common.put shared world).seen = (common.put shared other).seen :=
  congrArg (fun seen => (seen.1, shared)) same

theorem seen_journal (same : world.seen = other.seen) {heard heard' : Heard η}
    (call : heard.seen = heard'.seen) :
    (journal.put (journal.get world ++ [heard]) world).seen =
      (journal.put (journal.get other ++ [heard']) other).seen := by
  have before : world.heard.map Heard.seen = other.heard.map Heard.seen := congrArg Prod.fst same
  simp [seen, journal, before, call, shared_eq same]

end World

/-- A change of a context, of which applications see the same whatever the reserved headers say. -/
structure Amendment where
  change : Context → Context
  blind : ∀ {context other : Context}, context.view = other.view →
    (change context).view = (change other).view

def Amendment.none : Amendment := ⟨id, id⟩

namespace Outgoing

/-- Whether the headers that are given for a message, if they are headers at all, do not say that its
body lies in a store. -/
def IsInline (outgoing : Outgoing) : Prop :=
  ∀ json headers, Mapping.ofJson outgoing.givenHeaders = .ok json →
    Field.texts json = .ok headers →
    (headers.get? Headers.modeName).any (Text.isWord Headers.externalMode) = false

theorem isInline_ofMessage (message : Value) : (ofMessage message).IsInline := by
  intro json headers given read
  cases given
  cases read
  rfl

theorem IsInline.isExternal {outgoing : Outgoing} {id : String} {now : Instant}
    {envelope : Envelope} (inline : outgoing.IsInline)
    (packed : outgoing.packed id now = .ok envelope) : envelope.isExternal = false := by
  simp only [Outgoing.packed] at packed
  cases written : Message.serialize outgoing.message with
  | error failure =>
    rw [written] at packed
    cases packed
  | ok body =>
    cases given : Mapping.ofJson outgoing.givenHeaders with
    | error failure =>
      rw [written, given] at packed
      cases packed
    | ok json =>
      rw [written, given] at packed
      have read := Envelope.read_of_ofDraft (mapError_eq_ok.mp packed)
      exact inline json envelope.headers given read.2

end Outgoing

/-- The messages of a step are inline. -/
def Bus.Step.IsInline {η : Type} : Bus.Step η → Prop
  | .publish _ outgoing _ => outgoing.IsInline
  | _ => True

/-- What a handler does, once it is told about a message. -/
inductive Conduct (η ω : Type)
  /-- Return, and leave the context to the next handler. -/
  | leave (amendment : Amendment)
  | fail (failure : Failure)
  /-- Look at the clock and at what is shared, and change the latter. -/
  | act (change : Instant → ω → ω) (next : Instant → ω → Conduct η ω)
  /-- Do something with the bus, and go on whatever comes of it. -/
  | use (step : Bus.Step η) (next : Except Failure (Option Subscription) → Conduct η ω)
  | count (next : Nat → Conduct η ω)

namespace Conduct

variable {η ω ρ τ : Type}

/-- Whether all messages that are published along the way are inline. -/
def IsInline : Conduct η ω → Prop
  | .leave _ | .fail _ => True
  | .act _ next => ∀ now shared, (next now shared).IsInline
  | .use step next => step.IsInline ∧ ∀ outcome, (next outcome).IsInline
  | .count next => ∀ count, (next count).IsInline

/-- Act on the world as it is part of a state, and on the bus by the given steps. -/
def run (world : Part ρ (World η ω))
    (perform : Bus.Step η → Action (Bus η × ρ) (Option Subscription)) (context : Context) :
    Conduct η ω → Action (Bus η × ρ) Context
  | .leave amendment => return amendment.change context
  | .fail failure => throw failure
  | .act change next => do
    let now ← Action.now
    let (_, state) ← Action.inspect id
    let shared := (world.get state).shared
    Action.update fun state =>
      (state.1, (world.compose World.common).put (change now shared) state.2)
    (next now shared).run world perform context
  | .use step next => do
    let outcome ← (perform step).caught
    (next outcome).run world perform context
  | .count next => do
    let (bus, _) ← Action.inspect id
    (next bus.subscriberCount).run world perform context

/-- How handlers are called that act by their conducts. Calls within calls go down to a depth. -/
def deliver (desk : Desk ρ τ) (world : Part ρ (World η ω))
    (conduct : η → Value → Context.View → Conduct η ω) : Nat → Bus.Delivery η ρ
  | 0 => fun _ _ _ => throw (.tooDeep "maximum recursion depth exceeded")
  | depth + 1 =>
    Bus.noting (world.compose World.journal) fun handler message context =>
      (conduct handler message context.view).run world
        (fun step => step.perform desk (deliver desk world conduct depth)) context

end Conduct

/-- The scene of a call that learns nothing of the identifiers given out. -/
def Scene.blind {ρ : Type} (scene : Scene ρ) : Scene ρ :=
  { scene with ids := .initial [] }

namespace Action

variable {ρ α : Type}

/-- The same action without its use of identifiers. -/
def blindly (action : Action ρ α) : Action ρ α := fun scene =>
  match action scene.blind with
  | .ok value after => .ok value { after with ids := scene.ids }
  | .error failure after => .error failure { after with ids := scene.ids }

end Action

namespace Call

variable {ρ ω α : Type}

/-- The same call without its use of identifiers, which are as good as drawn at random. -/
def blindly (call : Call ρ α) : Call ρ α where
  start scene :=
    match call.start scene.blind with
    | (.ended result, after) => (.ended result, { after with ids := scene.ids })
    | (.selfCancelled, after) => (.selfCancelled, { after with ids := scene.ids })
    | (.waiting stop abandon, after) =>
      (.waiting stop.blindly fun later => { abandon later.blind with ids := later.ids },
        { after with ids := scene.ids })

/-- The call of a handler of requests that acts on the world as it is part of a state. The call is
written down as it begins. -/
def ofHandler (world : Part ρ (World Unit ω)) (handle : Value → Context.View → Call ω α)
    (message : Value) (context : Context) : Call ρ α :=
  .after
    (Action.update fun state =>
      let journal := world.compose World.journal
      journal.put (journal.get state ++ [⟨(), message, context⟩]) state)
    ((handle message context.view).blindly.on (world.compose World.common))

end Call
end ClaimCheck
