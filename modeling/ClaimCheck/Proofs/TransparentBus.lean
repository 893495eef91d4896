import ClaimCheck.Proofs.MemoryDesk

/-!
Two buses in parallel, one with a vacant desk and one with a desk over a store in memory. Whatever is
done with both of them, the same handlers are called in the same order, and see the same.
-/
namespace ClaimCheck

namespace Scene.Alike

variable {ρ σ : Type} {same : ρ → σ → Prop} {scene : Scene ρ} {other : Scene σ}

theorem identified (alike : scene.Alike same other) (id : String) :
    (scene.identified id).Alike same (other.identified id) :=
  ⟨alike.now, alike.raised, alike.task, congrArg (id :: ·) alike.given, alike.warnings, alike.rest⟩

end Scene.Alike

namespace Bus

variable {η ω : Type}

/-- Two states that handlers cannot tell apart. -/
structure Mirrors (plain : Bus η × World η ω) (checked : Bus η × MemoryStore × World η ω) :
    Prop where
  issued : plain.1.issued = checked.1.issued
  live : plain.1.live = checked.1.live
  closed : plain.1.closed = checked.1.closed
  world : plain.2.seen = checked.2.2.seen

/-- Two scenes that handlers cannot tell apart, where no signal is raised. -/
structure Parallel (plain : Scene (Bus η × World η ω))
    (checked : Scene (Bus η × MemoryStore × World η ω)) : Prop where
  alike : plain.Alike Mirrors checked
  quiet : plain.raised = []

private theorem Mirrors.withWorld {plain : Bus η × World η ω}
    {checked : Bus η × MemoryStore × World η ω} (mirrors : Mirrors plain checked)
    {world world' : World η ω} (same : world.seen = world'.seen) :
    Mirrors (plain.1, world) (checked.1, checked.2.1, world') :=
  ⟨mirrors.issued, mirrors.live, mirrors.closed, same⟩

/-- Contexts that applications cannot tell apart. -/
def SeenAlike (context other : Context) : Prop :=
  context.view = other.view

namespace Parallel

variable {plain : Scene (Bus η × World η ω)} {checked : Scene (Bus η × MemoryStore × World η ω)}

/-- To begin with, the only difference is a store of whatever content. -/
theorem ofStore (quiet : plain.raised = []) (store : MemoryStore) :
    Parallel plain (plain.withRest (plain.rest.1, store, plain.rest.2)) :=
  ⟨⟨rfl, rfl, rfl, rfl, rfl, ⟨rfl, rfl, rfl, rfl⟩⟩, quiet⟩

theorem free (parallel : Parallel plain checked) (signal : Option Signal) :
    plain.isCancelled signal = false ∧ checked.isCancelled signal = false := by
  have quiet : plain.isCancelled signal = false := by
    cases signal <;> simp [Scene.isCancelled, Scene.isRaised, parallel.quiet]
  exact ⟨quiet, parallel.alike.isCancelled signal ▸ quiet⟩

theorem identified (parallel : Parallel plain checked) (id : String) :
    Parallel (plain.identified id) (checked.identified id) :=
  ⟨parallel.alike.identified id, parallel.quiet⟩

/-- States that mirror each other may be put in the place of the present ones. -/
theorem withRest (parallel : Parallel plain checked) {state : Bus η × World η ω}
    {other : Bus η × MemoryStore × World η ω} (mirrors : Mirrors state other) :
    Parallel { plain with rest := state } { checked with rest := other } :=
  ⟨parallel.alike.withRest mirrors, parallel.quiet⟩

end Parallel

private theorem alike_update {change : Bus η × World η ω → Bus η × World η ω}
    {change' : Bus η × MemoryStore × World η ω → Bus η × MemoryStore × World η ω}
    (keeps : ∀ {state other}, Mirrors state other → Mirrors (change state) (change' other)) :
    Action.Alike Parallel Eq (Action.update change) (Action.update change') := by
  intro plain checked parallel
  exact .returned rfl (parallel.withRest (keeps parallel.alike.rest))

private theorem alike_now :
    Action.Alike (Parallel (η := η) (ω := ω)) Eq Action.now Action.now :=
  fun _ _ parallel => .returned parallel.alike.now parallel

private theorem alike_inspect :
    Action.Alike Parallel (Mirrors : Bus η × World η ω → _) (Action.inspect id)
      (Action.inspect id) := by
  intro plain checked parallel
  exact .returned parallel.alike.rest parallel

/-- Calls of handlers that go on in parallel. -/
def DeliverAlike (deliver : Delivery η (World η ω)) (other : Delivery η (MemoryStore × World η ω)) :
    Prop :=
  ∀ handler message {context context'}, SeenAlike context context' →
    Action.Alike Parallel SeenAlike (deliver handler message context)
      (other handler message context')

variable {deliver : Delivery η (World η ω)} {other : Delivery η (MemoryStore × World η ω)}
  {policy : Policy}

private theorem alike_subscribe (handler : Option η) :
    Action.Alike Parallel Eq (subscribe handler : Action (Bus η × World η ω) Subscription)
      (subscribe handler) := by
  cases handler with
  | none => exact Action.alike_throw _
  | some handler =>
    refine alike_inspect.bind fun state state' mirrors => ?_
    refine (alike_update fun mirrors => ?_).bind fun _ _ _ => Action.alike_pure mirrors.issued
    refine ⟨?_, ?_, mirrors.closed, mirrors.world⟩
    · simp [add, mirrors.issued]
    · simp [add, mirrors.issued, mirrors.live]

theorem Mirrors.closeIssued {state : Bus η × World η ω} {other : Bus η × MemoryStore × World η ω}
    (mirrors : Mirrors state other) (subscription : Subscription) :
    Mirrors (state.1.closeIssued subscription, state.2)
      (other.1.closeIssued subscription, other.2) := by
  obtain ⟨issued, live, closed, world⟩ := mirrors
  have known : state.1.isClosed subscription = other.1.isClosed subscription := by
    rw [isClosed, closed, isClosed]
  by_cases below : subscription < other.1.issued
  · cases before : other.1.isClosed subscription <;>
      constructor <;> simp [Bus.closeIssued, Bus.close, *]
  · constructor <;> simp [Bus.closeIssued, *]

private theorem transfer_of_returns {ρ τ : Type} {desk : Desk ρ τ} {outgoing : Outgoing}
    {id : String} {signal : Option Signal} {scene : Scene (Bus η × ρ)}
    {envelope sent received : Envelope} {after : Scene ρ} (given : outgoing.message.isNull = false)
    (packed : outgoing.packed id scene.now = .ok envelope)
    (returns : desk.Returns signal envelope (scene.withRest scene.rest.2) sent received after) :
    transfer (desk.passage.on .second) outgoing signal (scene.identified id) =
      .ok (scene.rest.1.live, received)
        (after.withRest (scene.rest.1.record sent, after.rest)) := by
  have out : (desk.outbound envelope signal).on .second scene =
      .ok sent (after.withRest (scene.rest.1, after.rest)) :=
    Action.on_eq_ok_iff.mpr ⟨after, returns.outbound, rfl⟩
  have back : (desk.inbound sent signal).on .second
      (after.withRest (scene.rest.1.record sent, after.rest)) =
        .ok received (after.withRest (scene.rest.1.record sent, after.rest)) :=
    Action.on_eq_ok_iff.mpr ⟨after, returns.inbound, rfl⟩
  have receives : Receives (desk.passage.on .second) outgoing signal (scene.identified id) received
      (after.withRest (scene.rest.1.record sent, after.rest)) :=
    .intro given (.intro (Outgoing.pack_of_packed packed) out) back
  exact transfer_of_receives receives

private theorem transfer_of_unpacked {passage : Passage (Bus η × ρ)} {outgoing : Outgoing}
    {id : String} {signal : Option Signal} {scene : Scene (Bus η × ρ)} {failure : Failure}
    (given : outgoing.message.isNull = false)
    (unpacked : outgoing.packed id scene.now = .error failure) :
    transfer passage outgoing signal (scene.identified id) = .error failure scene :=
  transfer_of_heldBack given (.unpacked (Outgoing.pack_of_unpacked unpacked))

private theorem transfer_alike (sound : policy.isSound = true) {outgoing : Outgoing}
    (inline : outgoing.IsInline) (id : String) (signal : Option Signal)
    {plain : Scene (Bus η × World η ω)} {checked : Scene (Bus η × MemoryStore × World η ω)}
    (parallel : Parallel plain checked) :
    EndAlike Parallel
      (fun found found' => found.1 = found'.1 ∧ SeenAlike found.2.context found'.2.context)
      (transfer ((.vacant : Desk _ ByteStream).passage.on .second) outgoing signal
        (plain.identified id))
      (transfer ((Desk.overMemory policy).passage.on .second) outgoing signal
        (checked.identified id)) := by
  cases given : outgoing.message.isNull with
  | true =>
    rw [transfer_of_null given, transfer_of_null given]
    exact .failed (parallel.identified id)
  | false =>
    cases packed : outgoing.packed id plain.now with
    | error failure =>
      rw [transfer_of_unpacked given packed,
        transfer_of_unpacked given (parallel.alike.now ▸ packed)]
      exact .failed parallel
    | ok envelope =>
      have free : (checked.withRest checked.rest.2).isCancelled signal = false :=
        (parallel.free signal).2
      obtain ⟨sent, received, after, returns, kept⟩ := Desk.returns_overMemory sound
        (inline.isExternal packed) free
      rw [transfer_of_returns given packed (Desk.vacant_returns envelope signal _),
        transfer_of_returns given (parallel.alike.now ▸ packed) returns]
      -- The desk has changed the store and the count of identifiers only, and neither is seen.
      have mirrors := parallel.alike.rest
      have still : checked.Alike (fun _ _ => True) (checked.withRest checked.rest.2) :=
        ⟨rfl, rfl, rfl, rfl, rfl, trivial⟩
      have since : plain.Alike (fun _ _ => True) after :=
        (parallel.alike.trans still).trans kept
      refine .returned ⟨mirrors.live, returns.seen.symm⟩ ⟨since.withRest ?_, parallel.quiet⟩
      exact ⟨mirrors.issued, mirrors.live, mirrors.closed,
        mirrors.world.trans (congrArg World.seen kept.rest)⟩

private theorem deliverAll_alike (alike : DeliverAlike deliver other) (signal : Option Signal)
    (message : Value) (entries : List (Subscription × η)) {context context' : Context}
    (seen : SeenAlike context context') :
    Action.Alike Parallel Eq (deliverAll deliver signal message entries context)
      (deliverAll other signal message entries context') := by
  induction entries generalizing context context' with
  | nil => exact Action.alike_pure rfl
  | cons entry rest ih =>
    intro plain checked parallel
    obtain ⟨free, free'⟩ := parallel.free signal
    have passes : Action.ensureNotCancelled signal plain = .ok () plain := by
      simp [Action.ensureNotCancelled_run, free]
    have passes' : Action.ensureNotCancelled signal checked = .ok () checked := by
      simp [Action.ensureNotCancelled_run, free']
    simp only [deliverAll]
    rw [Action.bind_of_ok passes, Action.bind_of_ok passes']
    exact ((alike entry.2 message seen).bind fun _ _ seen => ih seen) parallel

private theorem publishAs_alike (sound : policy.isSound = true) (alike : DeliverAlike deliver other)
    {outgoing : Outgoing} (inline : outgoing.IsInline) (id : String) (signal : Option Signal) :
    Action.Alike Parallel Eq (publishAs (.vacant : Desk _ ByteStream) deliver id outgoing signal)
      (publishAs (Desk.overMemory policy) other id outgoing signal) := by
  intro plain checked parallel
  have ends := transfer_alike sound inline id signal parallel
  rw [publishAs, publish, publishBy_run, publishAs, publish, publishBy_run]
  generalize transfer _ _ _ (plain.identified id) = result,
    transfer _ _ _ (checked.identified id) = result' at ends
  cases ends with
  | @returned found found' after after' same parallel =>
    obtain ⟨live, received⟩ := found
    obtain ⟨live', received'⟩ := found'
    obtain ⟨rfl, seen⟩ := same
    exact deliverAll_alike alike signal outgoing.message live seen parallel
  | failed parallel => exact .failed parallel

/-- Every step comes to the same on both buses, if calls of handlers do. -/
theorem perform_alike (sound : policy.isSound = true) (alike : DeliverAlike deliver other)
    {step : Step η} (inline : step.IsInline) :
    Action.Alike Parallel Eq (step.perform (.vacant : Desk _ ByteStream) deliver)
      (step.perform (Desk.overMemory policy) other) := by
  cases step with
  | subscribe handler => exact (alike_subscribe handler).map fun _ _ same => congrArg some same
  | close subscription =>
    refine (alike_update fun mirrors => ?_).bind fun _ _ _ => Action.alike_pure rfl
    exact mirrors.closeIssued subscription
  | clear =>
    refine (alike_update fun mirrors => ?_).bind fun _ _ _ => Action.alike_pure rfl
    exact ⟨mirrors.issued, rfl, mirrors.closed, mirrors.world⟩
  | publish id outgoing signal =>
    exact (publishAs_alike sound alike inline id signal).bind fun _ _ _ => Action.alike_pure rfl
  | pass now =>
    intro plain checked parallel
    obtain ⟨⟨_, raised, task, given, warnings, rest⟩, quiet⟩ := parallel
    exact .returned rfl ⟨⟨rfl, raised, task, given, warnings, rest⟩, quiet⟩

end Bus

namespace Conduct

variable {η ω : Type} {policy : Policy}

private theorem run_alike {perform : Bus.Step η → Action (Bus η × World η ω) (Option Subscription)}
    {perform' : Bus.Step η → Action (Bus η × MemoryStore × World η ω) (Option Subscription)}
    (steps : ∀ {step}, step.IsInline → Action.Alike Bus.Parallel Eq (perform step) (perform' step))
    (conduct : Conduct η ω) (inline : conduct.IsInline) {context context' : Context}
    (seen : Bus.SeenAlike context context') :
    Action.Alike Bus.Parallel Bus.SeenAlike (conduct.run .whole perform context)
      (conduct.run .second perform' context') := by
  induction conduct with
  | leave amendment => exact Action.alike_pure (amendment.blind seen)
  | fail failure => exact Action.alike_throw failure
  | act change next ih =>
    refine Bus.alike_now.bind fun now _ same => ?_
    refine same ▸ Bus.alike_inspect.bind fun state state' mirrors => ?_
    have shared : state.2.shared = state'.2.2.shared := World.shared_eq mirrors.world
    refine (Bus.alike_update fun {later later'} mirrors => ?_).bind fun _ _ _ => ?_
    · have same := World.seen_common mirrors.world (change now state.2.shared)
      exact mirrors.withWorld (same.trans (shared ▸ rfl))
    · change Action.Alike _ _ ((next now state.2.shared).run .whole perform context)
        ((next now state'.2.2.shared).run .second perform' context')
      exact shared ▸ ih now _ (inline now _)
  | use step next ih =>
    exact (steps inline.1).caught.bind fun outcome _ same => same ▸ ih outcome (inline.2 outcome)
  | count next ih =>
    refine Bus.alike_inspect.bind fun state state' mirrors => ?_
    have count : state.1.subscriberCount = state'.1.subscriberCount :=
      congrArg List.length mirrors.live
    exact count ▸ ih _ (inline _)

/-- Handlers are called in parallel, however deep calls go. -/
theorem deliver_alike (sound : policy.isSound = true)
    {conduct : η → Value → Context.View → Conduct η ω}
    (inline : ∀ handler message context, (conduct handler message context).IsInline)
    (depth : Nat) :
    Bus.DeliverAlike (deliver (.vacant : Desk _ ByteStream) .whole conduct depth)
      (deliver (Desk.overMemory policy) .second conduct depth) := by
  -- What a handler does with the bus calls other handlers one level further down.
  induction depth with
  | zero => exact fun _ _ _ _ _ => Action.alike_throw _
  | succ depth ih =>
    intro handler message context context' seen
    refine (Bus.alike_update fun {state state'} mirrors => ?_).bind fun _ _ _ => ?_
    · exact mirrors.withWorld (World.seen_journal mirrors.world (Heard.seen_eq seen))
    · have told : conduct handler message context.view = conduct handler message context'.view :=
        congrArg _ seen
      simp only [told]
      exact run_alike (fun inline => Bus.perform_alike sound ih inline) _ (inline ..) seen

end Conduct

namespace Bus

variable {η ω ρ τ : Type}

/-- What applications see of a step that was taken: what it came to, who is subscribed then, and the
world as it is then. -/
def Event.seen (world : Part ρ (World η ω)) (event : Event η ρ) :
    Except Failure (Option Subscription) × List (Subscription × η) ×
      List (η × Value × Context.View) × ω :=
  (event.outcome, event.after.rest.1.live, (world.get event.after.rest.2).seen)

variable {deliver : Delivery η (World η ω)} {other : Delivery η (MemoryStore × World η ω)}
  {policy : Policy} {plain : Scene (Bus η × World η ω)}
  {checked : Scene (Bus η × MemoryStore × World η ω)}

private theorem event_alike (sound : policy.isSound = true) (alike : DeliverAlike deliver other)
    {step : Step η} (inline : step.IsInline) (parallel : Parallel plain checked) :
    let event := Event.of (.vacant : Desk _ ByteStream) deliver step plain
    let event' := Event.of (Desk.overMemory policy) other step checked
    event.seen .whole = event'.seen .second ∧ Parallel event.after event'.after := by
  have ends := perform_alike sound alike inline parallel
  simp only [Event.of]
  generalize step.perform _ deliver plain = result, step.perform _ other checked = result' at ends
  cases ends with
  | returned same parallel =>
    have mirrors := parallel.alike.rest
    exact ⟨Prod.ext (congrArg Except.ok same) (Prod.ext mirrors.live mirrors.world), parallel⟩
  | failed parallel =>
    have mirrors := parallel.alike.rest
    exact ⟨Prod.ext rfl (Prod.ext mirrors.live mirrors.world), parallel⟩

/-- Whole runs are the same on both buses, and leave them in parallel. -/
theorem history_alike (sound : policy.isSound = true) (alike : DeliverAlike deliver other)
    (steps : List (Step η)) (inline : ∀ step ∈ steps, step.IsInline)
    (parallel : Parallel plain checked) :
    (history (.vacant : Desk _ ByteStream) deliver plain steps).map (Event.seen .whole) =
        (history (Desk.overMemory policy) other checked steps).map (Event.seen .second) ∧
      Parallel (ending (.vacant : Desk _ ByteStream) deliver plain steps)
        (ending (Desk.overMemory policy) other checked steps) := by
  induction steps generalizing plain checked with
  | nil => exact ⟨rfl, parallel⟩
  | cons step rest ih =>
    obtain ⟨first, parallel⟩ := event_alike sound alike (inline step (by simp)) parallel
    obtain ⟨later, parallel⟩ := ih (fun step member => inline step (by simp [member])) parallel
    exact ⟨by simp only [history, List.map_cons, first, later], parallel⟩

end Bus
end ClaimCheck
