import ClaimCheck.Proofs.RequestGate
import ClaimCheck.Proofs.TransparentBus

/-!
Requests in parallel, one by way of a vacant desk and one by way of a desk over a store in memory;
and what becomes of both transports: nobody who uses them can tell whether claims are checked.
-/
namespace ClaimCheck

section

variable {ρ σ π α : Type} {same : ρ → σ → Prop} {left : Part ρ π} {right : Part σ π}

namespace Scene.Alike

variable {scene : Scene ρ} {other : Scene σ}

private theorem blind_eq (alike : scene.Alike same other) (fits : Part.Matches same left right) :
    (scene.withRest (left.get scene.rest)).blind =
      (other.withRest (right.get other.rest)).blind := by
  simp [Scene.blind, Scene.withRest, alike.now, alike.raised, alike.task, alike.warnings,
    fits.get alike.rest]

private theorem putBack (alike : scene.Alike same other) (fits : Part.Matches same left right)
    (after : Scene π) :
    Scene.Alike same
      (Scene.withRest { after with ids := scene.ids } (left.put after.rest scene.rest))
      (Scene.withRest { after with ids := other.ids } (right.put after.rest other.rest)) :=
  ⟨rfl, rfl, rfl, alike.given, rfl, fits.put after.rest alike.rest⟩

end Scene.Alike

private theorem Action.blindly_on_alike (fits : Part.Matches same left right)
    (action : Action π α) :
    Action.Alike (Scene.Alike same) Eq (action.blindly.on left) (action.blindly.on right) := by
  intro scene other alike
  simp only [Action.on, Action.blindly, alike.blind_eq fits]
  cases action (other.withRest (right.get other.rest)).blind with
  | ok value after => exact .returned rfl (alike.putBack fits after)
  | error failure after => exact .failed (alike.putBack fits after)

private theorem Call.blindly_on_alike (fits : Part.Matches same left right) (call : Call π α) :
    Call.Alike (Scene.Alike same) (call.blindly.on left) (call.blindly.on right) := by
  intro scene other alike
  simp only [Call.on, Call.blindly, alike.blind_eq fits]
  rcases call.start (other.withRest (right.get other.rest)).blind with ⟨progress, after⟩
  cases progress with
  | ended result => exact ⟨.ended result, alike.putBack fits after⟩
  | selfCancelled => exact ⟨.selfCancelled, alike.putBack fits after⟩
  | waiting stop abandon =>
    refine ⟨.waiting (Action.blindly_on_alike fits stop) ?_, alike.putBack fits after⟩
    intro later later' alike
    simp only [alike.blind_eq fits]
    exact alike.putBack fits _

end

namespace Requests

variable {ρ σ τ ω α : Type} {same : ρ → σ → Prop}

private theorem reply_alike (messageId : String) (result : Except Failure α) :
    Action.Alike (Scene.Alike same) Eq (reply messageId result) (reply messageId result) := by
  cases result with
  | ok value => exact Action.alike_pure rfl
  | error failure =>
    simp only [reply]
    split
    · exact Action.alike_throw failure
    · split
      · exact Action.alike_pure rfl
      · split
        · exact Action.alike_pure rfl
        · exact (Action.alike_warn _).bind fun _ _ _ => Action.alike_pure rfl

private theorem stop_alike {progress : Progress ρ α} {other : Progress σ α}
    (alike : progress.Alike (Scene.Alike same) other) :
    Action.Alike (Scene.Alike same) Eq (stop progress) (stop other) := by
  cases alike with
  | ended result => exact Action.alike_pure rfl
  | selfCancelled => exact Action.alike_pure rfl
  | waiting stops leaves =>
    refine Action.Alike.recover (stops.bind fun _ _ _ => Action.alike_pure rfl) fun failure => ?_
    split
    · exact Action.alike_pure rfl
    · exact Action.alike_throw failure

private theorem settle_alike {progress : Progress ρ α} {other : Progress σ α}
    (paused : progress.Alike (Scene.Alike same) other) (messageId : String) (limited : Bool)
    (signal : Option Signal) :
    Action.Alike (Scene.Alike same) Eq (settle messageId limited signal progress)
      (settle messageId limited signal other) := by
  intro scene scene' alike
  simp only [settle]
  rw [← alike.task, ← paused.hasEnded, ← alike.isCancelled signal]
  cases RaceVerdict.decide scene.task.pending progress.hasEnded
      (scene.isCancelled signal || limited) with
  | callerStops => exact .failed (paused.leave (alike.withTask _))
  | callWins => exact paused.outcome ▸ reply_alike messageId _ alike
  | signalWins =>
    exact (stop_alike paused).bind (fun _ _ _ => Action.alike_pure rfl) alike
  | undecided => exact .failed alike

private theorem await_alike {call : Call ρ α} {other : Call σ α}
    (alike : Call.Alike (Scene.Alike same) call other) (messageId : String) (limit : Value)
    (signal : Option Signal) :
    Action.Alike (Scene.Alike same) Eq (await messageId limit signal call)
      (await messageId limit signal other) := by
  intro scene scene' start
  obtain ⟨paused, after⟩ := alike start
  cases timed : Timeout.ensureTimed limit with
  | error fault =>
    rw [await_of_untimed timed, await_of_untimed timed]
    exact .failed after
  | ok =>
    rw [await_of_timed timed, await_of_timed timed]
    exact settle_alike paused messageId _ signal after

private theorem send_of_returns {desk : Desk ρ τ} {limit : Value}
    {handle : Value → Context → Call ρ α} {outgoing : Outgoing} {id : String}
    {signal : Option Signal} {scene after : Scene ρ} {envelope sent received : Envelope}
    (valid : Timeout.isNegative limit = .ok false)
    (packed : outgoing.packed id scene.now = .ok envelope)
    (returns : desk.Returns signal envelope scene sent received after)
    (free : after.isCancelled signal = false) :
    send desk limit handle outgoing signal (scene.identified id) =
      await envelope.messageId limit signal (handle outgoing.message received.context) after := by
  have arrives : desk.passage.Arrives outgoing signal (scene.identified id) envelope received after :=
    .intro (.intro (Outgoing.pack_of_packed packed) returns.outbound) returns.inbound
  exact sendBy_of_transfer (transfer_eq_ok_iff.mpr ⟨valid, arrives, free⟩)

private theorem send_of_unpacked {desk : Desk ρ τ} {limit : Value}
    {handle : Value → Context → Call ρ α} {outgoing : Outgoing} {id : String}
    {signal : Option Signal} {scene : Scene ρ} {failure : Failure}
    (valid : Timeout.isNegative limit = .ok false)
    (unpacked : outgoing.packed id scene.now = .error failure) :
    send desk limit handle outgoing signal (scene.identified id) = .error failure scene :=
  sendBy_of_heldBack valid (.unpacked (Outgoing.pack_of_unpacked unpacked))

/-- Worlds that handlers cannot tell apart, one with a store beside it. -/
def Mirrors (world : World Unit ω) (state : MemoryStore × World Unit ω) : Prop :=
  world.seen = state.2.seen

private theorem common_fits :
    Part.Matches (Mirrors (ω := ω)) (Part.whole.compose World.common)
      (Part.second.compose World.common) where
  get mirrors := World.shared_eq mirrors
  put shared mirrors := World.seen_common mirrors shared

private theorem ofHandler_alike (handle : Value → Context.View → Call ω α) (message : Value)
    {context context' : Context} (seen : context.view = context'.view) :
    Call.Alike (Scene.Alike Mirrors) (Call.ofHandler .whole handle message context)
      (Call.ofHandler .second handle message context') := by
  refine Call.Alike.after ?_ ?_
  · intro scene scene' alike
    exact .returned rfl (alike.withRest (World.seen_journal alike.rest (Heard.seen_eq seen)))
  · rw [seen]
    exact Call.blindly_on_alike common_fits _

/-- Requests come to the same by both desks. -/
theorem send_alike {policy : Policy} (sound : policy.isSound = true)
    (handle : Value → Context.View → Call ω α) (limit : Value) {outgoing : Outgoing}
    (inline : outgoing.IsInline) (id : String) (signal : Option Signal)
    {plain : Scene (World Unit ω)} {checked : Scene (MemoryStore × World Unit ω)}
    (alike : plain.Alike Mirrors checked) (free : plain.isCancelled signal = false) :
    EndAlike (Scene.Alike Mirrors) Eq
      (send (.vacant : Desk _ ByteStream) limit (Call.ofHandler .whole handle) outgoing signal
        (plain.identified id))
      (send (Desk.overMemory policy) limit (Call.ofHandler .second handle) outgoing signal
        (checked.identified id)) := by
  cases order : Timeout.isNegative limit with
  | error misuse =>
    rw [send, sendBy_of_unordered order, send, sendBy_of_unordered order]
    exact .failed (alike.identified id)
  | ok negative =>
    cases negative with
    | true =>
      rw [send, sendBy_of_negative order, send, sendBy_of_negative order]
      exact .returned rfl (alike.identified id)
    | false =>
      cases packed : outgoing.packed id plain.now with
      | error failure =>
        rw [send_of_unpacked order packed, send_of_unpacked order (alike.now ▸ packed)]
        exact .failed alike
      | ok envelope =>
        obtain ⟨sent, received, after, returns, kept⟩ := Desk.returns_overMemory sound
          (inline.isExternal packed) (alike.isCancelled signal ▸ free)
        have later : plain.Alike Mirrors after :=
          (alike.trans kept).withRest (alike.rest.trans (congrArg World.seen kept.rest))
        rw [send_of_returns order packed (Desk.vacant_returns envelope signal plain) free,
          send_of_returns order (alike.now ▸ packed) returns (later.isCancelled signal ▸ free)]
        exact await_alike (ofHandler_alike handle _ returns.seen.symm) _ _ _ later

end Requests

/-- Whether a transport checks claims cannot be seen by those who use it, as long as no signal is
raised and no message claims by its own headers that its body lies in a store. On a bus, whatever is
done with it and whatever its handlers do, every step comes to the same, calls the same handlers in
the same order, and shows them the same; a request is answered the same by the same handler. -/
theorem desk_is_transparent {η ω α : Type} (policy : Policy) (sound : policy.isSound = true) :
    (∀ (conduct : η → Value → Context.View → Conduct η ω) (depth : Nat)
      (steps : List (Bus.Step η)) (plain : Scene (Bus η × World η ω))
      (checked : Scene (Bus η × MemoryStore × World η ω)),
      (∀ handler message context, (conduct handler message context).IsInline) →
      (∀ step ∈ steps, step.IsInline) → Bus.Parallel plain checked →
      let bare : Desk (World η ω) ByteStream := .vacant
      let staffed : Desk (MemoryStore × World η ω) ByteStream := .overMemory policy
      let deliver := Conduct.deliver bare .whole conduct depth
      let deliver' := Conduct.deliver staffed .second conduct depth
      (Bus.history bare deliver plain steps).map (Bus.Event.seen .whole) =
          (Bus.history staffed deliver' checked steps).map (Bus.Event.seen .second) ∧
        Bus.Parallel (Bus.ending bare deliver plain steps)
          (Bus.ending staffed deliver' checked steps)) ∧
    ∀ (handle : Value → Context.View → Call ω α) (limit : Value) (outgoing : Outgoing)
      (id : String) (signal : Option Signal) (plain : Scene (World Unit ω))
      (checked : Scene (MemoryStore × World Unit ω)),
      outgoing.IsInline → plain.Alike Requests.Mirrors checked →
      plain.isCancelled signal = false →
      EndAlike (Scene.Alike Requests.Mirrors) Eq
        (Requests.send (.vacant : Desk _ ByteStream) limit (Call.ofHandler .whole handle) outgoing
          signal (plain.identified id))
        (Requests.send (Desk.overMemory policy) limit (Call.ofHandler .second handle) outgoing
          signal (checked.identified id)) := by
  constructor
  · intro conduct depth steps plain checked told inline parallel
    exact Bus.history_alike sound (Conduct.deliver_alike sound told depth) steps inline parallel
  · intro handle limit outgoing id signal plain checked inline alike free
    exact Requests.send_alike sound handle limit inline id signal alike free

/-- A handler that tells the others what it hears, once, and one that counts what it hears. -/
def sampleConduct (handler : String) (message : Value) (_ : Context.View) : Conduct String Nat :=
  match handler, message with
  | "echo", .bool true =>
    .use (.publish "again" (.ofMessage (.bool false)) none) fun _ => .leave .none
  | "echo", _ => .leave .none
  | _, _ => .act (fun _ heard => heard + 1) fun _ _ => .leave .none

private theorem sampleConduct_isInline (handler : String) (message : Value)
    (context : Context.View) : (sampleConduct handler message context).IsInline := by
  unfold sampleConduct
  split
  · exact ⟨Outgoing.isInline_ofMessage _, fun _ => trivial⟩
  · trivial
  · exact fun _ _ => trivial

def sampleRun : List (Bus.Step String) :=
  [.subscribe (some "echo"), .subscribe (some "count"),
    .publish "once" (.ofMessage (.bool true)) none, .close 0, .clear]

/-- What is left of the run by way of a desk over a part of a state. -/
def sampleEnding {ρ : Type} (desk : Desk ρ ByteStream) (world : Part ρ (World String Nat))
    (start : ρ) : Scene (Bus String × ρ) :=
  Bus.ending desk (Conduct.deliver desk world sampleConduct 2) (.bare (.empty, start)) sampleRun

private theorem sampleEnding_called :
    (sampleEnding .vacant .whole ⟨[], 0⟩).rest.2.heard.map Heard.call =
      [("echo", .bool true), ("echo", .bool false), ("count", .bool false),
        ("count", .bool true)] := by
  change _ = [("echo", true), ("echo", false), ("count", false), ("count", true)].map
    (Prod.map id Value.bool)
  exact calls_of_truths (by decide +kernel)

/-- The same handlers hear the same, be the body in a store or not. -/
theorem eager_desk_is_transparent :
    let asked : Scene (World Unit Nat) := .bare ⟨[], 0⟩
    let asked' : Scene (MemoryStore × World Unit Nat) := .bare (.vacant, ⟨[], 0⟩)
    let handle (message : Value) (_ : Context.View) : Call Nat Value := .ofAction (pure message)
    eager.isSound = true ∧
      (sampleEnding (.overMemory eager) .second (.vacant, ⟨[], 0⟩)).rest.2.2.seen =
        (sampleEnding .vacant .whole ⟨[], 0⟩).rest.2.seen ∧
      (sampleEnding .vacant .whole ⟨[], 0⟩).rest.2.heard.map Heard.call =
        [("echo", .bool true), ("echo", .bool false), ("count", .bool false),
          ("count", .bool true)] ∧
      EndAlike (Scene.Alike Requests.Mirrors) Eq
        (Requests.send (.vacant : Desk _ ByteStream) (.int 5) (Call.ofHandler .whole handle)
          (.ofMessage (.bool true)) none (asked.identified "once"))
        (Requests.send (Desk.overMemory eager) (.int 5) (Call.ofHandler .second handle)
          (.ofMessage (.bool true)) none (asked'.identified "once")) := by
  intro asked asked' handle
  have sound : eager.isSound = true := by decide
  have inline : ∀ step ∈ sampleRun, step.IsInline := by
    simp [sampleRun, Bus.Step.IsInline, Outgoing.isInline_ofMessage]
  obtain ⟨runs, sends⟩ := @desk_is_transparent String Nat Value eager sound
  obtain ⟨-, parallel⟩ := runs sampleConduct 2 sampleRun (.bare (.empty, ⟨[], 0⟩))
    (.bare (.empty, .vacant, ⟨[], 0⟩)) sampleConduct_isInline inline (.ofStore rfl .vacant)
  exact ⟨sound, parallel.alike.rest.world.symm, sampleEnding_called, sends handle (.int 5) _ "once"
    none asked asked' (Outgoing.isInline_ofMessage _) ⟨rfl, rfl, rfl, rfl, rfl, rfl⟩ rfl⟩

end ClaimCheck
