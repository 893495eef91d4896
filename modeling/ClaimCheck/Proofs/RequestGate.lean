import ClaimCheck.Proofs.Passages
import ClaimCheck.Transport.Requests

/-!
The gate before a handler of requests. A request calls its handler once, if its time limit does not
lie below zero, its message arrives, and its signal is not raised by then. Any other request ends
before, as its first obstacle has it.
-/
namespace ClaimCheck

namespace Progress

variable {σ π α : Type}

/-- The same pause of a call on a part. -/
def on (part : Part σ π) : Progress π α → Progress σ α
  | ended result => .ended result
  | selfCancelled => .selfCancelled
  | waiting stop abandon => .waiting (stop.on part) fun later =>
    let done := abandon (later.withRest (part.get later.rest))
    done.withRest (part.put done.rest later.rest)

@[simp] theorem hasEnded_on (part : Part σ π) (progress : Progress π α) :
    (progress.on part).hasEnded = progress.hasEnded := by
  cases progress <;> rfl

@[simp] theorem outcome_on (part : Part σ π) (progress : Progress π α) :
    (progress.on part).outcome = progress.outcome := by
  cases progress <;> rfl

private theorem leave_on {ε : Type} (progress : Progress π α) (ledger : Ledger ε π σ)
    (entries : List ε) (scene : Scene π) :
    (progress.on ledger.part).leave (ledger.opened entries scene) =
      ledger.opened entries (progress.leave scene) := by
  cases progress with
  | waiting stop abandon =>
    simp only [on, leave, Ledger.get_part, Ledger.put_part]
  | _ => rfl

end Progress

private theorem Call.start_on {σ π α : Type} {part : Part σ π} {call : Call π α} {scene : Scene σ}
    {progress : Progress π α} {paused : Scene π}
    (started : call.start (scene.withRest (part.get scene.rest)) = (progress, paused)) :
    (call.on part).start scene =
      (progress.on part, paused.withRest (part.put paused.rest scene.rest)) := by
  simp only [Call.on, started]
  cases progress <;> rfl

namespace Requests

variable {ρ τ α : Type}

/-- What a handler is asked. -/
structure Asked where
  request : Value
  context : Context

/-- A handler whose calls are written down before they are made. -/
def noting (handle : Value → Context → Call ρ α) (request : Value) (context : Context) :
    Call (List Asked × ρ) α :=
  ((handle request context).on .second).after
    (Action.update fun state => (state.1 ++ [⟨request, context⟩], state.2))

/-- The ways that a request goes: what its handler is asked, and what it comes to. -/
inductive Course (passage : Passage ρ) (limit : Value) (handle : Value → Context → Call ρ α)
    (outgoing : Outgoing) (signal : Option Signal) (scene : Scene ρ) :
    List Asked → EStateM.Result Failure (Scene ρ) (Reply α) → Prop
  /-- For a time limit below zero nothing is done. -/
  | negative (below : Timeout.isNegative limit = .ok true) :
      Course passage limit handle outgoing signal scene []
        (.ok ⟨.failure, none, some "Timeout policy returned an invalid timeout."⟩ scene)
  /-- Nor is it for a limit that has no place in the order, where the comparison fails. -/
  | unordered {misuse : Misuse} (unordered : Timeout.isNegative limit = .error misuse) :
      Course passage limit handle outgoing signal scene [] (.error (.misuse misuse) scene)
  | heldBack {failure : Failure} {after : Scene ρ} (valid : Timeout.isNegative limit = .ok false)
      (held : passage.HeldBack outgoing signal scene failure after) :
      Course passage limit handle outgoing signal scene [] (.error failure after)
  | unreceived {envelope transmitted : Envelope} {sent after : Scene ρ} {failure : Failure}
      (valid : Timeout.isNegative limit = .ok false)
      (departs : passage.Departs outgoing signal scene envelope transmitted sent)
      (failed : passage.inbound transmitted signal sent = .error failure after) :
      Course passage limit handle outgoing signal scene [] (.error failure after)
  | cancelled {envelope received : Envelope} {after : Scene ρ}
      (valid : Timeout.isNegative limit = .ok false)
      (arrives : passage.Arrives outgoing signal scene envelope received after)
      (raised : after.isCancelled signal = true) :
      Course passage limit handle outgoing signal scene []
        (.ok ⟨.timeout, none, some "Request was cancelled."⟩ after)
  /-- A limit that no clock can count ends the request, but not before its handler has begun. -/
  | untimed {envelope received : Envelope} {after : Scene ρ} {fault : Fault}
      (valid : Timeout.isNegative limit = .ok false)
      (arrives : passage.Arrives outgoing signal scene envelope received after)
      (free : after.isCancelled signal = false)
      (untimed : Timeout.ensureTimed limit = .error fault) :
      Course passage limit handle outgoing signal scene [⟨outgoing.message, received.context⟩]
        (.error (.fault fault) ((handle outgoing.message received.context).start after).2)
  | handled {envelope received : Envelope} {after : Scene ρ}
      (valid : Timeout.isNegative limit = .ok false)
      (arrives : passage.Arrives outgoing signal scene envelope received after)
      (free : after.isCancelled signal = false) (timed : Timeout.ensureTimed limit = .ok ()) :
      Course passage limit handle outgoing signal scene [⟨outgoing.message, received.context⟩]
        (settle envelope.messageId (Timeout.elapses limit) signal
          ((handle outgoing.message received.context).start after).1
          ((handle outgoing.message received.context).start after).2)

variable {passage : Passage ρ} {limit : Value} {handle : Value → Context → Call ρ α}
  {outgoing : Outgoing} {signal : Option Signal} {scene sent after : Scene ρ} {failure : Failure}
  {envelope transmitted received : Envelope}

/-- A message gets through to its handler if the limit does not lie below zero, the message arrives,
and the signal is not raised by then. -/
theorem transfer_eq_ok_iff :
    transfer passage limit outgoing signal scene =
        .ok (.ok (envelope, received) : Except (Reply α) (Envelope × Envelope)) after ↔
      Timeout.isNegative limit = .ok false ∧
        passage.Arrives outgoing signal scene envelope received after ∧
        after.isCancelled signal = false := by
  constructor
  · intro ran
    obtain ⟨negative, _, compared, ran⟩ := Action.bind_eq_ok.mp ran
    obtain ⟨order, rfl⟩ := Action.ofExcept_eq_ok.mp compared
    cases negative with
    | true => cases ran
    | false =>
      obtain ⟨packed, _, made, ran⟩ := Action.bind_eq_ok.mp ran
      obtain ⟨transmitted, _, transmits, ran⟩ := Action.bind_eq_ok.mp ran
      obtain ⟨_, reached, handed, ran⟩ := Action.bind_eq_ok.mp ran
      obtain ⟨now, _, seen, ran⟩ := Action.bind_eq_ok.mp ran
      cases seen
      cases raised : reached.isCancelled signal with
      | true =>
        simp only [raised, if_true] at ran
        cases ran
      | false =>
        simp only [raised, Bool.false_eq_true, if_false] at ran
        cases ran
        exact ⟨mapError_eq_ok.mp order, .intro (.intro made transmits) handed, raised⟩
  · rintro ⟨valid, ⟨⟨made, transmits⟩, handed⟩, free⟩
    have seen : (get : Action ρ (Scene ρ)) after = .ok after after := rfl
    simp only [transfer, valid, mapError_ok, Action.bind_run, Action.ofExcept_ok,
      Bool.false_eq_true, if_false, made, transmits, handed, seen, free, Action.pure_run]

theorem sendBy_of_negative (below : Timeout.isNegative limit = .ok true) :
    sendBy passage limit handle outgoing signal scene =
      .ok (.failed "Timeout policy returned an invalid timeout.") scene := by
  simp only [sendBy, transfer, below, mapError_ok, Action.bind_run, Action.ofExcept_ok, if_true,
    Action.pure_run]

theorem sendBy_of_unordered {misuse : Misuse}
    (unordered : Timeout.isNegative limit = .error misuse) :
    sendBy passage limit handle outgoing signal scene = .error (.misuse misuse) scene := by
  simp only [sendBy, transfer, unordered, mapError_error, Action.bind_run, Action.ofExcept_error]

theorem sendBy_of_heldBack (valid : Timeout.isNegative limit = .ok false)
    (held : passage.HeldBack outgoing signal scene failure after) :
    sendBy passage limit handle outgoing signal scene = .error failure after := by
  simp only [sendBy, transfer, valid, mapError_ok, Action.bind_run, Action.ofExcept_ok,
    Bool.false_eq_true, if_false]
  cases held with
  | unpacked failed => simp only [failed]
  | unsent made failed => simp only [made, failed]

private theorem sendBy_of_unreceived (valid : Timeout.isNegative limit = .ok false)
    (departs : passage.Departs outgoing signal scene envelope transmitted sent)
    (failed : passage.inbound transmitted signal sent = .error failure after) :
    sendBy passage limit handle outgoing signal scene = .error failure after := by
  obtain ⟨made, transmits⟩ := departs
  simp only [sendBy, transfer, valid, mapError_ok, Action.bind_run, Action.ofExcept_ok,
    Bool.false_eq_true, if_false, made, transmits, failed]

private theorem sendBy_of_cancelled (valid : Timeout.isNegative limit = .ok false)
    (arrives : passage.Arrives outgoing signal scene envelope received after)
    (raised : after.isCancelled signal = true) :
    sendBy passage limit handle outgoing signal scene =
      .ok (.timedOut "Request was cancelled.") after := by
  obtain ⟨⟨made, transmits⟩, handed⟩ := arrives
  have seen : (get : Action ρ (Scene ρ)) after = .ok after after := rfl
  simp only [sendBy, transfer, valid, mapError_ok, Action.bind_run, Action.ofExcept_ok,
    Bool.false_eq_true, if_false, made, transmits, handed, seen, raised, if_true, Action.pure_run]

/-- What is left of a request once its message has got through. -/
theorem sendBy_of_transfer
    (passed : transfer passage limit outgoing signal scene =
      .ok (.ok (envelope, received) : Except (Reply α) (Envelope × Envelope)) after) :
    sendBy passage limit handle outgoing signal scene =
      await envelope.messageId limit signal (handle outgoing.message received.context) after := by
  rw [sendBy, Action.bind_of_ok passed]

/-- By then the handler has begun. -/
theorem await_of_untimed {messageId : String} {call : Call ρ α} {fault : Fault}
    (untimed : Timeout.ensureTimed limit = .error fault) :
    await messageId limit signal call scene = .error (.fault fault) (call.start scene).2 := by
  simp only [await, Call.begin, Action.bind_run, untimed, mapError_error, Action.ofExcept_error]

theorem await_of_timed {messageId : String} {call : Call ρ α}
    (timed : Timeout.ensureTimed limit = .ok ()) :
    await messageId limit signal call scene =
      settle messageId (Timeout.elapses limit) signal (call.start scene).1 (call.start scene).2 := by
  simp only [await, Call.begin, Action.bind_run, timed, mapError_ok, Action.ofExcept_ok]

section

variable {ε σ : Type} (ledger : Ledger ε ρ σ)

private theorem reply_keeps (messageId : String) (result : Except Failure α) :
    ledger.Keeps (reply messageId result) (reply messageId result) fun _ => [] := by
  cases result with
  | ok value => exact Ledger.keeps_pure _
  | error failure =>
    simp only [reply]
    split
    · exact Ledger.keeps_throw failure
    · split
      · exact Ledger.keeps_pure _
      · split
        · exact Ledger.keeps_pure _
        · exact Ledger.keeps_silent_iff.mpr fun _ _ => rfl

private theorem stop_keeps (progress : Progress ρ α) :
    ledger.Keeps (stop (progress.on ledger.part)) (stop progress) fun _ => [] := by
  cases progress with
  | waiting ending abandon =>
    have ends : ledger.Keeps (ending.on ledger.part >>= fun _ => pure ())
        (ending >>= fun _ => pure ()) fun _ => [] := by
      have first : ledger.Keeps (ending.on ledger.part) ending fun _ => [] := Ledger.keeps_on ending
      simpa using first.bind fun _ => Ledger.keeps_pure ()
    refine ends.recover fun failure => ?_
    split
    · exact Ledger.keeps_pure ()
    · exact Ledger.keeps_throw failure
  | _ => exact Ledger.keeps_pure ()

private theorem settle_keeps (messageId : String) (limited : Bool) (signal : Option Signal)
    (progress : Progress ρ α) :
    ledger.Keeps (settle messageId limited signal (progress.on ledger.part))
      (settle messageId limited signal progress) fun _ => [] := by
  refine Ledger.keeps_silent_iff.mpr fun entries paused => ?_
  have same : (ledger.opened entries paused).isCancelled signal = paused.isCancelled signal := rfl
  have alike : (ledger.opened entries paused).task = paused.task := rfl
  simp only [settle, Progress.hasEnded_on, same, alike]
  cases RaceVerdict.decide paused.task.pending progress.hasEnded
      (paused.isCancelled signal || limited) with
  | callerStops =>
    exact congrArg (EStateM.Result.error (Failure.cancelled ""))
      (progress.leave_on ledger entries { paused with task := { paused.task with pending := false } })
  | callWins =>
    rw [Progress.outcome_on]
    exact Ledger.keeps_silent_iff.mp (reply_keeps ledger messageId progress.outcome) entries paused
  | signalWins =>
    have stopped := (stop_keeps ledger progress).bind fun _ => Ledger.keeps_pure (Reply.timedOut
      (if paused.isCancelled signal then Overrun.cancelled else .timedOut).message : Reply α)
    rw [Ledger.follow_silent] at stopped
    exact Ledger.keeps_silent_iff.mp stopped entries paused
  | undecided => rfl

private theorem await_keeps (messageId : String) (limit : Value) (signal : Option Signal)
    (call : Call ρ α) :
    ledger.Keeps (await messageId limit signal (call.on ledger.part))
      (await messageId limit signal call) fun _ => [] := by
  refine Ledger.keeps_silent_iff.mpr fun entries scene => ?_
  rcases started : call.start scene with ⟨progress, paused⟩
  have startedOn : (call.on ledger.part).start (ledger.opened entries scene) =
      (progress.on ledger.part, ledger.opened entries paused) := by
    have plain := (congrArg call.start (ledger.get_part entries scene)).trans started
    rw [Call.start_on plain, ledger.put_part]
  cases timed : Timeout.ensureTimed limit with
  | error fault =>
    rw [await_of_untimed timed, await_of_untimed timed, started, startedOn]
    rfl
  | ok =>
    rw [await_of_timed timed, await_of_timed timed, started, startedOn]
    exact Ledger.keeps_silent_iff.mp (settle_keeps ledger _ _ _ progress) entries paused

end

private theorem await_congr {call other : Call ρ α} {scene later : Scene ρ}
    (same : call.start scene = other.start later) (messageId : String) :
    await messageId limit signal call scene = await messageId limit signal other later := by
  simp only [await, Call.begin, Action.bind_run, same]

/-- The call of a handler is written down once, whatever comes of it. -/
theorem await_noting (messageId : String) (limit : Value) (signal : Option Signal)
    (request : Value) (context : Context) (entries : List Asked) (scene : Scene ρ) :
    await messageId limit signal (noting handle request context)
        (Ledger.pair.opened entries scene) =
      Ledger.pair.closed (entries ++ [⟨request, context⟩])
        (await messageId limit signal (handle request context) scene) := by
  have noted : (noting handle request context).start (Ledger.pair.opened entries scene) =
      ((handle request context).on Ledger.pair.part).start
        (Ledger.pair.opened (entries ++ [⟨request, context⟩]) scene) := rfl
  rw [await_congr noted]
  exact Ledger.keeps_silent_iff.mp (await_keeps Ledger.pair messageId limit signal _) _ scene

private theorem sendBy_noting (valid : Timeout.isNegative limit = .ok false)
    (arrives : passage.Arrives outgoing signal scene envelope received after)
    (free : after.isCancelled signal = false) (entries : List Asked) :
    sendBy (passage.on Ledger.pair.part) limit (noting handle) outgoing signal
        (Ledger.pair.opened entries scene) =
      Ledger.pair.closed (entries ++ [⟨outgoing.message, received.context⟩])
        (await envelope.messageId limit signal (handle outgoing.message received.context)
          after) := by
  have freeBeside : (Ledger.pair.opened entries after).isCancelled signal = false := free
  rw [sendBy_of_transfer (transfer_eq_ok_iff.mpr ⟨valid, arrives.beside, freeBeside⟩)]
  exact await_noting _ _ _ _ _ _ after

namespace Course

variable {calls : List Asked} {result : EStateM.Result Failure (Scene ρ) (Reply α)}

private theorem length_le_one
    (course : Course passage limit handle outgoing signal scene calls result) :
    calls.length ≤ 1 := by
  cases course with
  | untimed => exact Nat.le_refl 1
  | handled => exact Nat.le_refl 1
  | _ => exact Nat.zero_le 1

/-- A request comes to what its course says. -/
theorem sends (course : Course passage limit handle outgoing signal scene calls result) :
    sendBy passage limit handle outgoing signal scene = result := by
  cases course with
  | negative below => exact sendBy_of_negative below
  | unordered unordered => exact sendBy_of_unordered unordered
  | heldBack valid held => exact sendBy_of_heldBack valid held
  | unreceived valid departs failed => exact sendBy_of_unreceived valid departs failed
  | cancelled valid arrives raised => exact sendBy_of_cancelled valid arrives raised
  | untimed valid arrives free untimed =>
    rw [sendBy_of_transfer (transfer_eq_ok_iff.mpr ⟨valid, arrives, free⟩),
      await_of_untimed untimed]
  | handled valid arrives free timed =>
    rw [sendBy_of_transfer (transfer_eq_ok_iff.mpr ⟨valid, arrives, free⟩), await_of_timed timed]

/-- The calls of a course are those that are written down. -/
theorem notes (course : Course passage limit handle outgoing signal scene calls result)
    (entries : List Asked) :
    sendBy (passage.on .second) limit (noting handle) outgoing signal
        (Ledger.pair.opened entries scene) =
      Ledger.pair.closed (entries ++ calls) result := by
  change sendBy (passage.on Ledger.pair.part) _ _ _ _ _ = _
  cases course with
  | negative below =>
    rw [sendBy_of_negative below, List.append_nil]
    rfl
  | unordered unordered =>
    rw [sendBy_of_unordered unordered, List.append_nil]
    rfl
  | heldBack valid held =>
    rw [sendBy_of_heldBack valid held.beside, List.append_nil]
    rfl
  | unreceived valid departs failed =>
    rw [sendBy_of_unreceived valid departs.beside ((passage.inbound_keeps _ _).silent_error failed),
      List.append_nil]
    rfl
  | @cancelled _ _ after valid arrives raised =>
    have raisedBeside : (Ledger.pair.opened entries after).isCancelled signal = true := raised
    rw [sendBy_of_cancelled valid arrives.beside raisedBeside, List.append_nil]
    rfl
  | untimed valid arrives free untimed =>
    rw [sendBy_noting valid arrives free, await_of_untimed untimed]
  | handled valid arrives free timed =>
    rw [sendBy_noting valid arrives free, await_of_timed timed]

end Course

/-- Every request takes a course. -/
theorem exists_course (passage : Passage ρ) (limit : Value) (handle : Value → Context → Call ρ α)
    (outgoing : Outgoing) (signal : Option Signal) (scene : Scene ρ) :
    ∃ calls result, Course passage limit handle outgoing signal scene calls result := by
  cases order : Timeout.isNegative limit with
  | error misuse => exact ⟨_, _, .unordered order⟩
  | ok negative =>
    cases negative with
    | true => exact ⟨_, _, .negative order⟩
    | false =>
      rcases passage.departs_or_heldBack outgoing signal scene with
        ⟨envelope, transmitted, sent, departs⟩ | ⟨failure, after, held⟩
      · cases handed : passage.inbound transmitted signal sent with
        | error failure after => exact ⟨_, _, .unreceived order departs handed⟩
        | ok received after =>
          cases raised : after.isCancelled signal with
          | true => exact ⟨_, _, .cancelled order (.intro departs handed) raised⟩
          | false =>
            cases timed : Timeout.ensureTimed limit with
            | error fault => exact ⟨_, _, .untimed order (.intro departs handed) raised timed⟩
            | ok => exact ⟨_, _, .handled order (.intro departs handed) raised timed⟩
      · exact ⟨_, _, .heldBack order held⟩

/-- A request goes by way of its desk: past a vacant one, or through what its policy prepares and
resolves. By any passage it asks its handler once at most, behind the gate: what its handler is
asked, and what it comes to, is one of its courses. What the handler is asked is what is written
down. -/
theorem handler_is_gated (limit : Value) (handle : Value → Context → Call ρ α)
    (outgoing : Outgoing) (signal : Option Signal) :
    (∀ desk : Desk ρ τ, send desk limit handle outgoing signal =
      sendBy desk.passage limit handle outgoing signal) ∧
    (.vacant : Desk ρ τ).passage =
      ⟨fun envelope _ => return envelope, fun envelope _ => return envelope⟩ ∧
    (∀ (policy : Policy) (store : Store ρ τ), (Desk.staffed policy store).passage =
      ⟨fun envelope signal => policy.prepare (some store) (some envelope) none signal,
        fun envelope signal => Policy.resolve (some store) (some envelope) signal⟩) ∧
    ∀ (passage : Passage ρ) (scene : Scene ρ) (entries : List Asked), ∃ calls : List Asked,
      calls.length ≤ 1 ∧
      Course passage limit handle outgoing signal scene calls
        (sendBy passage limit handle outgoing signal scene) ∧
      sendBy (passage.on .second) limit (noting handle) outgoing signal
          (Ledger.pair.opened entries scene) =
        Ledger.pair.closed (entries ++ calls)
          (sendBy passage limit handle outgoing signal scene) := by
  refine ⟨fun desk => rfl, rfl, fun policy store => rfl, ?_⟩
  intro passage scene entries
  obtain ⟨calls, result, course⟩ := exists_course passage limit handle outgoing signal scene
  rw [course.sends]
  exact ⟨calls, course.length_le_one, course, course.notes entries⟩

/-- A limit that has no place in the order does not lie below zero; all the same it ends a request
whose message would have arrived, and by none of the ends that are left to one that can be ordered. -/
theorem unordered_limit_unanswered :
    let desk : Desk Unit Unit := .vacant
    let outgoing := Outgoing.ofMessage (.bool true)
    Timeout.isNegative (.text "soon") ≠ .ok true ∧
    (∃ envelope received after,
      desk.passage.Arrives outgoing none (.bare ()) envelope received after ∧
        after.isCancelled none = false) ∧
    ∀ handle : Value → Context → Call Unit Value,
      send desk (.text "soon") handle outgoing none (.bare ()) =
        .error (.misuse (.timeoutType "str")) (.bare ()) := by
  intro desk outgoing
  refine ⟨nofun, ⟨_, _, _, .intro (.intro rfl rfl) rfl, rfl⟩, fun handle => ?_⟩
  exact sendBy_of_unordered rfl

end Requests
end ClaimCheck
