import ClaimCheck.Proofs.VerifiedDelivery

/-!
What a request comes to once its handler is called. A handler that ends in time is answered by its
own result, except that a cancellation of its own ends the request. A handler that overruns is told
to end and waited for; the sender hears of the overrun, except where the cleaning up fails.
-/
namespace ClaimCheck.Requests

variable {ρ τ α : Type}

/-- The reply that the result of a handler deserves, whatever else the result is. -/
inductive Deserves : Except Failure α → Reply α → Prop
  | value (value : α) : Deserves (.ok value) (.success value)
  | rejected {failure : Failure} (invalid : failure.isValueError = true) :
      Deserves (.error failure) (.rejected failure.message)
  | timedOut {failure : Failure} (elapsed : failure.isTimeout = true) :
      Deserves (.error failure) (.timedOut (timeoutMessage failure))
  | failed {failure : Failure} (sound : failure.isValueError = false)
      (patient : failure.isTimeout = false) : Deserves (.error failure) (.failed failure.message)

variable {messageId : String} {result : Except Failure α} {scene after paused last : Scene ρ}

/-- Every result but a cancellation and a wait without end is answered as it deserves. -/
theorem reply_deserved (uncancelled : ∀ message, result ≠ .error (.cancelled message))
    (settled : result ≠ .error .stalled) :
    ∃ answer last, reply messageId result scene = .ok answer last ∧ Deserves result answer := by
  cases result with
  | ok value => exact ⟨_, _, rfl, .value value⟩
  | error failure =>
    have own : failure.isCancelled = false := by
      cases failure with
      | cancelled message => exact absurd rfl (uncancelled message)
      | _ => rfl
    have moving : (failure == .stalled) = false := by
      rw [beq_eq_false_iff_ne]
      rintro rfl
      exact settled rfl
    unfold reply
    simp only [own, moving, Bool.or_self, Bool.false_eq_true, if_false]
    by_cases invalid : failure.isValueError = true
    · rw [if_pos invalid]
      exact ⟨_, _, rfl, .rejected invalid⟩
    · rw [if_neg invalid]
      by_cases elapsed : failure.isTimeout = true
      · rw [if_pos elapsed]
        exact ⟨_, _, rfl, .timedOut elapsed⟩
      · rw [if_neg elapsed]
        exact ⟨_, _, rfl, .failed (by simpa using invalid) (by simpa using elapsed)⟩

private theorem reply_cancelled (message : String) :
    reply messageId (.error (.cancelled message) : Except Failure α) scene =
      .error (.cancelled message) scene := rfl

variable {call : Call ρ α} {progress : Progress ρ α} {limit : Value} {limited : Bool}
  {signal : Option Signal}

private theorem settle_of_hasEnded (ended : progress.hasEnded = true)
    (free : paused.task.pending = false) :
    settle messageId limited signal progress paused = reply messageId progress.outcome paused := by
  simp only [settle, RaceVerdict.decide, ended, free, Bool.false_eq_true, if_false, if_true]

/-- Why a handler is stopped in a scene. -/
def overrunIn (paused : Scene ρ) (signal : Option Signal) : Overrun :=
  if paused.isCancelled signal then .cancelled else .timedOut

/-- What the sender hears of a handler that was stopped, by the end of the handler. -/
def overran (message : String) :
    EStateM.Result Failure (Scene ρ) α → EStateM.Result Failure (Scene ρ) (Reply α)
  | .ok _ last => .ok (.timedOut message) last
  | .error failure last =>
    if failure.isCancelled then .ok (.timedOut message) last else .error failure last

private theorem settle_of_overrun {ending : Action ρ α} {abandon : Scene ρ → Scene ρ}
    (free : paused.task.pending = false) (overdue : (paused.isCancelled signal || limited) = true) :
    settle messageId limited signal (.waiting ending abandon) paused =
      overran (overrunIn paused signal).message (ending paused) := by
  simp only [settle, RaceVerdict.decide, Progress.hasEnded, free, overdue, Bool.false_eq_true,
    if_false, if_true, overrunIn, stop, Action.bind_run, Action.recover]
  cases ending paused with
  | ok value last => rfl
  | error failure last => by_cases own : failure.isCancelled = true <;> simp [own, overran]

private theorem overran_of_failure {message : String} {failure : Failure}
    (own : failure.isCancelled = false) :
    overran message (.error failure last : EStateM.Result Failure (Scene ρ) α) =
      .error failure last := by
  simp [overran, own]

/-- The sender hears of the overrun, and of no late value, unless the handler fails in another way
than by its cancellation. -/
theorem overran_eq_timedOut_iff (message : String) (ended : EStateM.Result Failure (Scene ρ) α) :
    (∃ last, overran message ended = .ok ⟨.timeout, none, some message⟩ last) ↔
      ∀ failure last, ended = .error failure last → failure.isCancelled = true := by
  constructor
  · rintro ⟨last, heard⟩ failure after rfl
    by_cases own : failure.isCancelled = true
    · exact own
    · rw [overran_of_failure (by simpa using own)] at heard
      cases heard
  · intro clean
    cases ended with
    | ok value last => exact ⟨last, rfl⟩
    | error failure last => exact ⟨last, if_pos (clean failure last rfl)⟩

private theorem scene_overran (message : String) (ending : Action ρ α) (paused : Scene ρ) :
    Action.sceneAfter (fun scene => overran message (ending scene)) paused =
      ending.sceneAfter paused := by
  simp only [Action.sceneAfter]
  cases ending paused with
  | ok value last => rfl
  | error failure last => by_cases own : failure.isCancelled = true <;> simp [overran, own]

variable {desk : Desk ρ τ} {outgoing : Outgoing} {envelope received : Envelope}

private theorem send_of_transfer (handle : Value → Context → Call ρ α)
    (passed : transfer desk.passage limit outgoing signal scene =
      .ok (.ok (envelope, received) : Except (Reply α) (Envelope × Envelope)) after)
    (timed : Timeout.ensureTimed limit = .ok ())
    (started : (handle outgoing.message received.context).start after = (progress, paused)) :
    send desk limit handle outgoing signal scene =
      settle envelope.messageId (Timeout.elapses limit) signal progress paused := by
  rw [send, sendBy_of_transfer passed, await_of_timed timed, started]

/-- A request whose handler has ended, while nobody cancels the sender, is answered as the handler's
outcome deserves exactly if the handler did not end in a cancellation. Else the request does. -/
theorem send_answers_iff (handle : Value → Context → Call ρ α)
    (passed : transfer desk.passage limit outgoing signal scene =
      .ok (.ok (envelope, received) : Except (Reply α) (Envelope × Envelope)) after)
    (timed : Timeout.ensureTimed limit = .ok ())
    (started : (handle outgoing.message received.context).start after = (progress, paused))
    (ended : progress.hasEnded = true) (settled : progress.outcome ≠ .error .stalled)
    (free : paused.task.pending = false) :
    let sent := send desk limit handle outgoing signal scene
    ((∃ answer last, sent = .ok answer last ∧ Deserves progress.outcome answer) ↔
      ∀ message, progress.outcome ≠ .error (.cancelled message)) ∧
    ∀ message, progress.outcome = .error (.cancelled message) →
      sent = .error (.cancelled message) paused := by
  intro sent
  have same : sent = reply envelope.messageId progress.outcome paused :=
    (send_of_transfer handle passed timed started).trans (settle_of_hasEnded ended free)
  have escapes : ∀ message, progress.outcome = .error (.cancelled message) →
      sent = .error (.cancelled message) paused := by
    intro message cancelled
    rw [same, cancelled, reply_cancelled]
  refine ⟨⟨?_, ?_⟩, escapes⟩
  · rintro ⟨answer, last, answered, -⟩ message cancelled
    rw [escapes message cancelled] at answered
    cases answered
  · intro uncancelled
    rw [same]
    exact reply_deserved uncancelled settled

/-- A desk that a small message passes as it is. -/
def roomyDesk : Desk Unit ByteStream :=
  .staffed .default (constantStore [])

private theorem roomyDesk_passes :
    ∃ envelope received after, after.task = ⟨false, false⟩ ∧
      transfer roomyDesk.passage (.int 1) (.ofMessage (.bool true)) none (.bare ()) =
        .ok (.ok (envelope, received) : Except (Reply Value) (Envelope × Envelope)) after :=
  ⟨_, _, _, rfl, rfl⟩

/-- A handler that ends at once. -/
def prompt (result : Except Failure Value) : Value → Context → Call Unit Value :=
  fun _ _ => ⟨fun scene => (.ended result, scene)⟩

/-- A handler that raises an error of a wrong value, though of a narrower kind. -/
theorem wrong_value_rejected :
    let misspelt : Fault := ⟨"UnicodeError", .value, "not a letter"⟩
    ∃ last, send roomyDesk (.int 1) (prompt (.error (.fault misspelt)))
      (.ofMessage (.bool true)) none (.bare ()) = .ok (.rejected "not a letter") last := by
  intro misspelt
  obtain ⟨envelope, received, after, idle, passed⟩ := roomyDesk_passes
  have free : after.task.pending = false := congrArg CallerTask.pending idle
  obtain ⟨answers, -⟩ :=
    send_answers_iff (prompt (.error (.fault misspelt))) passed rfl rfl rfl nofun free
  obtain ⟨answer, last, answered, deserved⟩ := answers.mpr nofun
  cases deserved with
  | rejected => exact ⟨last, answered⟩
  | timedOut elapsed => cases elapsed
  | failed sound => cases sound

/-- A handler that is cancelled by nobody but itself leaves its sender without a reply. -/
theorem cancelled_handler_unanswered :
    ∃ last, last.task = ⟨false, false⟩ ∧
      send roomyDesk (.int 1) (prompt (.error (.cancelled ""))) (.ofMessage (.bool true)) none
        (.bare ()) = .error (.cancelled "") last :=
  ⟨_, rfl, rfl⟩

/-- A request whose handler overruns, while nobody cancels the sender, waits for the handler to end.
It is then answered by the overrun, and by no late value, exactly if the handler does not fail to
clean up. Else the request fails as the cleaning up does. -/
theorem send_overrun_iff (handle : Value → Context → Call ρ α) {ending : Action ρ α}
    {abandon : Scene ρ → Scene ρ}
    (passed : transfer desk.passage limit outgoing signal scene =
      .ok (.ok (envelope, received) : Except (Reply α) (Envelope × Envelope)) after)
    (timed : Timeout.ensureTimed limit = .ok ())
    (started : (handle outgoing.message received.context).start after =
      (.waiting ending abandon, paused))
    (overdue : (paused.isCancelled signal || Timeout.elapses limit) = true)
    (free : paused.task.pending = false) :
    let sent := send desk limit handle outgoing signal
    sent.sceneAfter scene = ending.sceneAfter paused ∧
    ((∃ last, sent scene = .ok ⟨.timeout, none, some (overrunIn paused signal).message⟩ last) ↔
      ∀ failure last, ending paused = .error failure last → failure.isCancelled = true) ∧
    ∀ failure last, ending paused = .error failure last → failure.isCancelled = false →
      sent scene = .error failure last := by
  intro sent
  have same : sent scene = overran (overrunIn paused signal).message (ending paused) :=
    (send_of_transfer handle passed timed started).trans (settle_of_overrun free overdue)
  refine ⟨?_, ?_, ?_⟩
  · rw [Action.sceneAfter, same]
    exact scene_overran _ ending paused
  · rw [same]
    exact overran_eq_timedOut_iff _ (ending paused)
  · intro failure last failed own
    rw [same, failed]
    exact overran_of_failure own

/-- A handler that goes on until it is told to end. -/
def lingering (ending : Action Unit Value) : Value → Context → Call Unit Value :=
  fun _ _ => ⟨fun scene => (.waiting ending id, scene)⟩

/-- A handler that does not heed its cancellation, and returns a value too late. -/
theorem late_value_dropped :
    ∃ last, send roomyDesk (.int 1) (lingering (return .bool false)) (.ofMessage (.bool true)) none
      (.bare ()) = .ok ⟨.timeout, none, some "Request timed out."⟩ last := by
  obtain ⟨envelope, received, after, idle, passed⟩ := roomyDesk_passes
  have free : after.task.pending = false := congrArg CallerTask.pending idle
  obtain ⟨-, answers, -⟩ :=
    send_overrun_iff (lingering (return .bool false)) passed rfl rfl (Bool.or_true _) free
  apply answers.mpr
  rintro _ _ ⟨⟩

/-- A handler that fails to clean up leaves its sender without a reply. -/
theorem failed_cleanup_unanswered :
    ∃ last, last.task = ⟨false, false⟩ ∧
      send roomyDesk (.int 1)
        (lingering (throw (.fault ⟨"RuntimeError", .other, "cleanup failed"⟩)))
        (.ofMessage (.bool true)) none (.bare ()) =
          .error (.fault ⟨"RuntimeError", .other, "cleanup failed"⟩) last :=
  ⟨_, rfl, rfl⟩

end ClaimCheck.Requests
