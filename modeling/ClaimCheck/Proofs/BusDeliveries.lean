import ClaimCheck.Proofs.Passages
import ClaimCheck.Proofs.Subscriptions

/-!
Who hears what. Every publication is heard once by each subscription that lives then, in the order
in which they were made.
-/
namespace ClaimCheck.Bus

variable {η ρ τ : Type} {steps : List (Step η)} {step : Step η}

/-- Handlers whose calls are written down in a journal of their own. -/
def observed (deliver : Delivery η ρ) : Delivery η (List (Heard η) × ρ) :=
  noting .first fun handler message context =>
    (deliver handler message context).on Part.second.beside

private theorem observed_after {deliver : Delivery η ρ} (quiet : IsQuiet deliver) (handler : η)
    (message : Value) (context : Context) (scene : Scene (Bus η × List (Heard η) × ρ)) :
    let after := (observed deliver handler message context).sceneAfter scene
    after.rest.1 = scene.rest.1 ∧
      after.rest.2.1 = scene.rest.2.1 ++ [⟨handler, message, context⟩] := by
  simp only [observed, noting, Action.sceneAfter_bind, Action.update_run]
  have left := quiet handler message context
    (scene.withRest (scene.rest.1, scene.rest.2.2))
  simp only [Action.sceneAfter, Scene.withRest] at left
  simp only [Action.sceneAfter, Action.on, Part.beside, Part.second, Part.first, Scene.withRest]
  cases ran : deliver handler message context (scene.withRest (scene.rest.1, scene.rest.2.2)) <;>
    simp only [Scene.withRest] at ran <;> simp only [ran] at left ⊢ <;> exact ⟨left, trivial⟩

private theorem observed_quiet {deliver : Delivery η ρ} (quiet : IsQuiet deliver) :
    IsQuiet (observed deliver) :=
  fun handler message context scene => (observed_after quiet handler message context scene).1

/-- A delivery that is not stopped calls every handler once, in order. -/
theorem deliverAll_observed {deliver : Delivery η ρ} (quiet : IsQuiet deliver)
    {signal : Option Signal} {message : Value} {entries : List (Subscription × η)}
    {context : Context} {scene after : Scene (Bus η × List (Heard η) × ρ)}
    (ran : deliverAll (observed deliver) signal message entries context scene = .ok () after) :
    after.rest.2.1.map Heard.call =
      scene.rest.2.1.map Heard.call ++ entries.map fun entry => (entry.2, message) := by
  induction entries generalizing context scene with
  | nil =>
    cases ran
    simp
  | cons entry rest ih =>
    obtain ⟨_, middle, free, going⟩ := Action.bind_eq_ok.mp ran
    obtain rfl : scene = middle := by
      rw [Action.ensureNotCancelled_run] at free
      split at free <;> cases free
      rfl
    obtain ⟨handed, last, called, rest⟩ := Action.bind_eq_ok.mp going
    have noted := (observed_after quiet entry.2 message context scene).2
    simp only [Action.sceneAfter, called] at noted
    rw [ih rest, noted]
    simp [Heard.call]

/-- What is let out of the desk for a message: what a publication transmits. -/
def transmit (desk : Desk ρ τ) (id : String) (outgoing : Outgoing) (signal : Option Signal) :
    Action ρ Envelope := fun scene =>
  (do
    let envelope ← outgoing.pack
    desk.outbound envelope signal) (scene.identified id)

private theorem transmit_of_transfer {desk : Desk ρ τ} {id : String} {outgoing : Outgoing}
    {signal : Option Signal} {scene after : Scene (Bus η × List (Heard η) × ρ)}
    {live : List (Subscription × η)} {received : Envelope}
    (ran : transfer ((desk.on .second).passage.on .second) outgoing signal (scene.identified id) =
      .ok (live, received) after) :
    live = scene.rest.1.live ∧ after.rest.2.1 = scene.rest.2.1 ∧
      ∃ transmitted middle, transmit desk id outgoing signal (scene.withRest scene.rest.2.2) =
          .ok transmitted middle ∧ after.rest.1 = scene.rest.1.record transmitted := by
  obtain ⟨receives, rfl⟩ := transfer_eq_ok_iff.mp ran
  obtain ⟨-, envelope, transmitted, _, _, ⟨made, transmits⟩, handed, rfl⟩ :=
    receives_second_iff.mp receives
  rw [← outgoing.pack_on Part.lawful_second] at made
  rw [Desk.passage_on Part.lawful_second] at transmits handed
  obtain ⟨packed, packs, rfl⟩ := Action.on_eq_ok_iff.mp made
  obtain ⟨middle, sends, rfl⟩ := Action.on_eq_ok_iff.mp transmits
  obtain ⟨last, -, rfl⟩ := Action.on_eq_ok_iff.mp handed
  exact ⟨rfl, rfl, transmitted, middle, (Action.bind_of_ok packs _).trans sends, rfl⟩

/-- A publication that returns has transmitted one envelope, and called every handler once. -/
theorem publish_observed {desk : Desk ρ τ} {deliver : Delivery η ρ} (quiet : IsQuiet deliver)
    {id : String} {outgoing : Outgoing} {signal : Option Signal}
    {scene after : Scene (Bus η × List (Heard η) × ρ)}
    (ran : publishAs (desk.on .second) (observed deliver) id outgoing signal scene =
      .ok () after) :
    (∃ transmitted middle, transmit desk id outgoing signal (scene.withRest scene.rest.2.2) =
        .ok transmitted middle ∧
      after.rest.1.published = scene.rest.1.published ++ [transmitted]) ∧
    after.rest.2.1.map Heard.call =
      scene.rest.2.1.map Heard.call ++
        scene.rest.1.live.map fun entry => (entry.2, outgoing.message) := by
  rw [publishAs, publish, publishBy_run] at ran
  split at ran
  · next live received handed passed =>
    obtain ⟨rfl, journal, transmitted, middle, sent, recorded⟩ := transmit_of_transfer passed
    have called := deliverAll_observed quiet ran
    have left := deliverAll_leaves (observed_quiet quiet) signal outgoing.message
      scene.rest.1.live received.context handed
    simp only [Action.sceneAfter, ran] at left
    rw [journal] at called
    refine ⟨⟨transmitted, middle, sent, ?_⟩, called⟩
    rw [left, recorded]
    rfl
  · cases ran

/-- What an event transmits, if it is a publication that gets as far as that. -/
def Event.transmitted? (desk : Desk ρ τ) (event : Event η (List (Heard η) × ρ)) :
    Option Envelope :=
  match event.step with
  | .publish id outgoing signal =>
    match transmit desk id outgoing signal (event.before.withRest event.before.rest.2.2) with
    | .ok envelope _ => some envelope
    | .error _ _ => none
  | _ => none

/-- Whether an event is a publication that fails or is cancelled. -/
def Event.isLost (event : Event η ρ) : Bool :=
  match event.step, event.outcome with
  | .publish _ _ _, .error _ => true
  | _, _ => false

section

variable (desk : Desk ρ τ) {deliver : Delivery η ρ} {scene : Scene (Bus η × List (Heard η) × ρ)}

/-- A step of a run whose handlers' calls are written down. -/
def observe (deliver : Delivery η ρ) (step : Step η)
    (scene : Scene (Bus η × List (Heard η) × ρ)) : Event η (List (Heard η) × ρ) :=
  .of (desk.on .second) (observed deliver) step scene

private theorem publish_of_isLost {id : String} {outgoing : Outgoing} {signal : Option Signal}
    (kept : (observe desk deliver (.publish id outgoing signal) scene).isLost = false) :
    publishAs (desk.on .second) (observed deliver) id outgoing signal scene =
      .ok () (observe desk deliver (.publish id outgoing signal) scene).after := by
  cases ran : publishAs (desk.on .second) (observed deliver) id outgoing signal scene with
  | ok _ after =>
    simp [observe, Event.of, Step.perform, Action.bind_run, ran]
  | error failure after =>
    simp [observe, Event.of, Step.perform, Action.bind_run, ran, Event.isLost] at kept

/-- A step calls the handlers that it is to call, and no others. -/
theorem observe_calls (quiet : IsQuiet deliver) (tracks : Tracks steps scene.rest.1)
    (kept : (observe desk deliver step scene).isLost = false) :
    (observe desk deliver step scene).after.rest.2.1.map Heard.call =
      scene.rest.2.1.map Heard.call ++ (calls steps step).map Prod.snd := by
  cases step with
  | publish id outgoing signal =>
    have ran := publish_of_isLost desk kept
    obtain ⟨-, called⟩ := publish_observed quiet ran
    rw [called, tracks.live]
    simp [calls, Step.message?]
  | subscribe handler => cases handler <;> simp [observe, of_after, calls, Step.message?] <;> rfl
  | close subscription => simp [observe, of_after, calls, Step.message?]; rfl
  | clear => simp [observe, of_after, calls, Step.message?]; rfl
  | pass now => simp [observe, of_after, calls, Step.message?]; rfl

/-- A step adds what it transmits to what was published, unless it forgets it all. -/
theorem observe_published (quiet : IsQuiet deliver)
    (kept : (observe desk deliver step scene).isLost = false) :
    (observe desk deliver step scene).after.rest.1.published =
      if step.isClear then []
      else scene.rest.1.published ++
        ((observe desk deliver step scene).transmitted? desk).toList := by
  cases step with
  | publish id outgoing signal =>
    have ran := publish_of_isLost desk kept
    obtain ⟨⟨envelope, _, transmitted, published⟩, -⟩ := publish_observed quiet ran
    rw [published]
    simp [observe, Event.transmitted?, transmitted, Step.isClear]
  | subscribe handler =>
    cases handler <;> simp [observe, of_after, Event.transmitted?, Step.isClear] <;> rfl
  | close subscription =>
    have same : ((Event.of (desk.on .second) (observed deliver) (.close subscription)
        scene).after).rest.1 = scene.rest.1.closeIssued subscription := rfl
    have kept : (scene.rest.1.closeIssued subscription).published = scene.rest.1.published := by
      rw [closeIssued, Bus.close]
      split
      · split <;> rfl
      · rfl
    simp [observe, Event.transmitted?, Step.isClear, same, kept]
  | clear => rfl
  | pass now => simp [observe, of_after, Event.transmitted?, Step.isClear]; rfl

private theorem calls_of_run (quiet : IsQuiet deliver) (tracks : Tracks steps scene.rest.1)
    (later : List (Step η))
    (kept : ∀ event ∈ history (desk.on .second) (observed deliver) scene later,
      event.isLost = false) :
    (ending (desk.on .second) (observed deliver) scene later).rest.2.1.map Heard.call =
      scene.rest.2.1.map Heard.call ++ (callsAll steps later).map Prod.snd := by
  induction later generalizing steps scene with
  | nil => simp [ending, callsAll]
  | cons step rest ih =>
    have first := observe_calls desk quiet tracks (kept _ (List.mem_cons_self ..))
    have tracks := tracks.after (desk.on .second) (observed_quiet quiet) step
    have last := ih tracks fun event member => kept event (List.mem_cons_of_mem _ member)
    rw [ending, last]
    simp only [observe] at first
    rw [first, callsAll, List.map_append, List.append_assoc]

private theorem published_of_run (quiet : IsQuiet deliver) (later : List (Step η))
    (kept : ∀ event ∈ history (desk.on .second) (observed deliver) scene later,
      event.isLost = false ∧ event.step.isClear = false) :
    (ending (desk.on .second) (observed deliver) scene later).rest.1.published =
      scene.rest.1.published ++ (history (desk.on .second) (observed deliver) scene
        later).filterMap (Event.transmitted? desk) := by
  induction later generalizing scene with
  | nil => simp [ending, history]
  | cons step rest ih =>
    obtain ⟨done, other⟩ := kept _ (List.mem_cons_self ..)
    have first := observe_published desk quiet done
    have last := ih fun event member => kept event (List.mem_cons_of_mem _ member)
    rw [of_step] at other
    rw [ending, last]
    simp only [observe, other, Bool.false_eq_true, if_false] at first
    rw [first, history, List.append_assoc]
    congr 1
    cases sent : (Event.of (desk.on .second) (observed deliver) step scene).transmitted? desk <;>
      simp [sent]

/-- A run may be cut anywhere. -/
theorem history_eq_append {desk : Desk ρ τ} {deliver : Delivery η ρ}
    {earlier later : List (Event η ρ)} {scene : Scene (Bus η × ρ)}
    (cut : history desk deliver scene steps = earlier ++ later) :
    ∃ first second, steps = first ++ second ∧ earlier.map Event.step = first ∧
      history desk deliver scene first = earlier ∧
      history desk deliver (ending desk deliver scene first) second = later ∧
      ending desk deliver scene steps =
        ending desk deliver (ending desk deliver scene first) second := by
  induction earlier generalizing scene steps with
  | nil => exact ⟨[], steps, rfl, rfl, rfl, cut, rfl⟩
  | cons event earlier ih =>
    cases steps with
    | nil => simp [history] at cut
    | cons step rest =>
      obtain ⟨head, tail⟩ := List.cons.inj cut
      obtain ⟨first, second, rfl, own, front, back, last⟩ := ih tail
      refine ⟨step :: first, second, rfl, ?_, ?_, back, last⟩
      · rw [List.map_cons, own, ← head, of_step]
      · rw [history, front, head]

private theorem history_append_singleton (desk : Desk ρ τ) (deliver : Delivery η ρ)
    (scene : Scene (Bus η × ρ)) (steps : List (Step η)) (step : Step η) :
    history desk deliver scene (steps ++ [step]) = history desk deliver scene steps ++
        [Event.of desk deliver step (ending desk deliver scene steps)] ∧
      ending desk deliver scene (steps ++ [step]) =
        (Event.of desk deliver step (ending desk deliver scene steps)).after := by
  induction steps generalizing scene with
  | nil => exact ⟨rfl, rfl⟩
  | cons first rest ih =>
    obtain ⟨events, last⟩ := ih (Event.of desk deliver first scene).after
    exact ⟨congrArg (_ :: ·) events, last⟩

private theorem published_of_cleared (desk : Desk ρ τ) (deliver : Delivery η ρ)
    {scene : Scene (Bus η × ρ)} (fresh : scene.rest.1 = Bus.empty) (steps : List (Step η))
    (cleared : ∀ event ∈ (history desk deliver scene steps).getLast?, event.step.isClear = true) :
    (ending desk deliver scene steps).rest.1.published = [] := by
  cases steps using List.reverseRecOn with
  | nil => exact congrArg Bus.published fresh
  | append_singleton before step =>
    obtain ⟨events, last⟩ := history_append_singleton desk deliver scene before step
    have clears := cleared (Event.of desk deliver step (ending desk deliver scene before))
      (by rw [events]; simp)
    rw [of_step] at clears
    rw [last]
    cases step with
    | clear => rfl
    | _ => cases clears

private theorem event_of_history {desk : Desk ρ τ} {deliver : Delivery η ρ}
    (quiet : IsQuiet deliver) {earlier later : List (Event η ρ)} {event : Event η ρ}
    {scene : Scene (Bus η × ρ)} (start : Tracks [] scene.rest.1)
    (cut : history desk deliver scene steps = earlier ++ event :: later) :
    ∃ before, event = Event.of desk deliver event.step before ∧
      Tracks (earlier.map Event.step) before.rest.1 := by
  obtain ⟨first, second, -, own, -, back, -⟩ := history_eq_append cut
  cases second with
  | nil => simp [history] at back
  | cons step rest =>
    obtain ⟨rfl, -⟩ := List.cons.inj back
    refine ⟨ending desk deliver scene first, by rw [of_step], ?_⟩
    rw [own]
    simpa using start.ending desk quiet first

/-- What the events of a run on a new bus are, and what they leave. -/
structure DeliversInOrder (steps : List (Step η))
    (events : List (Event η (List (Heard η) × ρ)))
    (last : Scene (Bus η × List (Heard η) × ρ)) : Prop where
  /-- Over all, the handlers are called as each step is to call them, -/
  called : last.rest.2.1.map Heard.call = (callsAll [] steps).map Prod.snd
  /-- and each subscription hears once, in order, what is published in its life. -/
  heard : ∀ {subscription handler later}, (lives steps)[subscription]? = some (handler, later) →
    (callsAll [] steps).filter (fun call => call.1 == subscription) =
      (heard subscription later).map fun message => (subscription, handler, message)
  /-- A publication calls the handlers of those that live, in the order of their making. -/
  invoked : ∀ {earlier event later}, events = earlier ++ event :: later →
    ∀ message ∈ event.step.message?,
      event.after.rest.2.1.map Heard.call = event.before.rest.2.1.map Heard.call ++
        (living (earlier.map Event.step)).map (fun entry => (entry.2, message)) ∧
      ((living (earlier.map Event.step)).map Prod.fst).Pairwise (· < ·)
  /-- What was transmitted since the last clearing, or from the first, is published. -/
  published : ∀ {earlier later}, events = earlier ++ later →
    (∀ event ∈ earlier.getLast?, event.step.isClear = true) →
    (∀ event ∈ later, event.step.isClear = false) →
    last.rest.1.published = later.filterMap (Event.transmitted? desk)
  live : last.rest.1.live = living steps
  counted : last.rest.1.subscriberCount = (living steps).length
  /-- A closing removes no other subscription. -/
  closed : ∀ event ∈ events, ∀ subscription, event.step = .close subscription →
    event.after.rest.1.live =
      event.before.rest.1.live.filter fun entry => entry.1 != subscription

/-- A run in which no publication fails, with handlers that leave the bus alone, delivers in
order. -/
theorem history_delivers (quiet : IsQuiet deliver) (scene : Scene (Bus η × List (Heard η) × ρ))
    (fresh : scene.rest.1 = Bus.empty) (blank : scene.rest.2.1 = []) (steps : List (Step η))
    (kept : ∀ event ∈ history (desk.on .second) (observed deliver) scene steps,
      event.isLost = false) :
    DeliversInOrder desk steps (history (desk.on .second) (observed deliver) scene steps)
      (ending (desk.on .second) (observed deliver) scene steps) := by
  have start : Tracks [] scene.rest.1 := fresh ▸ Tracks.empty
  have reached := start.ending (desk.on .second) (observed_quiet quiet) steps
  constructor
  case called => simpa [blank] using calls_of_run desk quiet start steps kept
  case heard => exact callsAll_of_made
  case invoked =>
    intro earlier event later cut message told
    obtain ⟨before, same, tracks⟩ := event_of_history (observed_quiet quiet) start cut
    have whole := kept event (cut ▸ by simp)
    rw [same] at whole
    have calls := observe_calls desk quiet tracks whole
    rw [observe, ← same] at calls
    have begun : event.before = before := by rw [same, of_before]
    refine ⟨?_, living_sorted _⟩
    rw [calls, begun, Bus.calls, Option.mem_def.mp told]
    simp
  case published =>
    intro earlier later cut cleared kept'
    obtain ⟨first, second, -, -, front, back, last⟩ := history_eq_append cut
    have empty := published_of_cleared (desk.on .second) (observed deliver) fresh first
      (front ▸ cleared)
    rw [last, published_of_run desk quiet, empty, back]
    · rfl
    · intro event member
      rw [back] at member
      exact ⟨kept event (cut ▸ List.mem_append_right _ member), kept' event member⟩
  case live => simpa using reached.live
  case counted => simpa [subscriberCount] using congrArg List.length reached.live
  case closed =>
    intro event member subscription closing
    obtain ⟨earlier, later, cut⟩ := List.append_of_mem member
    obtain ⟨before, same, tracks⟩ := event_of_history (observed_quiet quiet) start cut
    rw [closing] at same
    rw [same, of_before]
    exact tracks.live_closeIssued subscription

end

/-- Handlers that only listen. -/
def listening : Delivery String Unit := fun _ _ context => return context

/-- The same handler twice, closed once by two closings, and another one after a clearing, which a
late closing leaves alone. -/
def sampleSteps : List (Step String) :=
  let announcement : Step String := .publish "m" (.ofMessage (.bool true)) none
  [.subscribe (some "a"), .subscribe (some "a"), announcement, .close 0, .close 0, announcement,
    .clear, .subscribe (some "b"), .close 1, announcement]

private theorem deliverAll_listening (message : Value) (entries : List (Subscription × String))
    (context : Context) (scene : Scene (Bus String × List (Heard String) × Unit)) :
    ∃ after, deliverAll (observed listening) none message entries context scene = .ok () after := by
  induction entries generalizing context scene with
  | nil => exact ⟨scene, rfl⟩
  | cons entry rest ih => exact ih context _

private theorem announcement_kept (scene : Scene (Bus String × List (Heard String) × Unit)) :
    (observe (.vacant : Desk Unit Unit) listening
      (.publish "m" (.ofMessage (.bool true)) none) scene).isLost = false := by
  have packed := Outgoing.packed_true (by decide : Text.blank "m" = false) scene.now
  generalize (⟨"m", none, _, _, _, _⟩ : Envelope) = envelope at packed
  obtain ⟨after, delivered⟩ := deliverAll_listening (.bool true)
    scene.rest.1.live envelope.context
    { scene with rest := (scene.rest.1.record envelope, scene.rest.2) }
  have ran : publishAs ((.vacant : Desk Unit Unit).on .second) (observed listening) "m"
      (.ofMessage (.bool true)) none scene = .ok () after := by
    have receives : Receives (((.vacant : Desk Unit Unit).on .second).passage.on .second)
        (.ofMessage (.bool true)) none (scene.identified "m") envelope
        { scene with rest := (scene.rest.1.record envelope, scene.rest.2) } :=
      .intro rfl (.intro (Outgoing.pack_of_packed packed) rfl) rfl
    rw [publishAs, publish, publishBy_run, transfer_of_receives receives]
    exact delivered
  simp [observe, Event.of, Step.perform, Action.bind_run, ran, Event.isLost]

theorem sampleSteps_deliver :
    let desk : Desk Unit Unit := .vacant
    let start : Scene (Bus String × List (Heard String) × Unit) := .bare (.empty, [], ())
    let last := ending (desk.on .second) (observed listening) start sampleSteps
    last.rest.2.1.map Heard.call =
        [("a", .bool true), ("a", .bool true), ("a", .bool true), ("b", .bool true)] ∧
      last.rest.1.subscriberCount = 1 := by
  intro desk start last
  have quiet : IsQuiet listening := fun _ _ _ => Action.leaves_pure _
  have kept : ∀ event ∈ history (desk.on .second) (observed listening) start sampleSteps,
      event.isLost = false := by
    intro event member
    simp only [sampleSteps, history, List.mem_cons, List.not_mem_nil, or_false] at member
    rcases member with rfl | rfl | rfl | rfl | rfl | rfl | rfl | rfl | rfl | rfl
    case inr.inr.inl => exact announcement_kept _
    case inr.inr.inr.inr.inr.inl => exact announcement_kept _
    case inr.inr.inr.inr.inr.inr.inr.inr.inr => exact announcement_kept _
    all_goals rfl
  obtain ⟨called, -, -, -, -, counted, -⟩ :=
    history_delivers desk quiet start rfl rfl sampleSteps kept
  exact ⟨called, counted⟩

end ClaimCheck.Bus
