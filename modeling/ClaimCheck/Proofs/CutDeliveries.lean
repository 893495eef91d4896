import ClaimCheck.Proofs.BusDeliveries
import ClaimCheck.Proofs.OrderlyBus
import ClaimCheck.Proofs.Passages

/-!
Deliveries that are cut. A publication calls the handlers of the subscriptions that are live once its
envelope was received, in their order, up to the first one that fails, and before the first one that
finds the signal raised. What handlers do to the bus meanwhile makes no difference to it.
-/
namespace ClaimCheck.Bus

variable {η ρ τ : Type}

/-- Call the handlers of subscriptions in turn, with no regard to signals. -/
def callEach (deliver : Delivery η ρ) (message : Value) (entries : List (Subscription × η))
    (context : Context) : Action (Bus η × ρ) Context :=
  entries.foldlM (fun context entry => deliver entry.2 message context) context

section

variable (deliver : Delivery η ρ) (signal : Option Signal) (message : Value)
  (snapshot : List (Subscription × η)) (context : Context) (scene : Scene (Bus η × ρ))

/-- Whether calls are those of the first subscriptions of a snapshot, each of them made where the
subscriptions before have returned and the signal is not raised. -/
def IsCut (calls : List (Heard η)) : Prop :=
  ∀ k < calls.length, ∃ entry handed reached, snapshot[k]? = some entry ∧
    callEach deliver message (snapshot.take k) context scene = .ok handed reached ∧
    reached.isCancelled signal = false ∧ calls[k]? = some ⟨entry.2, message, handed⟩

/-- How a delivery ends after a count of calls. -/
inductive Stops : Nat → EStateM.Result Failure (Scene (Bus η × ρ)) Unit → Prop
  /-- All subscriptions have returned. -/
  | delivered {handed : Context} {last : Scene (Bus η × ρ)}
      (ran : callEach deliver message snapshot context scene = .ok handed last) :
      Stops snapshot.length (.ok () last)
  /-- The last one that was called has failed. -/
  | failed {k : Nat} {entry : Subscription × η} {handed : Context}
      {reached last : Scene (Bus η × ρ)} {failure : Failure} (placed : snapshot[k]? = some entry)
      (ran : callEach deliver message (snapshot.take k) context scene = .ok handed reached)
      (failed : deliver entry.2 message handed reached = .error failure last) :
      Stops (k + 1) (.error failure last)
  /-- The next one would have found the signal raised. -/
  | cancelled {k : Nat} {handed : Context} {reached : Scene (Bus η × ρ)}
      (left : k < snapshot.length)
      (ran : callEach deliver message (snapshot.take k) context scene = .ok handed reached)
      (raised : reached.isCancelled signal = true) : Stops k (.error .cancelledByCaller reached)

end

variable {deliver : Delivery η ρ} {signal : Option Signal} {message : Value}
  {entry : Subscription × η} {rest : List (Subscription × η)} {context next : Context}
  {scene after : Scene (Bus η × ρ)}

private theorem deliverAll_of_raised (raised : scene.isCancelled signal = true) :
    deliverAll deliver signal message (entry :: rest) context scene =
      .error .cancelledByCaller scene := by
  simp only [deliverAll, Action.bind_run, Action.ensureNotCancelled_run, raised, if_true]

private theorem deliverAll_of_free (free : scene.isCancelled signal = false) :
    deliverAll deliver signal message (entry :: rest) context scene =
      (deliver entry.2 message context >>= deliverAll deliver signal message rest) scene := by
  simp only [deliverAll, Action.bind_run, Action.ensureNotCancelled_run, free, Bool.false_eq_true,
    if_false]

private theorem callEach_succ (ran : deliver entry.2 message context scene = .ok next after)
    (k : Nat) :
    callEach deliver message ((entry :: rest).take (k + 1)) context scene =
      callEach deliver message (rest.take k) next after := by
  simp only [callEach, List.take_succ_cons, List.foldlM_cons, Action.bind_of_ok ran]

theorem IsCut.cons {calls : List (Heard η)}
    (cut : IsCut deliver signal message rest next after calls)
    (free : scene.isCancelled signal = false)
    (ran : deliver entry.2 message context scene = .ok next after) :
    IsCut deliver signal message (entry :: rest) context scene
      (⟨entry.2, message, context⟩ :: calls) := by
  intro k called
  cases k with
  | zero => exact ⟨entry, context, scene, rfl, rfl, free, rfl⟩
  | succ k =>
    obtain ⟨placed, handed, reached, found, before, unraised, call⟩ :=
      cut k (Nat.lt_of_succ_lt_succ called)
    exact ⟨placed, handed, reached, found, (callEach_succ ran k).trans before, unraised, call⟩

/-- The calls are a prefix of those that a delivery without a cut makes. -/
theorem IsCut.calls_eq {calls : List (Heard η)}
    (cut : IsCut deliver signal message rest context scene calls) :
    calls.map Heard.call = (rest.take calls.length).map fun entry => (entry.2, message) := by
  apply List.ext_getElem?
  intro k
  by_cases called : k < calls.length
  · obtain ⟨placed, handed, reached, found, -, -, call⟩ := cut k called
    simp only [List.getElem?_map, List.getElem?_take_of_lt called, call, found, Option.map_some,
      Heard.call]
  · have beyond : calls.length ≤ k := Nat.le_of_not_lt called
    have past : min calls.length rest.length ≤ k := Nat.le_trans (Nat.min_le_left _ _) beyond
    rw [List.getElem?_eq_none (by simpa using beyond), List.getElem?_eq_none]
    rwa [List.length_map, List.length_take]

theorem Stops.cons {count : Nat} {result : EStateM.Result Failure (Scene (Bus η × ρ)) Unit}
    (stops : Stops deliver signal message rest next after count result)
    (ran : deliver entry.2 message context scene = .ok next after) :
    Stops deliver signal message (entry :: rest) context scene (count + 1) result := by
  cases stops with
  | @delivered handed last all =>
    have whole : callEach deliver message (entry :: rest) context scene = .ok handed last := by
      simp only [callEach, List.foldlM_cons, Action.bind_of_ok ran]
      exact all
    exact .delivered whole
  | failed placed before failed =>
    exact .failed placed ((callEach_succ ran _).trans before) failed
  | cancelled left before raised =>
    exact .cancelled (Nat.succ_lt_succ left) ((callEach_succ ran _).trans before) raised

/-- Where the calls of handlers are written down. -/
def ledger : Ledger (Heard η) (Bus η × ρ) (Bus η × List (Heard η) × ρ) :=
  Ledger.pair.beside

private theorem observed_run (deliver : Delivery η ρ) (handler : η) (message : Value)
    (context : Context) (entries : List (Heard η)) (scene : Scene (Bus η × ρ)) :
    observed deliver handler message context (ledger.opened entries scene) =
      ledger.closed (entries ++ [⟨handler, message, context⟩])
        (deliver handler message context scene) := by
  have kept : ledger.Keeps ((deliver handler message context).on ledger.part)
      (deliver handler message context) fun _ => [] := Ledger.keeps_on _
  exact Ledger.keeps_silent_iff.mp kept (entries ++ [⟨handler, message, context⟩]) scene

/-- Every delivery is cut somewhere, and what is written down of it are the calls up to there. -/
theorem exists_cut (deliver : Delivery η ρ) (signal : Option Signal) (message : Value)
    (snapshot : List (Subscription × η)) (context : Context) (scene : Scene (Bus η × ρ)) :
    ∃ calls : List (Heard η),
      IsCut deliver signal message snapshot context scene calls ∧
      Stops deliver signal message snapshot context scene calls.length
        (deliverAll deliver signal message snapshot context scene) ∧
      ∀ entries, deliverAll (observed deliver) signal message snapshot context
          (ledger.opened entries scene) =
        ledger.closed (entries ++ calls)
          (deliverAll deliver signal message snapshot context scene) := by
  induction snapshot generalizing context scene with
  | nil =>
    refine ⟨[], nofun, .delivered rfl, ?_⟩
    intro entries
    rw [List.append_nil]
    rfl
  | cons entry rest ih =>
    cases raised : scene.isCancelled signal with
    | true =>
      rw [deliverAll_of_raised raised]
      refine ⟨[], nofun, .cancelled (Nat.succ_pos _) rfl raised, ?_⟩
      intro entries
      have raisedBeside : (ledger.opened entries scene).isCancelled signal = true := raised
      rw [deliverAll_of_raised raisedBeside, List.append_nil]
      rfl
    | false =>
      have freeBeside (entries : List (Heard η)) :
          (ledger.opened entries scene).isCancelled signal = false := raised
      rw [deliverAll_of_free raised]
      cases ran : deliver entry.2 message context scene with
      | ok next after =>
        obtain ⟨calls, cut, stops, noted⟩ := ih next after
        rw [Action.bind_of_ok ran]
        refine ⟨⟨entry.2, message, context⟩ :: calls, cut.cons raised ran, stops.cons ran, ?_⟩
        intro entries
        have called := observed_run deliver entry.2 message context entries scene
        rw [ran, Ledger.closed_ok] at called
        rw [deliverAll_of_free (freeBeside entries), Action.bind_of_ok called, noted,
          List.append_assoc, List.singleton_append]
      | error failure after =>
        rw [Action.bind_of_error ran]
        refine ⟨[⟨entry.2, message, context⟩], ?_, .failed rfl rfl ran, ?_⟩
        · intro k first
          obtain rfl := Nat.lt_one_iff.mp first
          exact ⟨entry, context, scene, rfl, rfl, raised, rfl⟩
        · intro entries
          have called := observed_run deliver entry.2 message context entries scene
          rw [ran, Ledger.closed_error] at called
          rw [deliverAll_of_free (freeBeside entries), Action.bind_of_error called,
            Ledger.closed_error]

/-- The ways that a publication goes: the calls that it makes, and what it comes to. -/
inductive Course (passage : Passage (Bus η × ρ)) (deliver : Delivery η ρ) (outgoing : Outgoing)
    (signal : Option Signal) (scene : Scene (Bus η × ρ)) :
    List (Heard η) → EStateM.Result Failure (Scene (Bus η × ρ)) Unit → Prop
  | unspoken (null : outgoing.message.isNull = true) :
      Course passage deliver outgoing signal scene [] (.error (.misuse .noMessage) scene)
  | heldBack {failure : Failure} {after : Scene (Bus η × ρ)}
      (spoken : outgoing.message.isNull = false)
      (held : passage.HeldBack outgoing signal scene failure after) :
      Course passage deliver outgoing signal scene [] (.error failure after)
  | unreceived {envelope transmitted : Envelope} {sent after : Scene (Bus η × ρ)}
      {failure : Failure} (spoken : outgoing.message.isNull = false)
      (departs : passage.Departs outgoing signal scene envelope transmitted sent)
      (failed : passage.inbound transmitted signal (recorded transmitted sent) =
        .error failure after) :
      Course passage deliver outgoing signal scene [] (.error failure after)
  /-- The subscriptions that are live when the envelope was received get it, as far as the delivery
  is not cut. -/
  | received {received : Envelope} {reached : Scene (Bus η × ρ)} {calls : List (Heard η)}
      {result : EStateM.Result Failure (Scene (Bus η × ρ)) Unit}
      (receives : Receives passage outgoing signal scene received reached)
      (cut : IsCut deliver signal outgoing.message reached.rest.1.live received.context reached
        calls)
      (stops : Stops deliver signal outgoing.message reached.rest.1.live received.context reached
        calls.length result) :
      Course passage deliver outgoing signal scene calls result

section

variable {passage : Passage (Bus η × ρ)} {outgoing : Outgoing} {sent reached : Scene (Bus η × ρ)}
  {failure : Failure} {envelope transmitted received : Envelope}

private theorem publishBy_of_null (null : outgoing.message.isNull = true) :
    publishBy passage deliver outgoing signal scene = .error (.misuse .noMessage) scene := by
  rw [publishBy_run, transfer_of_null null]

private theorem publishBy_of_heldBack (spoken : outgoing.message.isNull = false)
    (held : passage.HeldBack outgoing signal scene failure after) :
    publishBy passage deliver outgoing signal scene = .error failure after := by
  rw [publishBy_run, transfer_of_heldBack spoken held]

private theorem publishBy_of_unreceived (spoken : outgoing.message.isNull = false)
    (departs : passage.Departs outgoing signal scene envelope transmitted sent)
    (failed : passage.inbound transmitted signal (recorded transmitted sent) =
      .error failure after) :
    publishBy passage deliver outgoing signal scene = .error failure after := by
  rw [publishBy_run, transfer_of_unreceived spoken departs failed]

private theorem publishBy_of_receives
    (receives : Receives passage outgoing signal scene received reached) :
    publishBy passage deliver outgoing signal scene =
      deliverAll deliver signal outgoing.message reached.rest.1.live received.context reached := by
  rw [publishBy_run, transfer_of_receives receives]

/-- An envelope is received beside a journal as it is without one. -/
theorem Receives.beside (receives : Receives passage outgoing signal scene received reached)
    (entries : List (Heard η)) :
    Receives (passage.on ledger.part) outgoing signal (ledger.opened entries scene) received
      (ledger.opened entries reached) := by
  cases receives with
  | intro spoken departs handed =>
    exact .intro spoken departs.beside ((passage.inbound_keeps _ _).silent_ok handed)

end

/-- Every publication takes a course, and what is written down of it are the calls of this course. -/
theorem exists_course (passage : Passage (Bus η × ρ)) (deliver : Delivery η ρ)
    (outgoing : Outgoing) (signal : Option Signal) (scene : Scene (Bus η × ρ)) :
    ∃ calls : List (Heard η),
      Course passage deliver outgoing signal scene calls
        (publishBy passage deliver outgoing signal scene) ∧
      ∀ entries, publishBy (passage.on ledger.part) (observed deliver) outgoing signal
          (ledger.opened entries scene) =
        ledger.closed (entries ++ calls)
          (publishBy passage deliver outgoing signal scene) := by
  cases spoken : outgoing.message.isNull with
  | true =>
    rw [publishBy_of_null spoken]
    refine ⟨[], .unspoken spoken, ?_⟩
    intro entries
    rw [publishBy_of_null spoken, List.append_nil, Ledger.closed_error]
  | false =>
    rcases passage.departs_or_heldBack outgoing signal scene with
      ⟨envelope, transmitted, sent, departs⟩ | ⟨failure, after, held⟩
    · cases handed : passage.inbound transmitted signal (recorded transmitted sent) with
      | error failure after =>
        rw [publishBy_of_unreceived spoken departs handed]
        refine ⟨[], .unreceived spoken departs handed, ?_⟩
        intro entries
        rw [publishBy_of_unreceived spoken departs.beside
          ((passage.inbound_keeps _ _).silent_error handed), List.append_nil, Ledger.closed_error]
      | ok received reached =>
        have receives : Receives passage outgoing signal scene received reached :=
          .intro spoken departs handed
        obtain ⟨calls, cut, stops, noted⟩ := exists_cut deliver signal outgoing.message
          reached.rest.1.live received.context reached
        rw [publishBy_of_receives receives]
        refine ⟨calls, .received receives cut stops, ?_⟩
        intro entries
        rw [publishBy_of_receives (receives.beside entries)]
        exact noted entries
    · rw [publishBy_of_heldBack spoken held]
      refine ⟨[], .heldBack spoken held, ?_⟩
      intro entries
      rw [publishBy_of_heldBack spoken held.beside, List.append_nil, Ledger.closed_error]

/-- What is received, and where, is determined by the scene. -/
theorem Receives.unique {passage : Passage (Bus η × ρ)} {outgoing : Outgoing}
    {received other : Envelope} {reached elsewhere : Scene (Bus η × ρ)}
    (receives : Receives passage outgoing signal scene received reached)
    (again : Receives passage outgoing signal scene other elsewhere) :
    received = other ∧ reached = elsewhere := by
  obtain ⟨-, ⟨made, transmits⟩, handed⟩ := receives
  obtain ⟨-, ⟨remade, retransmits⟩, rehanded⟩ := again
  cases made.symm.trans remade
  cases transmits.symm.trans retransmits
  cases handed.symm.trans rehanded
  exact ⟨rfl, rfl⟩

/-- Who is called is a prefix of the subscriptions that are live when the envelope was received. -/
theorem Course.calls_eq {passage : Passage (Bus η × ρ)} {outgoing : Outgoing}
    {calls : List (Heard η)} {result : EStateM.Result Failure (Scene (Bus η × ρ)) Unit}
    {received : Envelope} {reached : Scene (Bus η × ρ)}
    (course : Course passage deliver outgoing signal scene calls result)
    (receives : Receives passage outgoing signal scene received reached) :
    calls.map Heard.call = (reached.rest.1.live.take calls.length).map fun entry =>
      (entry.2, outgoing.message) := by
  cases course with
  | received own cut =>
    obtain ⟨-, rfl⟩ := receives.unique own
    exact cut.calls_eq
  | _ => rfl

private theorem Course.calls_of_heldBack {passage : Passage (Bus η × ρ)} {outgoing : Outgoing}
    {calls : List (Heard η)} {result : EStateM.Result Failure (Scene (Bus η × ρ)) Unit}
    {failure : Failure} (course : Course passage deliver outgoing signal scene calls result)
    (held : passage.HeldBack outgoing signal scene failure after) : calls = [] := by
  cases course with
  | received receives =>
    obtain ⟨-, departs, -⟩ := receives
    exact absurd held departs.not_heldBack
  | _ => rfl

/-- No handler is called before an envelope was received. -/
theorem Course.receives {passage : Passage (Bus η × ρ)} {outgoing : Outgoing}
    {calls : List (Heard η)} {result : EStateM.Result Failure (Scene (Bus η × ρ)) Unit}
    (course : Course passage deliver outgoing signal scene calls result) (called : calls ≠ []) :
    ∃ received reached, Receives passage outgoing signal scene received reached := by
  cases course with
  | received receives => exact ⟨_, _, receives⟩
  | _ => exact absurd rfl called

/-- Whether a passage does nothing to the bus but what can be done to it. -/
structure IsOrderlyPassage (passage : Passage (Bus η × ρ)) : Prop where
  outbound : ∀ envelope signal, IsOrderly (passage.outbound envelope signal)
  inbound : ∀ envelope signal, IsOrderly (passage.inbound envelope signal)

private theorem IsOrderly.made_ok {α : Type} {action : Action (Bus η × ρ) α} {value : α}
    (orderly : IsOrderly action) (made : scene.rest.1.Made) (ran : action scene = .ok value after) :
    after.rest.1.Made := by
  have left := orderly scene made
  rwa [Action.sceneAfter, ran] at left

/-- Subscriptions are called in the order in which they were made, and none of them twice. -/
theorem Receives.sorted {passage : Passage (Bus η × ρ)} {outgoing : Outgoing}
    {received : Envelope} {reached : Scene (Bus η × ρ)}
    (receives : Receives passage outgoing signal scene received reached)
    (orderly : IsOrderlyPassage passage) (made : scene.rest.1.Made) :
    (reached.rest.1.live.map Prod.fst).Pairwise (· < ·) := by
  obtain ⟨-, ⟨written, transmits⟩, handed⟩ := receives
  have packed := (IsOrderly.of_leaves (outgoing.pack_leaves _)).made_ok made written
  have sent := (orderly.outbound _ _).made_ok packed transmits
  have arrived := (orderly.inbound _ _).made_ok (sent.record _) handed
  exact arrived.sorted

private theorem isOrderly_on_second (passage : Passage ρ) :
    IsOrderlyPassage (passage.on .second : Passage (Bus η × ρ)) :=
  ⟨fun _ _ => .aside _, fun _ _ => .aside _⟩

/-- A publication calls the handlers of the subscriptions that are live once its envelope was
received, in the order in which they were made and each of them once, until one of them fails, or the
next one would find the signal raised. These are the calls that are written down, whatever handlers
do meanwhile. If the message is held back, there are none, and the bus is as it was. -/
theorem publish_calls_prefix (deliver : Delivery η ρ) (outgoing : Outgoing)
    (signal : Option Signal) :
    (∀ (passage : Passage (Bus η × ρ)) (scene : Scene (Bus η × ρ)), ∃ calls : List (Heard η),
      Course passage deliver outgoing signal scene calls
        (publishBy passage deliver outgoing signal scene) ∧
      (∀ entries, publishBy (passage.on ledger.part) (observed deliver) outgoing signal
          (ledger.opened entries scene) =
        ledger.closed (entries ++ calls) (publishBy passage deliver outgoing signal scene)) ∧
      (∀ failure after, passage.HeldBack outgoing signal scene failure after → calls = []) ∧
      ∀ received reached, Receives passage outgoing signal scene received reached →
        calls.map Heard.call = (reached.rest.1.live.take calls.length).map (fun entry =>
          (entry.2, outgoing.message)) ∧
        (IsOrderlyPassage passage → scene.rest.1.Made →
          (reached.rest.1.live.map Prod.fst).Pairwise (· < ·))) ∧
    ∀ desk : Desk ρ τ,
      publish desk deliver outgoing signal =
        publishBy (desk.passage.on .second) deliver outgoing signal ∧
      IsOrderlyPassage (desk.passage.on .second : Passage (Bus η × ρ)) ∧
      (∀ scene failure after, outgoing.message.isNull = false →
        (desk.passage.on .second).HeldBack outgoing signal scene failure after →
        publish desk deliver outgoing signal scene = .error failure after ∧
          after.rest.1 = scene.rest.1) ∧
      ((∀ handler message context, IsOrderly (deliver handler message context)) →
        IsOrderly (publish desk deliver outgoing signal)) := by
  constructor
  · intro passage scene
    obtain ⟨calls, course, noted⟩ := exists_course passage deliver outgoing signal scene
    refine ⟨calls, course, noted, ?_, ?_⟩
    · intro failure after held
      exact course.calls_of_heldBack held
    · intro received reached receives
      exact ⟨course.calls_eq receives, receives.sorted⟩
  · intro desk
    refine ⟨rfl, isOrderly_on_second _, ?_, ?_⟩
    · intro scene failure after spoken held
      rw [publish]
      exact ⟨publishBy_of_heldBack spoken held,
        held.leaves fun _ _ => Action.leaves_on_second _⟩
    · intro orderly
      exact publish_isOrderly desk orderly outgoing signal

/-- Handlers that close subscriptions, make one, publish again, and fail. -/
def meddling (handler : String) (message : Value) (_ : Context.View) : Conduct String Unit :=
  match handler, message with
  | "closer", .bool true =>
    .use (.close 2) fun _ => .use .clear fun _ => .use (.subscribe (some "late")) fun _ =>
      .leave .none
  | "nester", .bool true =>
    .use (.publish "again" (.ofMessage (.bool false)) none) fun _ => .leave .none
  | "faulty", _ => .fail (.general "fault")
  | _, _ => .leave .none

def crowded : Bus String :=
  (((Bus.empty.add "closer").add "nester").add "faulty").add "unheard"

def crowdedScene : Scene (Bus String × World String Unit) :=
  .identified "m" (.bare (crowded, ⟨[], ()⟩))

def meddlingDelivery : Delivery String (World String Unit) :=
  Conduct.deliver (.vacant : Desk _ ByteStream) .whole meddling 2

private theorem meddling_written :
    let passage := (.vacant : Desk (World String Unit) ByteStream).passage.on .second
    (ledger.written (publishBy (passage.on ledger.part) (observed meddlingDelivery)
      (.ofMessage (.bool true)) none (ledger.opened [] crowdedScene))).map Heard.call =
        [("closer", .bool true), ("nester", .bool true), ("faulty", .bool true)] := by
  intro passage
  change _ = [("closer", true), ("nester", true), ("faulty", true)].map (Prod.map id Value.bool)
  exact calls_of_truths (by decide +kernel)

/-- The third handler is called although it was unsubscribed by the first, and ends the publication;
the one that is subscribed meanwhile is not called. -/
theorem crowded_publication_is_cut :
    let desk : Desk (World String Unit) ByteStream := .vacant
    let passage : Passage (Bus String × World String Unit) := desk.passage.on .second
    let announcement := Outgoing.ofMessage (.bool true)
    crowded.Made ∧
      (∃ calls : List (Heard String),
        Course passage meddlingDelivery announcement none crowdedScene calls
          (publish desk meddlingDelivery announcement none crowdedScene) ∧
        calls.map Heard.call =
          [("closer", .bool true), ("nester", .bool true), ("faulty", .bool true)]) ∧
      (∃ received reached, Receives passage announcement none crowdedScene received reached ∧
        (reached.rest.1.live.map Prod.fst).Pairwise (· < ·)) ∧
      ((publish desk meddlingDelivery announcement none).sceneAfter crowdedScene).rest.1.Made ∧
      ∃ failure after,
        publish desk meddlingDelivery (.ofMessage .object) none crowdedScene =
          .error failure after ∧ after.rest.1 = crowded := by
  intro desk passage announcement
  have made : crowded.Made := (((Made.empty.add _).add _).add _).add _
  obtain ⟨runs, desks⟩ := publish_calls_prefix meddlingDelivery announcement none
  obtain ⟨calls, course, noted, -, snapshot⟩ := runs passage crowdedScene
  obtain ⟨same, orderlyPassage, -, orderly⟩ := desks desk
  have called : calls.map Heard.call =
      [("closer", .bool true), ("nester", .bool true), ("faulty", .bool true)] := by
    have written := congrArg ledger.written (noted [])
    rw [Ledger.written_closed, List.nil_append] at written
    rw [← written]
    exact meddling_written
  obtain ⟨received, reached, receives⟩ := course.receives (by rintro rfl; cases called)
  have unpacked : passage.HeldBack (.ofMessage .object) none crowdedScene _ _ := .unpacked rfl
  obtain ⟨-, others⟩ := publish_calls_prefix meddlingDelivery (.ofMessage .object) none
  obtain ⟨-, -, held, -⟩ := others desk
  exact ⟨made, ⟨calls, same ▸ course, called⟩,
    ⟨received, reached, receives, (snapshot received reached receives).2 orderlyPassage made⟩,
    orderly (Conduct.deliver_isOrderly desk .whole meddling 2) crowdedScene made,
    _, _, held crowdedScene _ _ rfl unpacked⟩

end ClaimCheck.Bus
