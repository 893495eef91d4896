import ClaimCheck.Proofs.Journals
import ClaimCheck.Proofs.StreamCalls
import ClaimCheck.Store.Connection

/-!
The contexts of a connection's clients, over any history of uses in which anything may fail. At most
one context is open at a time, and a client that is given out is of an open one. A context is left
only if it was entered, and only once, unless its entry or an earlier exit has failed.
-/
namespace ClaimCheck.Connection

variable {κ : Type}

/-- What happens to a context, and whether it succeeds. -/
inductive Event
  | created (done : Bool)
  | entered (context : Nat) (done : Bool)
  | left (context : Nat) (done : Bool)
  deriving DecidableEq, Repr

/-- A maker whose calls are written down. -/
def Maker.watched (maker : Maker κ) : Maker (List Event × κ) where
  create settings := Ledger.pair.record (fun result => .created result.isOk) (maker.create settings)
  enter context := Ledger.pair.record (fun result => .entered context result.isOk)
    (maker.enter context)
  exit context := Ledger.pair.record (fun result => .left context result.isOk) (maker.exit context)

/-- A connection, and all that happened to its contexts. -/
abbrev Watched (κ : Type) := Connection × (List Event × κ)

/-- Whether a context was entered, and not left since. -/
def IsOpen (log : List Event) (context : Nat) : Prop :=
  .entered context true ∈ log ∧ .left context true ∉ log

/-! What one use of a connection does to it, and what it writes down. -/

/-- All that asking for a client comes to: the connection and its log afterwards, and the client. -/
inductive Opening (connection : Connection) (log : List Event) :
    Connection → List Event → Option Nat → Prop
  | inUse {client : Nat} (used : connection.client = some client) :
      Opening connection log connection log (some client)
  | uncreated (unused : connection.client = none) :
      Opening connection log connection (log ++ [.created false]) none
  | unentered (unused : connection.client = none) :
      Opening connection log
        { connection with made := connection.made + 1, context := some connection.made }
        (log ++ [.created true] ++ [.entered connection.made false]) none
  | entered (unused : connection.client = none) :
      Opening connection log
        { connection with
          made := connection.made + 1
          context := some connection.made
          client := some connection.made }
        (log ++ [.created true] ++ [.entered connection.made true]) (some connection.made)

/-- All that closing comes to. -/
inductive Closing (connection : Connection) (log : List Event) : Connection → List Event → Prop
  | nothing (unopened : connection.context = none) : Closing connection log connection log
  | left {context : Nat} (opened : connection.context = some context) :
      Closing connection log { connection with context := none, client := none }
        (log ++ [.left context true])
  | stuck {context : Nat} (opened : connection.context = some context) :
      Closing connection log connection (log ++ [.left context false])

/-- A call of a watched maker is one of the maker itself, and its end is written down. -/
theorem record_run (entry : Except Failure Unit → Event) (action : Action κ Unit)
    (scene : Scene (Watched κ)) :
    ((Ledger.pair.record entry action).on .second) scene =
      match action (scene.withRest scene.rest.2.2) with
      | .ok value after => .ok value
          (after.withRest (scene.rest.1, scene.rest.2.1 ++ [entry (.ok value)], after.rest))
      | .error failure after => .error failure
          (after.withRest (scene.rest.1, scene.rest.2.1 ++ [entry (.error failure)], after.rest)) := by
  cases ran : action (scene.withRest scene.rest.2.2) <;>
  · simp only [Scene.withRest] at ran
    simp [Action.on, Ledger.record, Part.second, Ledger.pair, Ledger.closed, Ledger.opened,
      Action.outcome, Scene.withRest, ran]

/-- The client that is given out, if one is. -/
def given (maker : Maker κ) (scene : Scene (Watched κ)) : Option Nat :=
  match getClient maker.watched scene with
  | .ok client _ => some client
  | .error _ _ => none

private theorem getClient_opening (maker : Maker κ) (scene : Scene (Watched κ)) :
    let after := (getClient maker.watched).sceneAfter scene
    Opening scene.rest.1 scene.rest.2.1 after.rest.1 after.rest.2.1 (given maker scene) := by
  intro after
  simp only [after, Action.sceneAfter, given]
  cases used : scene.rest.1.client with
  | some client =>
    have ran : getClient maker.watched scene = .ok client scene := by
      simp [getClient, Action.bind_run, used]
    rw [ran]
    exact .inUse used
  | none =>
    simp only [getClient, begin, finish, Action.bind_run, Action.inspect_run, id, used,
      Maker.watched, record_run]
    cases maker.create scene.rest.1.settings (scene.withRest scene.rest.2.2) with
    | error failure last => exact .uncreated used
    | ok value middle =>
      simp only [Action.update_run, Action.pure_run]
      cases maker.enter scene.rest.1.made _ with
      | error failure last => exact .unentered used
      | ok value last => exact .entered used

private theorem close_closing (maker : Maker κ) (scene : Scene (Watched κ)) :
    let after := (close maker.watched).sceneAfter scene
    Closing scene.rest.1 scene.rest.2.1 after.rest.1 after.rest.2.1 := by
  intro after
  simp only [after, Action.sceneAfter]
  cases opened : scene.rest.1.context with
  | none =>
    have ran : close maker.watched scene = .ok () scene := by
      simp [close, Action.bind_run, opened]
    rw [ran]
    exact .nothing opened
  | some context =>
    simp only [close, Action.bind_run, Action.inspect_run, id, opened, Maker.watched, record_run]
    cases maker.exit context (scene.withRest scene.rest.2.2) with
    | error failure last => exact .stuck opened
    | ok value last => exact .left opened

private theorem health_opening (maker : Maker κ) (probe : Call κ Unit) (scene : Scene (Watched κ)) :
    let after := (health maker.watched (probe.on .second)).sceneAfter scene
    Opening scene.rest.1 scene.rest.2.1 after.rest.1 after.rest.2.1 (given maker scene) := by
  intro after
  have opening := getClient_opening maker scene
  suffices same : (after.rest.1, after.rest.2.1) =
      (((getClient maker.watched).sceneAfter scene).rest.1,
        ((getClient maker.watched).sceneAfter scene).rest.2.1) by
    obtain ⟨connection, log⟩ := Prod.mk.inj same
    rwa [connection, log]
  have blind : probe.Leaves fun _ => () := ⟨fun _ => rfl, fun _ _ => rfl, fun _ _ => rfl⟩
  have inner : (probe.on .second : Call (List Event × κ) Unit).Leaves Prod.fst :=
    blind.on fun _ _ _ => rfl
  let called : Call (Watched κ) Unit := (probe.on .second : Call (List Event × κ) Unit).on .second
  have outer : called.Leaves fun state => (state.1, state.2.1) :=
    inner.on fun _ state same => Prod.ext rfl same
  simp only [after, health, Action.sceneAfter, Action.recover, Action.bind_run]
  cases asked : getClient maker.watched scene with
  | error failure last =>
    by_cases cancelled : (failure.isCancelled || failure == .stalled) = true <;> simp [cancelled]
  | ok client middle =>
    have kept := outer.run none middle
    simp only [Action.sceneAfter, Call.run, called] at kept
    cases probed : ((probe.on .second : Call (List Event × κ) Unit).on .second :
        Call (Watched κ) Unit).await middle with
    | ok value last => simpa [probed] using kept
    | error failure last =>
      by_cases cancelled : (failure.isCancelled || failure == .stalled) = true <;>
        simpa [probed, cancelled] using kept

/-! What every change keeps. -/

/-- One change of a connection, with the event that it is written down as. -/
inductive Change (connection : Connection) : Event → Connection → Prop
  | uncreated (unused : connection.client = none) : Change connection (.created false) connection
  | created (unused : connection.client = none) :
      Change connection (.created true)
        { connection with made := connection.made + 1, context := some connection.made }
  | unentered {context : Nat} (opened : connection.context = some context)
      (unused : connection.client = none) : Change connection (.entered context false) connection
  | entered {context : Nat} (opened : connection.context = some context)
      (unused : connection.client = none) :
      Change connection (.entered context true) { connection with client := some context }
  | left {context : Nat} (opened : connection.context = some context) :
      Change connection (.left context true) { connection with context := none, client := none }
  | stuck {context : Nat} (opened : connection.context = some context) :
      Change connection (.left context false) connection

/-- Any number of changes. -/
inductive Changes (connection : Connection) (log : List Event) : Connection → List Event → Prop
  | none : Changes connection log connection log
  | more {middle last : Connection} {events : List Event} {event : Event}
      (earlier : Changes connection log middle events) (change : Change middle event last) :
      Changes connection log last (events ++ [event])

section

variable {connection last : Connection} {log events : List Event} {event : Event}

theorem Opening.changes {client : Option Nat} (opening : Opening connection log last events client) :
    Changes connection log last events := by
  cases opening with
  | inUse used => exact .none
  | uncreated unused => exact .more .none (.uncreated unused)
  | unentered unused => exact .more (.more .none (.created unused)) (.unentered rfl unused)
  | entered unused => exact .more (.more .none (.created unused)) (.entered rfl unused)

theorem Closing.changes (closing : Closing connection log last events) :
    Changes connection log last events := by
  cases closing with
  | nothing unopened => exact .none
  | left opened => exact .more .none (.left opened)
  | stuck opened => exact .more .none (.stuck opened)

/-- What a connection says of the events that led to it. The context made last is the only one that
can be left, and a client in use is of an open context. -/
structure Tells (connection : Connection) (log : List Event) : Prop where
  made : log.count (.created true) = connection.made
  numbered : ∀ context done, .entered context done ∈ log ∨ .left context done ∈ log →
    context < connection.made
  context : ∀ context, connection.context = some context →
    context + 1 = connection.made ∧ .left context true ∉ log
  settled : connection.context = none → ∀ context, context + 1 = connection.made →
    .left context true ∈ log
  client : ∀ client, connection.client = some client →
    connection.context = some client ∧ IsOpen log client
  ofOpen : ∀ context, IsOpen log context → connection.client = some context

theorem Tells.change (tells : Tells connection log) (change : Change connection event last) :
    Tells last (log ++ [event]) := by
  obtain ⟨made, numbered, context, settled, client, ofOpen⟩ := tells
  cases change with
  | uncreated unused => constructor <;> grind [IsOpen]
  -- All numbers in the log are below the new one, so nothing has happened to its context yet.
  | created unused => constructor <;> grind [IsOpen]
  | unentered opened unused => constructor <;> grind [IsOpen]
  | entered opened unused => constructor <;> grind [IsOpen]
  | left opened => constructor <;> grind [IsOpen]
  | stuck opened => constructor <;> grind [IsOpen]

/-- At most one context is open at any point of the log, and none is left twice. -/
structure Orderly (log : List Event) : Prop where
  apart : ∀ sofar, sofar <+: log → ∀ one other, IsOpen sofar one → IsOpen sofar other → one = other
  once : ∀ context, log.count (.left context true) ≤ 1

private theorem Tells.orderly_change (tells : Tells connection log) (orderly : Orderly log)
    (change : Change connection event last) : Orderly (log ++ [event]) where
  apart sofar early one other := by
    rcases List.prefix_concat_iff.mp early with rfl | early
    · intro first second
      have told := tells.change change
      exact Option.some.inj ((told.ofOpen one first).symm.trans (told.ofOpen other second))
    · exact orderly.apart sofar early one other
  once context := by
    rw [List.count_append]
    by_cases same : event = .left context true
    · subst same
      cases change with
      | left opened =>
        have unleft := (tells.context context opened).2
        simp [List.count_eq_zero.mpr unleft]
    · simpa [same] using orderly.once context

theorem Changes.keep (changes : Changes connection log last events) (tells : Tells connection log)
    (orderly : Orderly log) : Tells last events ∧ Orderly events := by
  induction changes with
  | none => exact ⟨tells, orderly⟩
  | more earlier change ih => exact ⟨ih.1.change change, ih.1.orderly_change ih.2 change⟩

/-- A client is in use exactly if a context is open. -/
theorem Tells.client_eq_none_iff (tells : Tells connection log) :
    connection.client = none ↔ ¬ ∃ context, IsOpen log context := by
  constructor
  · rintro unused ⟨context, isOpen⟩
    rw [tells.ofOpen context isOpen] at unused
    cases unused
  · intro none
    cases used : connection.client with
    | none => rfl
    | some client => exact absurd ⟨client, (tells.client client used).2⟩ none

private theorem Tells.context_of_unleft (tells : Tells connection log) {context : Nat}
    (newest : context + 1 = log.count (.created true)) (unleft : .left context true ∉ log) :
    connection.context = some context := by
  rw [tells.made] at newest
  cases opened : connection.context with
  | none => exact absurd (tells.settled opened context newest) unleft
  | some own =>
    have same := (tells.context own opened).1
    exact congrArg some (by omega)

private theorem Opening.client_eq {client : Option Nat}
    (opening : Opening connection log last events client) : last.client = client := by
  cases opening with
  | inUse used => exact used
  | uncreated unused => exact unused
  | unentered unused => exact unused
  | entered unused => rfl

/-- A context is created, or is tried to be, exactly if no client is in use. -/
theorem Opening.creates_iff {client : Option Nat}
    (opening : Opening connection log last events client) :
    (∃ done rest, events.drop log.length = .created done :: rest) ↔ connection.client = none := by
  cases opening with
  | inUse used => simp [used]
  | uncreated unused => simp [unused]
  | unentered unused => simp [unused]
  | entered unused => simp [unused]

private theorem Opening.left_not_mem {client : Option Nat}
    (opening : Opening connection log last events client) (context : Nat) (done : Bool) :
    .left context done ∉ events.drop log.length := by
  cases opening with
  | inUse used => simp
  | uncreated unused => simp
  | unentered unused => simp
  | entered unused => simp

/-- A client is given out whose context was told to close, exactly if an exit of it has failed. -/
theorem Opening.honours_iff (tells : Tells connection log) {client : Option Nat}
    (opening : Opening connection log last events client) :
    (∀ own, client = some own → ∀ done, .left own done ∉ log) ↔
      ¬ ∃ context, context + 1 = log.count (.created true) ∧ .left context true ∉ log ∧
        .entered context true ∈ log ∧ .left context false ∈ log := by
  have fresh (done : Bool) : .left connection.made done ∉ log := fun member =>
    Nat.lt_irrefl _ (tells.numbered connection.made done (.inr member))
  have unspoiled (unused : connection.client = none) :
      ¬ ∃ context, context + 1 = log.count (.created true) ∧ .left context true ∉ log ∧
        .entered context true ∈ log ∧ .left context false ∈ log := by
    rintro ⟨context, -, unleft, entered, -⟩
    exact tells.client_eq_none_iff.mp unused ⟨context, entered, unleft⟩
  cases opening with
  | @inUse own used =>
    obtain ⟨opened, entered, unleft⟩ := tells.client own used
    have newest := (tells.context own opened).1
    constructor
    · rintro honours ⟨context, newest, unleft, -, failed⟩
      have same := tells.context_of_unleft newest unleft
      rw [opened] at same
      cases same
      exact honours own rfl false failed
    · intro unspoiled other same done member
      cases same
      cases done with
      | true => exact unleft member
      | false => exact unspoiled ⟨own, tells.made ▸ newest, unleft, entered, member⟩
  | uncreated unused => exact iff_of_true (fun _ none => nomatch none) (unspoiled unused)
  | unentered unused => exact iff_of_true (fun _ none => nomatch none) (unspoiled unused)
  | entered unused =>
    refine iff_of_true ?_ (unspoiled unused)
    intro own same done
    cases same
    exact fresh done

/-- A context is left that is open and was not told to close, exactly if neither its entry nor an
earlier exit has failed. -/
theorem Closing.honours_iff (tells : Tells connection log)
    (closing : Closing connection log last events) :
    (∀ context done, .left context done ∈ events.drop log.length →
      .entered context true ∈ log ∧ ∀ other, .left context other ∉ log) ↔
      ¬ ∃ context, context + 1 = log.count (.created true) ∧ .left context true ∉ log ∧
        (.entered context true ∈ log ∧ .left context false ∈ log ∨
          .entered context true ∉ log) := by
  have exited {own : Nat} (done : Bool) (opened : connection.context = some own) :
      (∀ context other, .left context other ∈ [Event.left own done] →
        .entered context true ∈ log ∧ ∀ other, .left context other ∉ log) ↔
      ¬ ∃ context, context + 1 = log.count (.created true) ∧ .left context true ∉ log ∧
        (.entered context true ∈ log ∧ .left context false ∈ log ∨
          .entered context true ∉ log) := by
    obtain ⟨newest, unleft⟩ := tells.context own opened
    rw [← tells.made] at newest
    constructor
    · rintro honours ⟨context, newest, unleft, spoiled⟩
      have same := tells.context_of_unleft newest unleft
      rw [opened] at same
      cases same
      obtain ⟨entered, untold⟩ := honours own done (List.mem_singleton.mpr rfl)
      rcases spoiled with ⟨-, failed⟩ | unentered
      · exact untold false failed
      · exact unentered entered
    · intro unspoiled context other member
      cases List.mem_singleton.mp member
      have entered : .entered own true ∈ log := Decidable.byContradiction fun unentered =>
        unspoiled ⟨own, newest, unleft, .inr unentered⟩
      refine ⟨entered, fun other told => ?_⟩
      cases other with
      | true => exact unleft told
      | false => exact unspoiled ⟨own, newest, unleft, .inl ⟨entered, told⟩⟩
  cases closing with
  | nothing unopened =>
    refine iff_of_true (by simp) ?_
    rintro ⟨context, newest, unleft, -⟩
    rw [tells.context_of_unleft newest unleft] at unopened
    cases unopened
  | left opened => simpa using exited true opened
  | stuck opened => simpa using exited false opened

end

/-- A use of a connection: asking for its client, closing it, or probing the service. -/
inductive Use (κ : Type)
  | get
  | close
  | probe (call : Call κ Unit)

namespace Use

/-- Whether a use asks for the client. -/
def asks : Use κ → Bool
  | .close => false
  | _ => true

def run (maker : Maker κ) : Use κ → Action (Watched κ) Unit
  | .get => (fun _ => ()) <$> getClient maker.watched
  | .close => Connection.close maker.watched
  | .probe call => (fun _ => ()) <$> health maker.watched (call.on .second)

end Use

/-- A use, in the scene in which it is made. -/
structure Moment (κ : Type) where
  use : Use κ
  before : Scene (Watched κ)

/-- The uses of a connection, one after the other, whatever becomes of each. -/
def moments (maker : Maker κ) : List (Use κ) → Scene (Watched κ) → List (Moment κ)
  | [], _ => []
  | use :: rest, scene => ⟨use, scene⟩ :: moments maker rest ((use.run maker).sceneAfter scene)

namespace Moment

variable (maker : Maker κ) (moment : Moment κ)

/-- All that has happened before. -/
def past : List Event := moment.before.rest.2.1

def after : Scene (Watched κ) := (moment.use.run maker).sceneAfter moment.before

/-- All that has happened when the use has ended. -/
def log : List Event := (moment.after maker).rest.2.1

/-- What happens during the use. -/
def news : List Event := (moment.log maker).drop moment.past.length

/-- The client that the use gets, if it asks for one. -/
def client : Option Nat :=
  if moment.use.asks then given maker moment.before else none

/-- Whether only contexts that were entered are left, and only clients are given out and contexts
left of which no exit was called before. -/
def Honours : Prop :=
  (∀ context done, .left context done ∈ moment.news maker →
    .entered context true ∈ moment.past ∧ ∀ other, .left context other ∉ moment.past) ∧
  ∀ client, moment.client maker = some client → ∀ done, .left client done ∉ moment.past

/-- Whether the context made last is still to be left, and either an exit of it has failed, or it was
never entered and is to be left now. -/
def IsSpoiled : Prop :=
  ∃ context, context + 1 = moment.past.count (.created true) ∧ .left context true ∉ moment.past ∧
    (.entered context true ∈ moment.past ∧ .left context false ∈ moment.past ∨
      .entered context true ∉ moment.past ∧ moment.use.asks = false)

/-- What is so of every use. -/
structure IsSound : Prop where
  oneOpen : ∀ sofar, sofar <+: moment.log maker →
    ∀ one other, IsOpen sofar one → IsOpen sofar other → one = other
  leftOnce : ∀ context, (moment.log maker).count (.left context true) ≤ 1
  given : ∀ client, moment.client maker = some client → IsOpen (moment.log maker) client
  opens : moment.use.asks = true →
    ((∃ done rest, moment.news maker = .created done :: rest) ↔
      ¬ ∃ context, IsOpen moment.past context)
  failed : moment.use.asks = true → moment.client maker = none →
    ∀ context, ¬ IsOpen (moment.log maker) context
  honours_iff : moment.Honours maker ↔ ¬ moment.IsSpoiled

private theorem cases_use :
    (moment.use.asks = true ∧ Opening moment.before.rest.1 moment.past (moment.after maker).rest.1
      (moment.log maker) (moment.client maker)) ∨
    (moment.use.asks = false ∧ moment.client maker = none ∧ Closing moment.before.rest.1
      moment.past (moment.after maker).rest.1 (moment.log maker)) := by
  obtain ⟨use, before⟩ := moment
  cases use with
  | get =>
    refine .inl ⟨rfl, ?_⟩
    simp only [past, log, client, after, Use.run, Use.asks, if_true, Action.sceneAfter_map]
    exact getClient_opening maker before
  | close => exact .inr ⟨rfl, rfl, close_closing maker before⟩
  | probe call =>
    refine .inl ⟨rfl, ?_⟩
    simp only [past, log, client, after, Use.run, Use.asks, if_true, Action.sceneAfter_map]
    exact health_opening maker call before

theorem changes : Changes moment.before.rest.1 moment.past (moment.after maker).rest.1
    (moment.log maker) := by
  rcases cases_use maker moment with ⟨-, opening⟩ | ⟨-, -, closing⟩
  · exact opening.changes
  · exact closing.changes

variable {maker moment}

/-- A use of a connection that tells the truth about its contexts is sound, and still does. -/
theorem isSound (tells : Tells moment.before.rest.1 moment.past) (orderly : Orderly moment.past) :
    moment.IsSound maker := by
  obtain ⟨told, kept⟩ := (changes maker moment).keep tells orderly
  rcases cases_use maker moment with ⟨asks, opening⟩ | ⟨asks, none, closing⟩
  · have given := opening.client_eq
    exact {
      oneOpen := kept.apart
      leftOnce := kept.once
      given := fun client same => (told.client client (given.trans same)).2
      opens := fun _ => opening.creates_iff.trans tells.client_eq_none_iff
      failed := fun _ none context isOpen =>
        told.client_eq_none_iff.mp (given.trans none) ⟨context, isOpen⟩
      honours_iff := by
        have quiet := opening.left_not_mem
        simpa [Honours, IsSpoiled, news, quiet, asks] using opening.honours_iff tells }
  · exact {
      oneOpen := kept.apart
      leftOnce := kept.once
      given := fun client same => by simp [none] at same
      opens := fun other => by simp [asks] at other
      failed := fun other => by simp [asks] at other
      honours_iff := by
        simpa [Honours, IsSpoiled, news, none, asks] using closing.honours_iff tells }

end Moment

private theorem moments_sound {maker : Maker κ} {uses : List (Use κ)} {scene : Scene (Watched κ)}
    (tells : Tells scene.rest.1 scene.rest.2.1) (orderly : Orderly scene.rest.2.1) :
    ∀ moment ∈ moments maker uses scene, moment.IsSound maker := by
  induction uses generalizing scene with
  | nil => exact fun moment member => absurd member List.not_mem_nil
  | cons use rest ih =>
    intro moment member
    rcases List.mem_cons.mp member with rfl | later
    · exact Moment.isSound tells orderly
    · obtain ⟨told, kept⟩ := (Moment.changes maker ⟨use, scene⟩).keep tells orderly
      exact ih told kept moment later

/-- Whatever fails in whatever uses of a connection: at any time at most one context is open, each is
left at most once, a client that is given out is of an open context, and a client is opened exactly
if none is open. Only what was entered is left, and nothing is left or given out again after a
call of its exit, exactly if a use finds no context whose entry or exit has failed. -/
theorem contexts_sound (maker : Maker κ) (region : String) (endpointUrl : Option String)
    (pathStyle : Bool) (given : Table Setting) (uses : List (Use κ)) (scene : Scene κ) :
    let connection := ofParts region endpointUrl pathStyle given
    ∀ moment ∈ moments maker uses (scene.withRest (connection, [], scene.rest)),
      moment.IsSound maker := by
  intro connection
  refine moments_sound ?_ ?_
  · constructor <;> simp [connection, ofParts, IsOpen]
  · constructor <;> simp [IsOpen]

/-- Succeed or fail as the next entry of a list says, and succeed when there is none. -/
def nextTurn : Action (List Bool) Unit := fun scene =>
  match scene.rest with
  | false :: rest => .error (.fault (.ofGeneral "OSError" "down")) (scene.withRest rest)
  | rest => .ok () (scene.withRest rest.tail)

def flaky : Maker (List Bool) :=
  ⟨fun _ => nextTurn, fun _ => nextTurn, fun _ => nextTurn⟩

/-- The uses of a fresh connection with such a maker. -/
def flakyMoments (uses : List (Use (List Bool))) (turns : List Bool) : List (Moment (List Bool)) :=
  moments flaky uses
    ((Scene.bare turns).withRest (ofParts defaultRegion none false ∅, [], turns))

/-- The first entry fails, the second succeeds, and its context is left. -/
theorem reopened_contexts :
    ∃ failed again closed, flakyMoments [.get, .get, .close] [true, false] =
        [failed, again, closed] ∧
      failed.client flaky = none ∧ again.client flaky = some 1 ∧ IsOpen (again.log flaky) 1 ∧
      closed.Honours flaky := by
  refine ⟨_, _, _, rfl, rfl, rfl, ?_, ?_⟩
  · have sound := contexts_sound flaky defaultRegion none false ∅ [.get, .get, .close]
      (.bare [true, false]) _ (List.mem_cons_of_mem _ List.mem_cons_self)
    exact sound.given 1 rfl
  · have sound := contexts_sound flaky defaultRegion none false ∅ [.get, .get, .close]
      (.bare [true, false]) _
      (List.mem_cons_of_mem _ (List.mem_cons_of_mem _ List.mem_cons_self))
    refine sound.honours_iff.mpr ?_
    rintro ⟨context, newest, -, spoiled⟩
    obtain rfl : context = 1 := Nat.succ.inj newest
    rcases spoiled with ⟨-, failed⟩ | ⟨unentered, -⟩
    · exact absurd failed (by decide)
    · exact unentered (by decide)

/-- A context whose entry failed is left all the same; one whose exit fails is left again, and its
client is given out again. -/
theorem spoiled_contexts :
    (∃ opened closed, flakyMoments [.get, .close] [true, false] = [opened, closed] ∧
      closed.log flaky = [.created true, .entered 0 false, .left 0 true] ∧
      ¬ closed.Honours flaky) ∧
    (∃ opened closed again, flakyMoments [.get, .close, .close] [true, true, false] =
        [opened, closed, again] ∧
      again.log flaky = [.created true, .entered 0 true, .left 0 false, .left 0 true] ∧
      ¬ again.Honours flaky) ∧
    ∃ opened closed again, flakyMoments [.get, .close, .get] [true, true, false] =
        [opened, closed, again] ∧
      again.log flaky = [.created true, .entered 0 true, .left 0 false] ∧
      again.client flaky = some 0 ∧ ¬ again.Honours flaky := by
  refine ⟨⟨_, _, rfl, rfl, ?_⟩, ⟨_, _, _, rfl, rfl, ?_⟩, _, _, _, rfl, rfl, rfl, ?_⟩
  · rintro ⟨left, -⟩
    exact absurd (left 0 true (by decide)).1 (by decide)
  · rintro ⟨left, -⟩
    exact absurd ((left 0 true (by decide)).2 false) (by decide)
  · rintro ⟨-, given⟩
    exact absurd (given 0 rfl false) (by decide)

end ClaimCheck.Connection
