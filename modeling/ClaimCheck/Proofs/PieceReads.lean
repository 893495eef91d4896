import ClaimCheck.Proofs.StreamContract
import ClaimCheck.Proofs.StreamDelivery

/-!
Reading a stream piece by piece. Whatever sizes are asked for, the pieces make up the content once
and in order; reading to the end gives the rest, and from then on nothing comes.
-/
namespace ClaimCheck

namespace StreamReader

variable {ρ τ : Type}

/-- What a call returns, if it returns. -/
def returned (reader : StreamReader ρ τ) (made : Made ρ τ) : Bytes :=
  match reader.perform made.reading made.before with
  | .ok bytes _ => bytes
  | .error _ _ => []

private theorem returned_of_ok {reader : StreamReader ρ τ} {made : Made ρ τ} {bytes : Bytes}
    {after : Scene (τ × ρ)} (ran : reader.perform made.reading made.before = .ok bytes after) :
    reader.returned made = bytes := by
  rw [returned, ran]

/-- The stream and the scene that a history of calls leaves behind. -/
def resume (reader : StreamReader ρ τ) : List (Turn ρ) → τ → Scene ρ → τ × Scene ρ
  | [], stream, scene => (stream, scene)
  | turn :: rest, stream, scene =>
    let scene := turn.meanwhile scene
    let after := (reader.perform turn.reading).sceneAfter (scene.withRest (stream, scene.rest))
    resume reader rest after.rest.1 after.outer

private theorem history_append (reader : StreamReader ρ τ) (begun later : List (Turn ρ))
    (stream : τ) (scene : Scene ρ) :
    reader.history (begun ++ later) stream scene =
      reader.history begun stream scene ++
        reader.history later (reader.resume begun stream scene).1
          (reader.resume begun stream scene).2 := by
  induction begun generalizing stream scene with
  | nil => rfl
  | cons turn rest ih => exact congrArg (List.cons _) (ih _ _)

private theorem length_history (reader : StreamReader ρ τ) (turns : List (Turn ρ)) (stream : τ)
    (scene : Scene ρ) : (reader.history turns stream scene).length = turns.length := by
  induction turns generalizing stream scene with
  | nil => rfl
  | cons turn rest ih => exact congrArg Nat.succ (ih _ _)

/-- What happens between the calls keeps what is said of the scene. -/
def Turn.Spares (kept : Scene ρ → Prop) (turn : Turn ρ) : Prop :=
  ∀ scene, kept scene → kept (turn.meanwhile scene)

namespace HandsOut

variable {reader : StreamReader ρ τ} {refuses : Int → Option Failure} {ready : τ → Prop}
  {left : τ → Bytes} {kept : Scene ρ → Prop}

/-- A call that is not refused returns from the front of what is left, and a call for everything
leaves nothing. -/
theorem perform (hands : reader.HandsOut refuses ready left kept) {reading : Reading}
    {scene : Scene (τ × ρ)} (taken : refuses reading.size = none) (open' : ready scene.rest.1)
    (safe : kept scene.outer) :
    ∃ piece after, reader.perform reading scene = .ok piece after ∧
      left scene.rest.1 = piece ++ left after.rest.1 ∧
      (reading = .whole → left after.rest.1 = []) ∧ ready after.rest.1 ∧ kept after.outer := by
  cases reading with
  | piece size =>
    obtain ⟨piece, after, ran, split, -, -, open', safe⟩ := hands.hands scene taken open' safe
    exact ⟨piece, after, ran, split, Reading.noConfusion, open', safe⟩
  | whole =>
    obtain ⟨after, collected, gone, open', safe⟩ := collect_delivers hands.advances
      (reader.pieces scene.rest.1 + 1) [] scene open' safe (Nat.lt_succ_self _)
    exact ⟨_, after, collected, by simp [gone], fun _ => gone, open', safe⟩

private theorem perform_refused (hands : reader.HandsOut refuses ready left kept)
    {reading : Reading} {failure : Failure} (refused : refuses reading.size = some failure)
    (scene : Scene (τ × ρ)) :
    reader.perform reading scene = .error failure scene := by
  cases reading with
  | piece size => exact hands.refusal scene refused
  | whole =>
    rw [Reading.size, hands.accepts] at refused
    cases refused

/-- Whatever a call asks for, what it returns comes off the front of what is left. -/
theorem step (hands : reader.HandsOut refuses ready left kept) (made : Made ρ τ)
    (open' : ready made.before.rest.1) (safe : kept made.before.outer) :
    let after := (reader.perform made.reading).sceneAfter made.before
    left made.before.rest.1 = reader.returned made ++ left after.rest.1 ∧
      ready after.rest.1 ∧ kept after.outer := by
  cases refused : refuses made.reading.size with
  | some failure =>
    have failed := hands.perform_refused refused made.before
    simpa [returned, Action.sceneAfter, failed] using And.intro open' safe
  | none =>
    obtain ⟨piece, after, ran, split, -, open', safe⟩ := hands.perform refused open' safe
    simpa only [returned, Action.sceneAfter, ran] using ⟨split, open', safe⟩

/-- What a history returns and what it leaves make up what was left before, and every call that is
not refused returns. -/
theorem run (hands : reader.HandsOut refuses ready left kept) {turns : List (Turn ρ)} {stream : τ}
    {scene : Scene ρ} (spare : ∀ turn ∈ turns, turn.Spares kept) (open' : ready stream)
    (safe : kept scene) :
    left stream = (reader.history turns stream scene).flatMap reader.returned ++
        left (reader.resume turns stream scene).1 ∧
      ready (reader.resume turns stream scene).1 ∧ kept (reader.resume turns stream scene).2 ∧
      ∀ made ∈ reader.history turns stream scene, refuses made.reading.size = none →
        ∃ after, reader.perform made.reading made.before = .ok (reader.returned made) after := by
  induction turns generalizing stream scene with
  | nil => exact ⟨rfl, open', safe, fun made member => absurd member List.not_mem_nil⟩
  | cons turn rest ih =>
    have first := spare turn List.mem_cons_self scene safe
    let before := (turn.meanwhile scene).withRest (stream, (turn.meanwhile scene).rest)
    obtain ⟨split, ready', kept'⟩ := hands.step ⟨turn.reading, before⟩ open' first
    obtain ⟨joined, ready', kept', return'⟩ :=
      ih (fun other member => spare other (List.mem_cons_of_mem _ member)) ready' kept'
    refine ⟨?_, ready', kept', ?_⟩
    · simp only [history, List.flatMap_cons, List.append_assoc, resume]
      rw [← joined]
      exact split
    · intro made member taken
      rcases List.mem_cons.mp member with rfl | later
      · have ready' : ready before.rest.1 := open'
        obtain ⟨piece, after, ran, -⟩ := hands.perform taken ready' first
        exact ⟨after, by rwa [returned_of_ok ran]⟩
      · exact return' made later taken

end HandsOut

/-- What the calls of a history come to if they give a content once and in order: together they
return all of it, reading to the end returns, and every later call returns nothing. A call for a size
that is refused fails, and changes nothing. -/
structure GiveOnce (reader : StreamReader ρ τ) (refuses : Int → Option Failure) (content : Bytes)
    (past : List (Made ρ τ)) (toEnd : Made ρ τ) (future : List (Made ρ τ)) : Prop where
  together : (past ++ toEnd :: future).flatMap reader.returned = content
  returns : ∀ made ∈ past, refuses made.reading.size = none →
    ∃ piece after, reader.perform made.reading made.before = .ok piece after
  ends : ∃ bytes after, reader.perform .whole toEnd.before = .ok bytes after
  nothing : ∀ made ∈ future, refuses made.reading.size = none →
    ∃ after, reader.perform made.reading made.before = .ok [] after
  refused : ∀ made ∈ past ++ future, ∀ failure, refuses made.reading.size = some failure →
    reader.perform made.reading made.before = .error failure made.before

/-- Calls up to one that reads to the end, and calls after it. -/
def readThrough (begun : List (Turn ρ)) (meanwhile : Scene ρ → Scene ρ) (later : List (Turn ρ)) :
    List (Turn ρ) :=
  begun ++ ⟨meanwhile, .whole⟩ :: later

private theorem HandsOut.giveOnce {reader : StreamReader ρ τ} {refuses : Int → Option Failure}
    {ready : τ → Prop} {left : τ → Bytes} {kept : Scene ρ → Prop}
    (hands : reader.HandsOut refuses ready left kept) {begun later : List (Turn ρ)}
    {meanwhile : Scene ρ → Scene ρ} {stream : τ} {scene : Scene ρ}
    (spare : ∀ turn ∈ readThrough begun meanwhile later, turn.Spares kept) (open' : ready stream)
    (safe : kept scene) :
    ∃ past toEnd future,
      reader.history (readThrough begun meanwhile later) stream scene =
        past ++ toEnd :: future ∧
      past.length = begun.length ∧ toEnd.reading = .whole ∧
      reader.GiveOnce refuses (left stream) past toEnd future := by
  have early : ∀ turn ∈ begun, turn.Spares kept :=
    fun turn member => spare turn (List.mem_append_left _ member)
  have pause : Turn.Spares kept ⟨meanwhile, .whole⟩ :=
    spare _ (List.mem_append_right _ List.mem_cons_self)
  have late : ∀ turn ∈ later, turn.Spares kept :=
    fun turn member => spare turn (List.mem_append_right _ (List.mem_cons_of_mem _ member))
  obtain ⟨split, ready', kept', return'⟩ := hands.run early open' safe
  generalize reached : reader.resume begun stream scene = middle at split ready' kept'
  let paused := meanwhile middle.2
  let toEnd : Made ρ τ := ⟨.whole, paused.withRest (middle.1, paused.rest)⟩
  have taken : refuses toEnd.reading.size = none := hands.accepts
  have open' : ready toEnd.before.rest.1 := ready'
  obtain ⟨bytes, after, ran, rest, gone, ready', kept'⟩ :=
    hands.perform taken open' (pause _ kept')
  have all : reader.returned toEnd = bytes := returned_of_ok ran
  obtain ⟨nothing, -, -, still⟩ := hands.run late ready' kept'
  have spent := gone rfl
  rw [spent, List.nil_eq_append_iff] at nothing
  refine ⟨reader.history begun stream scene, toEnd,
    reader.history later after.rest.1 after.outer, ?_, reader.length_history _ _ _, rfl, ?_⟩
  · simp only [readThrough, history_append, history, reached]
    have same : (reader.perform toEnd.reading).sceneAfter toEnd.before = after := by
      simp only [Action.sceneAfter, ran]
    simp only [toEnd, paused] at same
    rw [same]
  · exact {
      together := by
        rw [List.flatMap_append, List.flatMap_cons, nothing.1, all, List.append_nil, split]
        rw [show left middle.1 = bytes from rest.trans (by rw [spent, List.append_nil])]
      returns := fun made member taken => ⟨_, return' made member taken⟩
      ends := ⟨bytes, after, ran⟩
      nothing := fun made member taken => by
        have none := List.flatMap_eq_nil_iff.mp nothing.1 made member
        simpa only [none] using still made member taken
      refused := fun made _ failure refused => hands.perform_refused refused made.before }

/-- The pieces that reading to the end takes from one scene to another. -/
inductive Pulled (reader : StreamReader ρ τ) : Scene (τ × ρ) → List Bytes → Scene (τ × ρ) → Prop
  | none (scene : Scene (τ × ρ)) : Pulled reader scene [] scene
  | piece {scene after last : Scene (τ × ρ)} {piece : Bytes} {later : List Bytes}
      (ran : reader.read pieceSize scene = .ok piece after) (more : piece ≠ [])
      (rest : Pulled reader after later last) : Pulled reader scene (piece :: later) last

/-- Reading to the end fails as its last read does, and returns none of the pieces before it. -/
theorem Pulled.collect {reader : StreamReader ρ τ} {scene last after : Scene (τ × ρ)}
    {pieces : List Bytes} {failure : Failure} (pulled : reader.Pulled scene pieces last)
    (failed : reader.read pieceSize last = .error failure after) (fuel : Nat) (read : List Bytes)
    (enough : pieces.length < fuel) : reader.collect fuel read scene = .error failure after := by
  induction pulled generalizing fuel read with
  | none scene =>
    cases fuel with
    | zero => exact absurd enough (Nat.not_lt_zero _)
    | succ fuel => rw [StreamReader.collect, Action.bind_of_error failed]
  | piece ran more rest ih =>
    cases fuel with
    | zero => exact absurd enough (Nat.not_lt_zero _)
    | succ fuel =>
      rw [StreamReader.collect, Action.bind_of_ok ran]
      simpa [more] using ih failed fuel _ (Nat.lt_of_succ_lt_succ enough)

end StreamReader

namespace Client

variable {ρ β : Type}

/-- A client whose bodies hand out what is left of them from the front, in pieces of any length, as
long as nobody cancels the task that reads. -/
def HandsOut (client : Client ρ β) (left : β → Bytes) : Prop :=
  ∀ asked (scene : Scene (β × ρ)), scene.task.pending = false →
    ∃ piece after, (client.read asked).start scene = (.ended (.ok piece), after) ∧
      left scene.rest.1 = piece ++ left after.rest.1 ∧
      (piece = [] → asked = some 0 ∨ left scene.rest.1 = []) ∧
      (piece ≠ [] → client.pieces after.rest.1 < client.pieces scene.rest.1) ∧
      after.task.pending = false

/-- Whether reading does not raise the signal. -/
def Spares (client : Client ρ β) (signal : Option Signal) : Prop :=
  ∀ asked (scene : Scene (β × ρ)), scene.isCancelled signal = false →
    ((client.read asked).start scene).2.isCancelled signal = false

end Client

/-- Whether nobody has told a caller with this signal to end. -/
def Scene.IsCalm {ρ : Type} (signal : Option Signal) (scene : Scene ρ) : Prop :=
  scene.isCancelled signal = false ∧ scene.task.pending = false

namespace CloudStore

variable {ρ β : Type} {store : CloudStore ρ β} {left : β → Bytes} {signal : Option Signal}

/-- A read after the signal was raised fails, and the body is not touched. -/
theorem read_of_isCancelled {scene : Scene (CloudStream β × ρ)}
    (raised : scene.isCancelled scene.rest.1.signal = true) (size : Int) :
    store.reader.read size scene = .error .cancelledByCaller scene := by
  simp only [reader, read_eq, readRaw_run, raised, if_true]
  rfl

private theorem read_of_handsOut (hands : store.client.HandsOut left) (size : Int)
    {scene : Scene (CloudStream β × ρ)} (free : scene.task.pending = false)
    (unraised : scene.isCancelled scene.rest.1.signal = false) :
    ∃ piece after, store.reader.read size scene = .ok piece after ∧
      left scene.rest.1.body = piece ++ left after.rest.1.body ∧
      (piece = [] → size = 0 ∨ left scene.rest.1.body = []) ∧
      (piece ≠ [] → store.reader.pieces after.rest.1 < store.reader.pieces scene.rest.1) ∧
      after.task.pending = false ∧ after.rest.1.signal = scene.rest.1.signal ∧
      (store.client.Spares scene.rest.1.signal →
        after.isCancelled scene.rest.1.signal = false) := by
  let inner : Scene (β × ρ) := scene.withRest (scene.rest.1.body, scene.rest.2)
  let asked := if size < 0 then none else some size.toNat
  obtain ⟨piece, after, started, split, last, fewer, free⟩ := hands asked inner free
  let back : Scene (CloudStream β × ρ) :=
    after.withRest ({ scene.rest.1 with body := after.rest.1 }, after.rest.2)
  have called : (store.bodyCall size).start scene = (.ended (.ok piece), back) := by
    simp only [bodyCall, Call.on]
    rw [show (store.client.read asked).start (scene.withRest (bodyPart.get scene.rest)) = _ from
      started]
    rfl
  refine ⟨piece, back, ?_, split, ?_, fewer, free, rfl, ?_⟩
  · simp only [reader, read_eq, readRaw_run, unraised, Bool.false_eq_true, if_false,
      Call.run_of_ended called free, Action.ofExcept_ok]
  · intro empty
    refine (last empty).imp_left fun none => ?_
    by_cases negative : size < 0
    · simp [asked, negative] at none
    · have nothing : size.toNat = 0 := by simpa [asked, negative] using none
      omega
  · intro spares
    have kept := spares asked inner unraised
    rw [started] at kept
    exact kept

/-- A downloaded payload is handed out as long as its reads are left alone. -/
theorem reader_handsOut (hands : store.client.HandsOut left) (spares : store.client.Spares signal) :
    store.reader.HandsOut (fun _ => none) (fun stream => stream.signal = signal)
      (fun stream => left stream.body) (Scene.IsCalm signal) where
  accepts := rfl
  refusal _ refused := by cases refused
  hands {size} scene _ held calm := by
    subst held
    obtain ⟨piece, after, ran, split, last, fewer, free, same, unraised⟩ :=
      read_of_handsOut hands size calm.2 calm.1
    exact ⟨piece, after, ran, split, last, fewer, same, unraised spares, free⟩

private theorem length_pulled (hands : store.client.HandsOut left)
    {scene last : Scene (CloudStream β × ρ)} {pieces : List Bytes}
    (pulled : store.reader.Pulled scene pieces last) (free : scene.task.pending = false) :
    pieces.length ≤ store.reader.pieces scene.rest.1 := by
  induction pulled with
  | none scene => exact Nat.zero_le _
  | @piece scene after last piece later ran more rest ih =>
    cases raised : scene.isCancelled scene.rest.1.signal with
    | true =>
      rw [read_of_isCancelled raised] at ran
      cases ran
    | false =>
      obtain ⟨own, following, read, -, -, fewer, still, -, -⟩ :=
        read_of_handsOut hands StreamReader.pieceSize free raised
      rw [read] at ran
      cases ran
      have fewer := fewer more
      have others := ih still
      simp only [List.length_cons]
      omega

private theorem readAll_of_pulled (hands : store.client.HandsOut left)
    {scene last : Scene (CloudStream β × ρ)} {pieces : List Bytes}
    (pulled : store.reader.Pulled scene pieces last) (free : scene.task.pending = false)
    (raised : last.isCancelled last.rest.1.signal = true) :
    store.reader.readAll scene = .error .cancelledByCaller last := by
  rw [StreamReader.readAll, Action.bind_of_ok (Action.inspect_run id _)]
  have few := length_pulled hands pulled free
  exact pulled.collect (read_of_isCancelled raised _) _ [] (Nat.lt_succ_of_le few)

end CloudStore

open StreamReader in
/-- However a stream is read before and after it is read to its end, its content is given once and in
order, and then there is nothing; bytes in memory only refuse sizes that do not fit into a word. A
cancellation between two pieces of a downloaded payload fails the next read before it touches the
body, and reading to the end with it. -/
theorem contents_are_given_once {ρ β : Type} {store : CloudStore ρ β} {left : β → Bytes}
    (hands : store.client.HandsOut left) (begun later : List (Turn ρ))
    (meanwhile : Scene ρ → Scene ρ) (scene : Scene ρ) :
    let turns := readThrough begun meanwhile later
    (∀ content : Bytes, ∃ past toEnd future,
      ByteStream.reader.history turns (.ofBytes content) scene = past ++ toEnd :: future ∧
      past.length = begun.length ∧ toEnd.reading = .whole ∧
      ByteStream.reader.GiveOnce ByteStream.refuses content past toEnd future) ∧
    (∀ stream : CloudStream β, store.client.Spares stream.signal → scene.IsCalm stream.signal →
      (∀ turn ∈ turns, turn.Spares (Scene.IsCalm stream.signal)) → ∃ past toEnd future,
      store.reader.history turns stream scene = past ++ toEnd :: future ∧
      past.length = begun.length ∧ toEnd.reading = .whole ∧
      store.reader.GiveOnce (fun _ => none) (left stream.body) past toEnd future) ∧
    ∀ (start last : Scene (CloudStream β × ρ)) (pieces : List Bytes),
      start.task.pending = false → store.reader.Pulled start pieces last →
      last.isCancelled last.rest.1.signal = true →
      (∀ size, store.reader.read size last = .error .cancelledByCaller last) ∧
      store.reader.readAll start = .error .cancelledByCaller last := by
  intro turns
  refine ⟨fun content => ?_, fun stream spares calm spared => ?_, ?_⟩
  · exact (ByteStream.reader_handsOut fun _ => True).giveOnce (fun _ _ _ _ => trivial) rfl trivial
  · exact (CloudStore.reader_handsOut hands spares).giveOnce spared rfl calm
  · intro start last pieces free pulled raised
    exact ⟨CloudStore.read_of_isCancelled raised,
      CloudStore.readAll_of_pulled hands pulled free raised⟩

namespace CloudStore

/-- A client of bodies that give a byte at a time; a signal is raised while they do. -/
def dripping : Client Unit Bytes where
  acquire := pure ()
  put _ _ := .ofAction (pure ())
  get _ _ := .ofAction (pure [])
  delete _ _ := .ofAction (pure ())
  read asked := ⟨fun scene =>
    let piece := if asked = some 0 then [] else scene.rest.1.take 1
    (.ended (.ok piece),
      { scene with
        raised := 0 :: scene.raised
        rest := (scene.rest.1.drop piece.length, ()) })⟩
  close := pure ()
  pieces := List.length

def drippingStore : CloudStore Unit Bytes :=
  ⟨Bucket.service, dripping, ⟨"b", none, false, false, true, none, none⟩⟩

/-- A stream of three bytes, read by a caller who may have passed a signal along. -/
def dripped (signal : Option Signal) : CloudStream Bytes :=
  ⟨[1, 2, 3], "k", signal, false⟩

private theorem dripping_handsOut : dripping.HandsOut id := by
  intro asked ⟨now, raised, task, ids, warnings, bytes, state⟩ free
  refine ⟨_, _, rfl, ?_, ?_, ?_, free⟩
  all_goals
    by_cases none : asked = some 0
    · simp [none]
    · cases bytes <;> simp [none, dripping]

/-- The bytes of such a stream are given once, and the signal stops a caller who passed it along. -/
theorem dripping_gives_once :
    let turns := StreamReader.readThrough [⟨id, .piece 2⟩] id [⟨id, .piece (-1)⟩, ⟨id, .whole⟩]
    let calls := drippingStore.reader.history turns (dripped none) (.bare ())
    let start := (Scene.bare ()).withRest (dripped (some 0), ())
    calls.map drippingStore.reader.returned = [[1], [2, 3], [], []] ∧
    (∃ past toEnd future, calls = past ++ toEnd :: future ∧ past.length = 1 ∧
      drippingStore.reader.GiveOnce (fun _ => none) [1, 2, 3] past toEnd future) ∧
    ∃ last, drippingStore.reader.readAll start = .error .cancelledByCaller last ∧
      last.rest.1.body = [2, 3] := by
  intro turns calls start
  have hands : drippingStore.client.HandsOut id := dripping_handsOut
  obtain ⟨-, given, stopped⟩ := contents_are_given_once hands
    [⟨id, .piece 2⟩] [⟨id, .piece (-1)⟩, ⟨id, .whole⟩] id (.bare ())
  have unsignalled : drippingStore.client.Spares none := fun _ _ _ => rfl
  obtain ⟨past, toEnd, future, split, count, -, once⟩ :=
    given (dripped none) unsignalled ⟨rfl, rfl⟩ (by
      simp [StreamReader.readThrough, StreamReader.Turn.Spares])
  have pulled : drippingStore.reader.Pulled start [[1]] _ :=
    .piece rfl (by decide) (.none _)
  obtain ⟨-, failed⟩ := stopped start _ [[1]] rfl pulled rfl
  exact ⟨rfl, ⟨past, toEnd, future, split, count, once⟩, _, failed, rfl⟩

end CloudStore

namespace ByteStream

/-- After bytes in memory are read to their end, a size beyond a word still fails. -/
theorem read_beyond_word_fails :
    let turns : List (StreamReader.Turn Unit) :=
      StreamReader.readThrough [] id [⟨id, .piece 9223372036854775808⟩]
    ∃ toEnd late, reader.history turns (.ofBytes [120]) (.bare ()) = [toEnd, late] ∧
      reader.returned toEnd = [120] ∧
      ¬ ∃ after, reader.perform late.reading late.before = .ok [] after := by
  refine ⟨_, _, rfl, rfl, ?_⟩
  rintro ⟨after, ran⟩
  cases ran

end ByteStream
end ClaimCheck
