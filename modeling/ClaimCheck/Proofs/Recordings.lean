import ClaimCheck.Proofs.Journals
import ClaimCheck.Proofs.StreamCalls

/-!
Stores and streams in which all that happens is written down. A payload that is fetched is downloaded
once; its stream is read up to an empty piece or a failure, and then closed.
-/
namespace ClaimCheck

/-- What happens while an envelope is resolved, with its end where anything depends on that. -/
inductive Happening
  | upload (upload : Upload)
  | download (reference : Option String) (signal : Option Signal) (opened : Except Failure Unit)
  | delete (reference : Option String) (signal : Option Signal)
  | read (size : Int) (given : Except Failure Bytes)
  | close
  | decompress (bytes : Bytes)

namespace StreamReader

variable {ρ τ : Type}

/-- A reader whose calls are written down. -/
def recorded (reader : StreamReader ρ τ) : StreamReader (List Happening × ρ) τ where
  read size := Ledger.pair.beside.record (.read size) (reader.read size)
  close := Ledger.pair.beside.record (fun _ => .close) reader.close
  pieces := reader.pieces

/-- The reads of a collection. -/
def readings (reader : StreamReader ρ τ) : Nat → Scene (τ × ρ) → List Happening
  | 0 => fun _ => []
  | fuel + 1 =>
    Ledger.follow (reader.read pieceSize)
      (fun scene => [.read pieceSize ((reader.read pieceSize).outcome scene)])
      fun piece => if piece.isEmpty then fun _ => [] else readings reader fuel

/-- Reads to the end of a stream, one piece after the other, and what they give. -/
inductive Collects : List Happening → Except Failure Bytes → Prop
  | last : Collects [.read pieceSize (.ok [])] (.ok [])
  | broken (failure : Failure) : Collects [.read pieceSize (.error failure)] (.error failure)
  | piece {piece : Bytes} {later : List Happening} {given : Except Failure Bytes}
      (more : piece ≠ []) (rest : Collects later given) :
      Collects (.read pieceSize (.ok piece) :: later) (given.map (piece ++ ·))

private theorem collect_keeps (reader : StreamReader ρ τ) (fuel : Nat) (read : List Bytes) :
    Ledger.pair.beside.Keeps (reader.recorded.collect fuel read) (reader.collect fuel read)
      (reader.readings fuel) := by
  induction fuel generalizing read with
  | zero => exact Ledger.keeps_throw _
  | succ fuel ih =>
    refine (Ledger.keeps_record _ _).bind fun piece => ?_
    by_cases last : piece.isEmpty
    · simp only [last, if_true]
      exact Ledger.keeps_pure _
    · simp only [last]
      exact ih (piece :: read)

private theorem readAll_keeps (reader : StreamReader ρ τ) :
    Ledger.pair.beside.Keeps reader.recorded.readAll reader.readAll fun scene =>
      reader.readings (reader.pieces scene.rest.1 + 1) scene :=
  fun entries scene => reader.collect_keeps (reader.pieces scene.rest.1 + 1) [] entries scene

private theorem drain_keeps (reader : StreamReader ρ τ) :
    Ledger.pair.beside.Keeps reader.recorded.drain reader.drain fun scene =>
      reader.readings (reader.pieces scene.rest.1 + 1) scene ++ [.close] := by
  have closes : Ledger.pair.beside.Keeps reader.recorded.close reader.close
    fun _ => [Happening.close] := Ledger.keeps_record (fun _ => Happening.close) reader.close
  exact reader.readAll_keeps.andFinally closes

private theorem collect_collects {reader : StreamReader ρ τ} (dwindles : reader.Dwindles)
    (fuel : Nat) (read : List Bytes) (scene : Scene (τ × ρ))
    (enough : reader.pieces scene.rest.1 < fuel) :
    ∃ given, Collects (reader.readings fuel scene) given ∧
      (reader.collect fuel read).outcome scene = given.map (read.reverse.flatten ++ ·) := by
  -- Every piece leaves fewer to come, so the fuel is not used up before an empty one.
  induction fuel generalizing read scene with
  | zero => omega
  | succ fuel ih =>
    simp only [readings, Ledger.follow, collect, Action.outcome, Action.bind_run]
    cases ran : reader.read pieceSize scene with
    | error failure after => exact ⟨_, .broken failure, rfl⟩
    | ok piece after =>
      by_cases last : piece = []
      · subst last
        exact ⟨_, .last, by simp [Except.map]⟩
      · have fewer := dwindles ran last
        obtain ⟨given, collects, same⟩ := ih (piece :: read) after (by omega)
        have more : piece.isEmpty = false := by simpa using last
        simp only [more, Bool.false_eq_true, if_false]
        refine ⟨_, .piece last collects, ?_⟩
        simp only [Action.outcome] at same
        rw [same]
        cases given <;> simp [Except.map]

/-- Draining a stream that can be closed comes to what reading it to its end gives. -/
theorem drain_collects {reader : StreamReader ρ τ} (dwindles : reader.Dwindles)
    (closes : ∀ scene, ∃ after, reader.close scene = .ok () after) (scene : Scene (τ × ρ)) :
    Collects (reader.readings (reader.pieces scene.rest.1 + 1) scene)
      (reader.drain.outcome scene) := by
  obtain ⟨given, collects, same⟩ :=
    collect_collects dwindles (reader.pieces scene.rest.1 + 1) [] scene (by omega)
  have all : reader.readAll.outcome scene = given := by
    refine Eq.trans same ?_
    cases given <;> simp [Except.map]
  have drained : reader.drain.outcome scene = reader.readAll.outcome scene := by
    simp only [Action.outcome, drain, Action.andFinally]
    cases reader.readAll scene with
    | error failure after =>
      obtain ⟨last, closed⟩ := closes after
      simp only [closed]
    | ok bytes after =>
      obtain ⟨last, closed⟩ := closes after
      simp only [closed]
  rw [drained, all]
  exact collects

end StreamReader

namespace Store

variable {ρ τ : Type}

/-- A store in which all that happens is written down. -/
def recorded (store : Store ρ τ) : Store (List Happening × ρ) τ where
  upload given := Ledger.pair.record (fun _ => .upload given) (store.upload given)
  download reference signal :=
    Ledger.pair.record (fun opened => .download reference signal (opened.map fun _ => ()))
      (store.download reference signal)
  delete reference signal :=
    Ledger.pair.record (fun _ => .delete reference signal) (store.delete reference signal)
  reader := store.reader.recorded

/-- What happens while a payload is fetched. -/
def fetching (store : Store ρ τ) (reference : Option String) (signal : Option Signal) :
    Scene ρ → List Happening :=
  Ledger.follow (store.download reference signal)
    (fun scene =>
      let opened := (store.download reference signal).outcome scene
      [.download reference signal (opened.map fun _ => ())])
    fun stream scene =>
      store.reader.readings (store.reader.pieces stream + 1)
        (scene.withRest (stream, scene.rest)) ++ [.close]

theorem fetch_keeps (store : Store ρ τ) (reference : Option String) (signal : Option Signal) :
    Ledger.pair.Keeps (store.recorded.fetch reference signal) (store.fetch reference signal)
      (store.fetching reference signal) := by
  have opens : Ledger.pair.Keeps (store.recorded.download reference signal)
      (store.download reference signal) fun scene =>
        let opened := (store.download reference signal).outcome scene
        [Happening.download reference signal (opened.map fun _ => ())] :=
    Ledger.keeps_record
      (fun opened => Happening.download reference signal (opened.map fun _ => ()))
      (store.download reference signal)
  exact opens.bind fun stream => store.reader.drain_keeps.within stream

/-- A payload that is fetched is downloaded once, and read to its end; its stream is closed once. -/
theorem fetch_collects {store : Store ρ τ} (dwindles : store.reader.Dwindles)
    (closes : ∀ scene, ∃ after, store.reader.close scene = .ok () after)
    (reference : Option String) (signal : Option Signal) (scene : Scene ρ) :
    (∃ failure, (store.fetch reference signal).outcome scene = .error failure ∧
      store.fetching reference signal scene = [.download reference signal (.error failure)]) ∨
    ∃ reads, StreamReader.Collects reads ((store.fetch reference signal).outcome scene) ∧
      store.fetching reference signal scene =
        .download reference signal (.ok ()) :: (reads ++ [.close]) := by
  cases ran : store.download reference signal scene with
  | error failure after =>
    refine .inl ⟨failure, ?_, ?_⟩
    · simp only [fetch, Action.outcome, Action.bind_run, ran]
    · simp [fetching, Ledger.follow, Action.outcome, ran, Except.map]
  | ok stream after =>
    let opened := after.withRest (stream, after.rest)
    have collects := StreamReader.drain_collects dwindles closes opened
    have same : (store.fetch reference signal).outcome scene =
        store.reader.drain.outcome opened := by
      simp only [fetch, Action.outcome, Action.bind_run, ran, Action.within, opened]
      cases store.reader.drain (after.withRest (stream, after.rest)) <;> rfl
    refine .inr ⟨_, same ▸ collects, ?_⟩
    simp [fetching, Ledger.follow, Action.outcome, ran, Except.map, opened]

end Store
end ClaimCheck
