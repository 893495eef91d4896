import ClaimCheck.Payload.Stream
import ClaimCheck.Proofs.ActionOutcome

/-!
Streams that deliver: every read takes a piece from the front of what is left, so reading until an
empty piece gives everything that was left, once and in order.
-/
namespace ClaimCheck.StreamReader

variable {ρ τ : Type}

/-- One read of a stream: the piece comes off the front of what is left, and only an exhausted
stream gives an empty one. -/
structure Advance (reader : StreamReader ρ τ) (left : τ → Bytes) (before : τ) (piece : Bytes)
    (after : τ) : Prop where
  split : left before = piece ++ left after
  last : piece = [] → left before = []
  fewer : piece ≠ [] → reader.pieces after < reader.pieces before

/-- A reader that delivers what is left of every stream that is ready, and closes it, and keeps what
is said of the scene around it. -/
structure Delivers (reader : StreamReader ρ τ) (ready : τ → Prop) (left : τ → Bytes)
    (kept : Scene ρ → Prop) : Prop where
  read : ∀ scene : Scene (τ × ρ), ready scene.rest.1 → kept scene.outer →
    ∃ piece after, reader.read pieceSize scene = .ok piece after ∧
      reader.Advance left scene.rest.1 piece after.rest.1 ∧ ready after.rest.1 ∧ kept after.outer
  close : ∀ scene : Scene (τ × ρ), ready scene.rest.1 → kept scene.outer →
    ∃ after, reader.close scene = .ok () after ∧ kept after.outer

variable {reader : StreamReader ρ τ} {ready : τ → Prop} {left : τ → Bytes} {kept : Scene ρ → Prop}

theorem collect_delivers (reads : ∀ scene : Scene (τ × ρ), ready scene.rest.1 → kept scene.outer →
      ∃ piece after, reader.read pieceSize scene = .ok piece after ∧
        reader.Advance left scene.rest.1 piece after.rest.1 ∧ ready after.rest.1 ∧ kept after.outer)
    (fuel : Nat) (read : List Bytes) (scene : Scene (τ × ρ)) (open' : ready scene.rest.1)
    (safe : kept scene.outer) (enough : reader.pieces scene.rest.1 < fuel) :
    ∃ after, reader.collect fuel read scene =
        .ok (read.reverse.flatten ++ left scene.rest.1) after ∧
      left after.rest.1 = [] ∧ ready after.rest.1 ∧ kept after.outer := by
  induction fuel generalizing read scene with
  | zero => omega
  | succ fuel ih =>
    obtain ⟨piece, after, ran, advance, open', safe⟩ := reads scene open' safe
    simp only [collect, Action.bind_of_ok ran]
    by_cases empty : piece = []
    · have nothing := advance.last empty
      have gone : left after.rest.1 = [] := by simpa [empty, nothing] using advance.split.symm
      exact ⟨after, by simp [empty, nothing], gone, open', safe⟩
    · have fewer := advance.fewer empty
      obtain ⟨last, rest, gone, ready, kept⟩ := ih (piece :: read) after open' safe (by omega)
      refine ⟨last, ?_, gone, ready, kept⟩
      simpa [empty, advance.split] using rest

/-- Fetching from an open stream gives all that is left of it. -/
theorem drain_delivers (delivers : reader.Delivers ready left kept) (state : τ) (scene : Scene ρ)
    (open' : ready state) (safe : kept scene) :
    ∃ after, reader.drain.within state scene = .ok (left state) after ∧ kept after := by
  obtain ⟨middle, collected, -, open', safe⟩ := collect_delivers delivers.read
    (reader.pieces state + 1) [] (scene.withRest (state, scene.rest)) open' safe
    (Nat.lt_succ_self _)
  obtain ⟨after, closed, safe⟩ := delivers.close middle open' safe
  refine ⟨after.outer, ?_, safe⟩
  have read : reader.readAll (scene.withRest (state, scene.rest)) = .ok (left state) middle := by
    rw [readAll, Action.bind_of_ok (Action.inspect_run id _)]
    exact collected
  simp only [Action.within, drain, Action.andFinally, read, closed]
  rfl

/-- A reader that takes every piece from the front of what is left. Before the end, only a piece of
no size is empty; a size that is refused costs nothing. -/
structure HandsOut (reader : StreamReader ρ τ) (refuses : Int → Option Failure) (ready : τ → Prop)
    (left : τ → Bytes) (kept : Scene ρ → Prop) : Prop where
  accepts : refuses pieceSize = none
  refusal : ∀ {size failure} scene, refuses size = some failure →
    reader.read size scene = .error failure scene
  hands : ∀ {size} scene, refuses size = none → ready scene.rest.1 → kept scene.outer →
    ∃ piece after, reader.read size scene = .ok piece after ∧
      left scene.rest.1 = piece ++ left after.rest.1 ∧
      (piece = [] → size = 0 ∨ left scene.rest.1 = []) ∧
      (piece ≠ [] → reader.pieces after.rest.1 < reader.pieces scene.rest.1) ∧
      ready after.rest.1 ∧ kept after.outer

/-- Asked for pieces of one size, such a reader advances. -/
theorem HandsOut.advances {refuses : Int → Option Failure}
    (hands : reader.HandsOut refuses ready left kept) (scene : Scene (τ × ρ))
    (open' : ready scene.rest.1) (safe : kept scene.outer) :
    ∃ piece after, reader.read pieceSize scene = .ok piece after ∧
      reader.Advance left scene.rest.1 piece after.rest.1 ∧ ready after.rest.1 ∧
      kept after.outer := by
  have some : (pieceSize : Int) ≠ 0 := by decide
  obtain ⟨piece, after, ran, split, last, fewer, open', safe⟩ :=
    hands.hands scene hands.accepts open' safe
  exact ⟨piece, after, ran, ⟨split, fun empty => (last empty).resolve_left some, fewer⟩, open',
    safe⟩

end StreamReader

namespace ByteStream

open StreamReader

/-- The sizes that bytes in memory cannot be asked for, and what a read of such a size ends in. -/
def refuses (size : Int) : Option Failure :=
  if Whole.isWord size then none
  else some (.fault (.ofGeneral "OverflowError" "cannot fit 'int' into an index-sized integer"))

/-- Bytes in memory are handed out as long as their stream is not closed, whatever the scene. -/
theorem reader_handsOut (kept : Scene ρ → Prop) :
    reader.HandsOut refuses (fun stream => stream.closed = false) ByteStream.rest kept where
  accepts := rfl
  refusal {size failure} scene refused := by
    unfold refuses at refused
    split at refused
    · cases refused
    · next large =>
      cases refused
      simp only [reader, read, large]
      rfl
  hands {size} scene taken opened safe := by
    obtain ⟨now, raised, task, ids, warnings, ⟨bytes, closed⟩, state⟩ := scene
    cases opened
    have word : Whole.isWord size = true := by
      cases held : Whole.isWord size with
      | true => rfl
      | false => simp [refuses, held] at taken
    have ran : reader.read size ⟨now, raised, task, ids, warnings, ⟨bytes, false⟩, state⟩ =
        .ok (take ⟨bytes, false⟩ size).1
          ⟨now, raised, task, ids, warnings, (take ⟨bytes, false⟩ size).2, state⟩ := by
      simp only [reader, read, word]
      rfl
    refine ⟨_, _, ran, ?_⟩
    by_cases negative : size < 0
    · simp only [take, negative, if_true, reader]
      refine ⟨by simp, .inr, ?_, trivial, safe⟩
      intro more
      simpa [List.length_pos_iff] using more
    · simp only [take, negative, if_false, reader]
      refine ⟨(List.take_append_drop _ _).symm, ?_, ?_, trivial, safe⟩
      · intro empty
        rcases List.take_eq_nil_iff.mp empty with none | gone
        · exact .inl (by omega)
        · exact .inr gone
      · intro more
        have some : size.toNat ≠ 0 ∧ bytes ≠ [] := by simpa using more
        have length := List.length_pos_iff.mpr some.2
        simp only [List.length_drop]
        omega

theorem reader_delivers (kept : Scene ρ → Prop) :
    reader.Delivers (fun stream => stream.closed = false) ByteStream.rest kept where
  read := (reader_handsOut kept).advances
  close _ _ safe := ⟨_, rfl, safe⟩

/-- A stream reads as given bytes if reading it to its end gives them, whatever the scene. -/
def Reads (stream : ByteStream) (bytes : Bytes) : Prop :=
  ∀ (ρ : Type) (scene : Scene ρ), reader.drain.within stream scene = .ok bytes scene

theorem reads_ofBytes (bytes : Bytes) : (ofBytes bytes).Reads bytes := by
  intro ρ scene
  obtain ⟨after, read, same⟩ :=
    drain_delivers (reader_delivers (· = scene)) (ofBytes bytes) scene rfl rfl
  rw [read, same]
  rfl

theorem Reads.unique {stream : ByteStream} {bytes other : Bytes}
    (left : stream.Reads bytes) (right : stream.Reads other) : bytes = other := by
  have same := (left Unit (.bare ())).symm.trans (right Unit (.bare ()))
  injection same

end ByteStream
end ClaimCheck
