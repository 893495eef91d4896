import ClaimCheck.Payload.Stream
import ClaimCheck.Rehearsal.Report

/-! Rehearsals of streams: of bytes in memory, or of pieces that come as they were given. -/
namespace ClaimCheck.Rehearsal

/-- A stream whose pieces are given beforehand; a read may fail in place of one. -/
structure PieceStream where
  pieces : List (Except Failure Bytes)
  sizes : List Int

namespace PieceStream

/-- The next piece, whatever the size; none at all once they have all been read. -/
def read (size : Int) : Action (PieceStream × ρ) Bytes := do
  let (stream, _) ← Action.inspect id
  Action.update fun state => (⟨stream.pieces.tail, stream.sizes ++ [size]⟩, state.2)
  match stream.pieces with
  | [] => return []
  | piece :: _ => Action.ofExcept piece

def reader : StreamReader ρ PieceStream :=
  ⟨read, return (), fun stream => stream.pieces.length⟩

end PieceStream

inductive StreamStep
  | read (size : Int)
  | readAll
  | close
  | scope

namespace StreamRehearsal

def perform (reader : StreamReader Unit τ) : StreamStep → Action (τ × Unit) Answer
  | .read size => .bytes <$> reader.read size
  | .readAll => .bytes <$> reader.readAll
  | .close => do
    reader.close
    return .done
  | .scope => .scope <$> reader.drain

def performAll (reader : StreamReader Unit τ) :
    List StreamStep → Scene (τ × Unit) → List Report × τ
  | [], scene => ([], scene.rest.1)
  | step :: rest, scene =>
    let (result, after) := outcome (perform reader step) scene
    let (reports, last) := performAll reader rest after
    (.bare result :: reports, last)

def ofBytes (bytes : Bytes) (steps : List StreamStep) : List Report :=
  (performAll ByteStream.reader steps (opening [] (ByteStream.ofBytes bytes, ()))).1

/-- Also all sizes that were asked for. -/
def ofPieces (pieces : List (Except Failure Bytes)) (steps : List StreamStep) :
    List Report × List Int :=
  let (reports, last) :=
    performAll PieceStream.reader steps (opening [] ((⟨pieces, []⟩ : PieceStream), ()))
  (reports, last.sizes)

end StreamRehearsal
end ClaimCheck.Rehearsal
