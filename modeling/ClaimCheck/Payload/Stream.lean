import ClaimCheck.Action

/-!
Streams of downloaded payloads, read piece by piece until an empty piece.
-/
namespace ClaimCheck

/-- How a stream with a state of its own is read and closed. A negative size reads to the end, and
`pieces` bounds the count of non-empty pieces that are still to come. -/
structure StreamReader (ρ τ : Type) where
  read : Int → Action (τ × ρ) Bytes
  close : Action (τ × ρ) Unit
  pieces : τ → Nat

namespace StreamReader

/-- A reader on a part of what the scene holds. -/
def on (part : Part σ ρ) (reader : StreamReader ρ τ) : StreamReader σ τ :=
  ⟨fun size => (reader.read size).on part.beside, reader.close.on part.beside, reader.pieces⟩

/-- Reading everything asks for pieces of this size. -/
def pieceSize : Nat := 81920

def collect (reader : StreamReader ρ τ) : Nat → List Bytes → Action (τ × ρ) Bytes
  | 0, _ => throw .stalled
  | fuel + 1, read => do
    let piece ← reader.read pieceSize
    if piece.isEmpty then return read.reverse.flatten
    else collect reader fuel (piece :: read)

/-- The rest of a stream, in pieces up to the first empty one. -/
def readAll (reader : StreamReader ρ τ) : Action (τ × ρ) Bytes := do
  let (state, _) ← Action.inspect id
  collect reader (reader.pieces state + 1) []

/-- Read everything, and close the stream in any case. -/
def drain (reader : StreamReader ρ τ) : Action (τ × ρ) Bytes :=
  reader.readAll.andFinally reader.close

end StreamReader

/-- Bytes in memory, read from the front; none are left to be read once it is closed. -/
structure ByteStream where
  rest : Bytes
  closed : Bool

namespace ByteStream

def ofBytes (bytes : Bytes) : ByteStream := ⟨bytes, false⟩

/-- What a read of the given size gives, and the stream after it. -/
def take (stream : ByteStream) (size : Int) : Bytes × ByteStream :=
  if size < 0 then (stream.rest, { stream with rest := [] })
  else (stream.rest.take size.toNat, { stream with rest := stream.rest.drop size.toNat })

/-- The size must fit into a word, even if the stream is closed. -/
def read (size : Int) : Action (ByteStream × ρ) Bytes := do
  Action.ensure (Whole.isWord size)
    (.fault (.ofGeneral "OverflowError" "cannot fit 'int' into an index-sized integer"))
  let (stream, _) ← Action.inspect id
  if stream.closed then throw (.misuse .closedStream)
  else
    let (bytes, stream) := stream.take size
    Action.update fun state => (stream, state.2)
    return bytes

def close : Action (ByteStream × ρ) Unit :=
  Action.update fun state => ({ state.1 with closed := true }, state.2)

/-- Every non-empty piece takes at least one byte. -/
def reader : StreamReader ρ ByteStream :=
  ⟨read, close, fun stream => stream.rest.length⟩

end ByteStream
end ClaimCheck
