import ClaimCheck.Bytes

/-! Reading a byte string bit by bit, the lowest bit of a byte first. -/
namespace ClaimCheck.Gzip

/-- The bytes not yet wholly read, and how many bits of the first of them are. -/
structure BitSource where
  bytes : Bytes
  used : Nat

namespace BitSource

def ofBytes (bytes : Bytes) : BitSource := ⟨bytes, 0⟩

def bit? (source : BitSource) : Option (Nat × BitSource) :=
  match source.bytes with
  | [] => none
  | b :: rest =>
    let bit := b.toNat / Nat.pow 2 source.used % 2
    some (bit, if source.used = 7 then ⟨rest, 0⟩ else ⟨b :: rest, source.used + 1⟩)

/-- A number of the given count of bits, its lowest bit first. -/
def number? : Nat → BitSource → Option (Nat × BitSource)
  | 0, source => some (0, source)
  | count + 1, source => do
    let (low, source) ← source.bit?
    let (high, source) ← number? count source
    some (low + 2 * high, source)

/-- The bytes that follow a byte begun. -/
def wholeBytes (source : BitSource) : Bytes :=
  if source.used = 0 then source.bytes else source.bytes.drop 1

end BitSource

/-- The first bytes of the given count, and the rest, if there are so many. -/
def splitBytes? (count : Nat) (bytes : Bytes) : Option (Bytes × Bytes) :=
  let front := bytes.take count
  if front.length = count then some (front, bytes.drop count) else none

end ClaimCheck.Gzip
