import ClaimCheck.Gzip.Bits

/-!
Decompression of a deflate stream: blocks that are stored, or coded with fixed or transmitted
canonical codes.
-/
namespace ClaimCheck.Gzip

/-- A canonical code: how many codes there are of each length, and the symbols in code order. -/
structure Code where
  counts : List Nat
  symbols : Array Nat

namespace Code

def longest : Nat := 15

/-- Code room left over after codes of the given lengths; negative if there are too many. -/
private def roomLeft (counts : List Nat) : Int :=
  counts.foldl (fun left (count : Nat) => 2 * left - (count : Int)) 1

/-- The code in which symbol `i` has the `i`-th of the given lengths, zero for none. -/
def ofLengths (lengths : List Nat) : Code :=
  let ofLength (n : Nat) := lengths.zipIdx.filterMap fun entry =>
    if entry.1 = n then some entry.2 else none
  let sorted := (List.range longest).map fun n => ofLength (n + 1)
  ⟨sorted.map List.length, sorted.flatten.toArray⟩

/-- A transmitted code must use all its room, but a code of one symbol of one bit may leave half of
it and an unused code all of it. -/
def isUsable (code : Code) (mayBeShort : Bool) : Bool :=
  let left := roomLeft code.counts
  left == 0 || (mayBeShort && (code.symbols.size == 0 || code.counts == 1 :: List.replicate 14 0))

private def decodeFrom (symbols : Array Nat) :
    List Nat → Nat → Nat → Nat → BitSource → Option (Nat × BitSource)
  | [], _, _, _, _ => none
  | count :: longer, word, first, index, source =>
    match source.bit? with
    | none => none
    | some (bit, source) =>
      let word := word + bit
      if word < first + count then symbols[index + (word - first)]?.map (·, source)
      else decodeFrom symbols longer (2 * word) (2 * (first + count)) (index + count) source

/-- The symbol whose code comes next. -/
def decode (code : Code) (source : BitSource) : Option (Nat × BitSource) :=
  decodeFrom code.symbols code.counts 0 0 0 source

end Code

/-- The least length of each length symbol from 257 on, and its count of further bits. -/
def lengthSymbols : List (Nat × Nat) :=
  [(3, 0), (4, 0), (5, 0), (6, 0), (7, 0), (8, 0), (9, 0), (10, 0), (11, 1), (13, 1), (15, 1),
    (17, 1), (19, 2), (23, 2), (27, 2), (31, 2), (35, 3), (43, 3), (51, 3), (59, 3), (67, 4),
    (83, 4), (99, 4), (115, 4), (131, 5), (163, 5), (195, 5), (227, 5), (258, 0)]

/-- The least distance of each distance symbol, and its count of further bits. -/
def distanceSymbols : List (Nat × Nat) :=
  [(1, 0), (2, 0), (3, 0), (4, 0), (5, 1), (7, 1), (9, 2), (13, 2), (17, 3), (25, 3), (33, 4),
    (49, 4), (65, 5), (97, 5), (129, 6), (193, 6), (257, 7), (385, 7), (513, 8), (769, 8),
    (1025, 9), (1537, 9), (2049, 10), (3073, 10), (4097, 11), (6145, 11), (8193, 12),
    (12289, 12), (16385, 13), (24577, 13)]

def fixedLengths : Code :=
  .ofLengths (List.replicate 144 8 ++ List.replicate 112 9 ++ List.replicate 24 7 ++
    List.replicate 8 8)

def fixedDistances : Code :=
  .ofLengths (List.replicate 30 5)

/-- Repeat what was written the given distance back, byte after byte. -/
private def copyBack (distance : Nat) : Nat → Array UInt8 → Array UInt8
  | 0, out => out
  | length + 1, out => copyBack distance length (out.push (out.getD (out.size - distance) 0))

private def takeValue (symbols : List (Nat × Nat)) (symbol : Nat) (source : BitSource) :
    Option (Nat × BitSource) := do
  let (least, bits) ← symbols[symbol]?
  let (more, source) ← source.number? bits
  some (least + more, source)

/-- A distance reaches back at most 32768 bytes, and never before the first byte written. -/
private def takeCopy (distances : Code) (symbol : Nat) (source : BitSource) (out : Array UInt8) :
    Option (BitSource × Array UInt8) := do
  let (length, source) ← takeValue lengthSymbols symbol source
  let (code, source) ← distances.decode source
  let (distance, source) ← takeValue distanceSymbols code source
  if distance ≤ out.size then some (source, copyBack distance length out) else none

/-- The symbols of a block up to its end mark; every symbol takes at least one bit, so the count of
bits bounds their number. -/
private def inflateSymbols (lengths distances : Code) :
    Nat → BitSource → Array UInt8 → Option (BitSource × Array UInt8)
  | 0, _, _ => none
  | fuel + 1, source, out =>
    match lengths.decode source with
    | none => none
    | some (symbol, source) =>
      if symbol < 256 then
        inflateSymbols lengths distances fuel source (out.push (UInt8.ofNat symbol))
      else if symbol = 256 then some (source, out)
      else match takeCopy distances (symbol - 257) source out with
        | none => none
        | some (source, out) => inflateSymbols lengths distances fuel source out

/-- The order in which the lengths of the code for code lengths are transmitted. -/
private def lengthOrder : List Nat :=
  [16, 17, 18, 0, 8, 7, 9, 6, 10, 5, 11, 4, 12, 3, 13, 2, 14, 1, 15]

/-- Code lengths in reverse, themselves coded; 16 repeats the last one, 17 and 18 repeat zero. -/
private def takeLengths (code : Code) (total : Nat) :
    Nat → List Nat → BitSource → Option (List Nat × BitSource)
  | 0, _, _ => none
  | fuel + 1, read, source =>
    if read.length = total then some (read.reverse, source)
    else match code.decode source with
      | none => none
      | some (symbol, source) =>
        let run (value least bits : Nat) := do
          let (more, source) ← source.number? bits
          if read.length + least + more ≤ total then
            takeLengths code total fuel (List.replicate (least + more) value ++ read) source
          else none
        if symbol < 16 then takeLengths code total fuel (symbol :: read) source
        else if symbol = 16 then read.head?.bind fun last => run last 3 2
        else if symbol = 17 then run 0 3 3
        else run 0 11 7

private def takeOrdered : List Nat → Nat → BitSource → Option (List (Nat × Nat) × BitSource)
  | symbol :: rest, count + 1, source => do
    let (length, source) ← source.number? 3
    let (lengths, source) ← takeOrdered rest count source
    some ((symbol, length) :: lengths, source)
  | _, _, source => some ([], source)

/-- The transmitted codes of a block. The end mark must have a code. -/
private def takeCodes (source : BitSource) : Option (Code × Code × BitSource) := do
  let (lengthCount, source) ← source.number? 5
  let (distanceCount, source) ← source.number? 5
  let (orderCount, source) ← source.number? 4
  if 29 < lengthCount ∨ 29 < distanceCount then none
  else
    let (ordered, source) ← takeOrdered lengthOrder (orderCount + 4) source
    let code := Code.ofLengths ((List.range 19).map fun symbol => (ordered.lookup symbol).getD 0)
    if !code.isUsable false then none
    else
      let total := lengthCount + 257 + (distanceCount + 1)
      let (lengths, source) ← takeLengths code total (total + 1) [] source
      let literals := Code.ofLengths (lengths.take (lengthCount + 257))
      let distances := Code.ofLengths (lengths.drop (lengthCount + 257))
      if lengths.getD 256 0 = 0 ∨ !literals.isUsable true ∨ !distances.isUsable true then none
      else some (literals, distances, source)

/-- A stored block starts on a whole byte; its length is given twice, the second time inverted. -/
def takeStored (source : BitSource) (out : Array UInt8) :
    Option (BitSource × Array UInt8) := do
  let (header, rest) ← splitBytes? 4 source.wholeBytes
  let length := Bytes.ofLittleEndian (header.take 2)
  if length + Bytes.ofLittleEndian (header.drop 2) ≠ 0xFFFF then none
  else
    let (stored, rest) ← splitBytes? length rest
    some (.ofBytes rest, out ++ stored)

def inflateBlocks : Nat → BitSource → Array UInt8 → Option (BitSource × Array UInt8)
  | 0, _, _ => none
  | fuel + 1, source, out => do
    let (final, source) ← source.bit?
    let (kind, source) ← source.number? 2
    let bits := 8 * source.bytes.length
    let (source, out) ← match kind with
      | 0 => takeStored source out
      | 1 => inflateSymbols fixedLengths fixedDistances bits source out
      | 2 => do
        let (lengths, distances, source) ← takeCodes source
        inflateSymbols lengths distances bits source out
      | _ => none
    if final = 1 then some (source, out) else inflateBlocks fuel source out

/-- The decompressed bytes and the bytes after the stream. -/
def inflate (bytes : Bytes) : Option (Bytes × Bytes) :=
  (inflateBlocks (8 * bytes.length + 1) (.ofBytes bytes) #[]).map fun result =>
    (result.2.toList, result.1.wholeBytes)

end ClaimCheck.Gzip
