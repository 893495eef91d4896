import ClaimCheck.Gzip.Checksum
import ClaimCheck.Gzip.Inflate

/-!
Gzip files: members of a header, a deflate stream and a trailer, with zeros allowed after each.
Compression writes one member of stored blocks.
-/
namespace ClaimCheck.Gzip

/-- A stored block holds at most this many bytes. -/
def blockLimit : Nat := 65535

def storedBlock (final : Bool) (bytes : Bytes) : Bytes :=
  (if final then 1 else 0) :: (Bytes.littleEndian 2 bytes.length ++
    (Bytes.littleEndian 2 (0xFFFF - bytes.length) ++ bytes))

def storedBlocks (bytes : Bytes) : Bytes :=
  if _ : bytes.length ≤ blockLimit then storedBlock true bytes
  else storedBlock false (bytes.take blockLimit) ++ storedBlocks (bytes.drop blockLimit)
termination_by bytes.length
decreasing_by simp_all [blockLimit]; omega

/-- Magic number, deflate, no optional fields, no time, no flags, unknown system. -/
def plainHeader : Bytes := [0x1F, 0x8B, 8, 0, 0, 0, 0, 0, 0, 0xFF]

/-- The check sum of the content and its length, the length in 32 bits. -/
def trailer (content : Bytes) : Bytes :=
  Bytes.littleEndian 4 (crc32 content).toNat ++ Bytes.littleEndian 4 (content.length % Nat.pow 2 32)

def compress (content : Bytes) : Bytes :=
  plainHeader ++ (storedBlocks content ++ trailer content)

/-- A name or comment ends with a zero byte; one without it runs to the end. -/
private def dropText (bytes : Bytes) : Bytes :=
  (bytes.dropWhile (· != 0)).drop 1

private def flag (flags : UInt8) (bit : Nat) : Bool :=
  flags.toNat / Nat.pow 2 bit % 2 == 1

/-- What follows a header and its optional fields. The check sum of the header is not verified. -/
def dropHeader (bytes : Bytes) : Option Bytes := do
  let (fixed, rest) ← splitBytes? 10 bytes
  match fixed with
  | 0x1F :: 0x8B :: 8 :: flags :: _ =>
    let rest ← if flag flags 2 then do
        let (size, rest) ← splitBytes? 2 rest
        let (_, rest) ← splitBytes? (Bytes.ofLittleEndian size) rest
        some rest
      else some rest
    let rest := if flag flags 3 then dropText rest else rest
    let rest := if flag flags 4 then dropText rest else rest
    if flag flags 1 then (splitBytes? 2 rest).map (·.2) else some rest
  | _ => none

/-- The content of the first member, with what follows it. -/
def takeMember (bytes : Bytes) : Option (Bytes × Bytes) := do
  let stream ← dropHeader bytes
  let (content, rest) ← inflate stream
  let (tail, rest) ← splitBytes? 8 rest
  if tail = trailer content then some (content, rest) else none

/-- Every member takes at least one byte, so the length bounds their number. -/
def members : Nat → Bytes → Option Bytes
  | _, [] => some []
  | 0, _ => none
  | fuel + 1, bytes => do
    let (content, rest) ← takeMember bytes
    let more ← members fuel (rest.dropWhile (· == 0))
    some (content ++ more)

/-- The contents of all members; nothing decompresses to nothing. -/
def decompress (bytes : Bytes) : Option Bytes :=
  members bytes.length bytes

/-- Whether a byte string starts as a gzip file does. -/
def hasMagic : Bytes → Bool
  | 0x1F :: 0x8B :: _ => true
  | _ => false

end ClaimCheck.Gzip
