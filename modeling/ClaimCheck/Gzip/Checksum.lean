import ClaimCheck.Bytes

/-! The CRC-32 check sum of a byte string. -/
namespace ClaimCheck.Gzip

private def shiftBit (crc : UInt32) : UInt32 :=
  if crc &&& 1 = 1 then (crc >>> 1) ^^^ 0xEDB88320 else crc >>> 1

private def checksumByte (crc : UInt32) (b : UInt8) : UInt32 :=
  Nat.repeat shiftBit 8 (crc ^^^ b.toUInt32)

def crc32 (bytes : Bytes) : UInt32 :=
  bytes.foldl checksumByte 0xFFFFFFFF ^^^ 0xFFFFFFFF

end ClaimCheck.Gzip
