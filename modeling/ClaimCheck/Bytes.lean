/-! Byte strings are lists of bytes, with their hexadecimal text and little-endian numbers. -/
namespace ClaimCheck

abbrev Bytes := List UInt8

/-- Lower-case hexadecimal digit of a number below sixteen. -/
def hexDigit (n : Nat) : Char :=
  if n < 10 then Char.ofNat (48 + n) else Char.ofNat (87 + n)

def hexValue? (c : Char) : Option Nat :=
  if '0' ≤ c ∧ c ≤ '9' then some (c.toNat - 48)
  else if 'a' ≤ c ∧ c ≤ 'f' then some (c.toNat - 87)
  else if 'A' ≤ c ∧ c ≤ 'F' then some (c.toNat - 55)
  else none

namespace Bytes

/-- Two hexadecimal digits a byte. -/
def hex (bytes : Bytes) : String :=
  String.ofList (bytes.flatMap fun b => [hexDigit (b.toNat / 16), hexDigit (b.toNat % 16)])

private def ofHexDigits : List Char → Bytes → Option Bytes
  | [], read => some read.reverse
  | high :: low :: rest, read => do
    let h ← hexValue? high
    let l ← hexValue? low
    ofHexDigits rest (UInt8.ofNat (16 * h + l) :: read)
  | [_], _ => none

def ofHex? (text : String) : Option Bytes :=
  ofHexDigits text.toList []

/-- A number in the given count of bytes, lowest byte first; higher digits are dropped. -/
def littleEndian : Nat → Nat → Bytes
  | 0, _ => []
  | width + 1, n => UInt8.ofNat (n % 256) :: littleEndian width (n / 256)

def ofLittleEndian : Bytes → Nat
  | [] => 0
  | b :: rest => b.toNat + 256 * ofLittleEndian rest

theorem ofLittleEndian_littleEndian (width n : Nat) (fits : n < Nat.pow 256 width) :
    ofLittleEndian (littleEndian width n) = n := by
  induction width generalizing n with
  | zero => simp at fits; simp [littleEndian, ofLittleEndian, fits]
  | succ width ih =>
    have rest : n / 256 < Nat.pow 256 width :=
      Nat.div_lt_of_lt_mul (by rw [Nat.mul_comm]; exact fits)
    simp only [littleEndian, ofLittleEndian, ih _ rest]
    have byte : (UInt8.ofNat (n % 256)).toNat = n % 256 := by simp
    omega

end Bytes
end ClaimCheck
