import ClaimCheck.Gzip.Member

/-!
Compression loses nothing: stored blocks inflate to the bytes that went into them, however many
blocks they take, and a file of one member decompresses to its content.
-/
namespace ClaimCheck

@[simp] theorem Bytes.length_littleEndian (width n : Nat) :
    (Bytes.littleEndian width n).length = width := by
  induction width generalizing n with
  | zero => rfl
  | succ width ih => simp [Bytes.littleEndian, ih]

namespace Gzip

private theorem splitBytes?_append (front rest : Bytes) :
    splitBytes? front.length (front ++ rest) = some (front, rest) := by
  simp [splitBytes?]

private theorem takeStored_append (mark : UInt8) (bytes rest : Bytes) (out : Array UInt8)
    (fits : bytes.length ≤ blockLimit) :
    takeStored ⟨mark :: (Bytes.littleEndian 2 bytes.length ++
        (Bytes.littleEndian 2 (0xFFFF - bytes.length) ++ (bytes ++ rest))), 3⟩ out =
      some (.ofBytes rest, out ++ bytes) := by
  have small : bytes.length ≤ 65535 := fits
  have header : splitBytes? 4 (Bytes.littleEndian 2 bytes.length ++
      (Bytes.littleEndian 2 (0xFFFF - bytes.length) ++ (bytes ++ rest))) =
      some (Bytes.littleEndian 2 bytes.length ++ Bytes.littleEndian 2 (0xFFFF - bytes.length),
        bytes ++ rest) := by
    rw [← List.append_assoc]
    exact splitBytes?_append
      (Bytes.littleEndian 2 bytes.length ++ Bytes.littleEndian 2 (0xFFFF - bytes.length)) _
  have length : Bytes.ofLittleEndian (Bytes.littleEndian 2 bytes.length) = bytes.length :=
    Bytes.ofLittleEndian_littleEndian 2 _ (show bytes.length < 65536 by omega)
  have inverted : Bytes.ofLittleEndian (Bytes.littleEndian 2 (0xFFFF - bytes.length)) =
      0xFFFF - bytes.length :=
    Bytes.ofLittleEndian_littleEndian 2 _ (show 0xFFFF - bytes.length < 65536 by omega)
  have sum : bytes.length + (0xFFFF - bytes.length) = 0xFFFF := by omega
  simp [takeStored, BitSource.wholeBytes, header, length, inverted, sum, splitBytes?_append]

private theorem inflateBlocks_final (fuel : Nat) (bytes rest : Bytes) (out : Array UInt8)
    (fits : bytes.length ≤ blockLimit) :
    inflateBlocks (fuel + 1) (.ofBytes (storedBlock true bytes ++ rest)) out =
      some (.ofBytes rest, out ++ bytes) := by
  have taken := takeStored_append 1 bytes rest out fits
  simp only [inflateBlocks, storedBlock, if_true, List.cons_append, List.append_assoc,
    BitSource.ofBytes, BitSource.bit?, BitSource.number?]
  simp [BitSource.ofBytes] at taken ⊢
  simp [taken]

private theorem inflateBlocks_next (fuel : Nat) (bytes rest : Bytes) (out : Array UInt8)
    (fits : bytes.length ≤ blockLimit) :
    inflateBlocks (fuel + 1) (.ofBytes (storedBlock false bytes ++ rest)) out =
      inflateBlocks fuel (.ofBytes rest) (out ++ bytes) := by
  have taken := takeStored_append 0 bytes rest out fits
  simp only [inflateBlocks, storedBlock, List.cons_append, List.append_assoc,
    BitSource.ofBytes, BitSource.bit?, BitSource.number?]
  simp [BitSource.ofBytes] at taken ⊢
  simp [taken]

private theorem inflateBlocks_storedBlocks (fuel : Nat) (bytes rest : Bytes) (out : Array UInt8)
    (enough : bytes.length < fuel) :
    inflateBlocks fuel (.ofBytes (storedBlocks bytes ++ rest)) out =
      some (.ofBytes rest, out ++ bytes) := by
  -- Each block but the last takes a whole block's worth of bytes, and one unit of fuel.
  induction fuel generalizing bytes out with
  | zero => omega
  | succ fuel ih =>
    rw [storedBlocks]
    by_cases fits : bytes.length ≤ blockLimit
    · simp only [fits, dif_pos]
      exact inflateBlocks_final fuel bytes rest out fits
    · simp only [fits, dif_neg, not_false_eq_true, List.append_assoc]
      have front : (bytes.take blockLimit).length ≤ blockLimit := List.length_take_le ..
      have shorter : (bytes.drop blockLimit).length < fuel := by
        have positive : 0 < blockLimit := by decide
        simp only [List.length_drop]
        omega
      have joined : out ++ bytes.take blockLimit ++ bytes.drop blockLimit = out ++ bytes := by
        apply Array.toList_inj.mp
        simp
      rw [inflateBlocks_next fuel _ _ out front, ih _ _ shorter, joined]

private theorem length_le_storedBlocks (bytes : Bytes) :
    bytes.length ≤ (storedBlocks bytes).length := by
  fun_induction storedBlocks bytes with
  | case1 bytes fits => simp [storedBlock]; omega
  | case2 bytes long ih =>
    simp only [storedBlock, List.length_append, List.length_cons, List.length_drop,
      List.length_take] at ih ⊢
    omega

private theorem inflate_storedBlocks (bytes rest : Bytes) :
    inflate (storedBlocks bytes ++ rest) = some (bytes, rest) := by
  have enough : bytes.length < 8 * (storedBlocks bytes ++ rest).length + 1 := by
    have longer := length_le_storedBlocks bytes
    simp only [List.length_append]
    omega
  rw [inflate, inflateBlocks_storedBlocks _ bytes rest #[] enough]
  simp [BitSource.ofBytes, BitSource.wholeBytes]

private theorem dropHeader_plain (rest : Bytes) :
    dropHeader (plainHeader ++ rest) = some rest := rfl

@[simp] theorem length_trailer (content : Bytes) : (trailer content).length = 8 := by
  simp [trailer]

private theorem takeMember_compress (content : Bytes) :
    takeMember (compress content) = some (content, []) := by
  have tail : splitBytes? 8 (trailer content) = some (trailer content, []) := by
    simpa using splitBytes?_append (trailer content) []
  simp [takeMember, compress, dropHeader_plain, inflate_storedBlocks, tail]

/-- What was compressed decompresses to itself. -/
theorem decompress_compress (content : Bytes) : decompress (compress content) = some content := by
  have member := takeMember_compress content
  obtain ⟨first, more, same⟩ : ∃ first more, compress content = first :: more := ⟨_, _, rfl⟩
  rw [same] at member
  simp [decompress, same, members, member]

end Gzip
end ClaimCheck
