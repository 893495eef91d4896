import ClaimCheck.Bytes

/-!
UTF-8 as bytes. Decoding is strict: it names the first offending bytes and what is wrong with them.
Main statement: every text is decoded from its own bytes.
-/
namespace ClaimCheck.Text.Utf8

def encodeChar (c : Char) : Bytes :=
  let n := c.toNat
  let tail (shift : Nat) : UInt8 := UInt8.ofNat (0x80 + n / shift % 64)
  if n < 0x80 then [UInt8.ofNat n]
  else if n < 0x800 then [UInt8.ofNat (0xC0 + n / 64), tail 1]
  else if n < 0x10000 then [UInt8.ofNat (0xE0 + n / 4096), tail 64, tail 1]
  else [UInt8.ofNat (0xF0 + n / 262144), tail 4096, tail 64, tail 1]

def encode (text : String) : Bytes :=
  text.toList.flatMap encodeChar

inductive Fault
  | badStart
  | badContinuation
  | truncated
  deriving DecidableEq, Repr

def Fault.reason : Fault → String
  | .badStart => "invalid start byte"
  | .badContinuation => "invalid continuation byte"
  | .truncated => "unexpected end of data"

/-- Where decoding stops: the first byte of the offending sequence and those of its bytes that
could have begun a character. -/
structure DecodeError where
  position : Nat
  bytes : Bytes
  fault : Fault
  deriving DecidableEq, Repr

def DecodeError.message (e : DecodeError) : String :=
  match e.bytes with
  | [b] => s!"'utf-8' codec can't decode byte 0x{Bytes.hex [b]} in position {e.position}: {e.fault.reason}"
  | bytes =>
    s!"'utf-8' codec can't decode bytes in position {e.position}-{e.position + bytes.length - 1}: {e.fault.reason}"

private def isTail (b : UInt8) : Bool :=
  0x80 ≤ b && b ≤ 0xBF

private def payload (b : UInt8) : Nat :=
  b.toNat % 64

/-- The second bytes that may follow a first byte: overlong forms, surrogates and numbers past
the last code point are cut off here. -/
private def secondRange (first : UInt8) : UInt8 × UInt8 :=
  if first == 0xE0 then (0xA0, 0xBF)
  else if first == 0xED then (0x80, 0x9F)
  else if first == 0xF0 then (0x90, 0xBF)
  else if first == 0xF4 then (0x80, 0x8F)
  else (0x80, 0xBF)

/-- One character from the front, with the rest, or the bytes at fault. -/
def decodeChar (first : UInt8) (rest : Bytes) : Except (Bytes × Fault) (Char × Bytes) :=
  if first < 0x80 then .ok (Char.ofNat first.toNat, rest)
  else if first < 0xC2 || 0xF4 < first then .error ([first], .badStart)
  else match rest with
    | [] => .error ([first], .truncated)
    | second :: rest =>
      let range := secondRange first
      if second < range.1 || range.2 < second then .error ([first], .badContinuation)
      else if first < 0xE0 then
        .ok (Char.ofNat (first.toNat % 32 * 64 + payload second), rest)
      else match rest with
        | [] => .error ([first, second], .truncated)
        | third :: rest =>
          if !isTail third then .error ([first, second], .badContinuation)
          else if first < 0xF0 then
            .ok (Char.ofNat (first.toNat % 16 * 4096 + payload second * 64 + payload third), rest)
          else match rest with
            | [] => .error ([first, second, third], .truncated)
            | fourth :: rest =>
              if !isTail fourth then .error ([first, second, third], .badContinuation)
              else .ok (Char.ofNat (first.toNat % 8 * 262144 + payload second * 4096 +
                payload third * 64 + payload fourth), rest)

theorem decodeChar_shorter {first : UInt8} {rest left : Bytes} {c : Char}
    (read : decodeChar first rest = .ok (c, left)) : left.length ≤ rest.length := by
  dsimp only [decodeChar] at read
  repeat' split at read
  all_goals simp only [Except.ok.injEq, Prod.mk.injEq, reduceCtorEq] at read
  all_goals obtain ⟨_, rfl⟩ := read
  all_goals grind

/-- A byte that continues a character, by the six bits that it holds. -/
private def tailByte (bits : Nat) : UInt8 :=
  UInt8.ofNat (0x80 + bits % 64)

private theorem toNat_tailByte (bits : Nat) : (tailByte bits).toNat = 0x80 + bits % 64 := by
  have small : 0x80 + bits % 64 < 256 := by omega
  simp only [tailByte, UInt8.toNat_ofNat']
  omega

private theorem payload_tailByte (bits : Nat) : payload (tailByte bits) = bits % 64 := by
  rw [payload, toNat_tailByte]
  omega

private theorem isTail_tailByte (bits : Nat) : isTail (tailByte bits) = true := by
  have value := toNat_tailByte bits
  simp only [isTail, Bool.and_eq_true, decide_eq_true_eq, UInt8.le_iff_toNat_le, value,
    UInt8.reduceToNat]
  omega

private theorem encodeChar_eq (c : Char) :
    encodeChar c =
      if c.toNat < 0x80 then [UInt8.ofNat c.toNat]
      else if c.toNat < 0x800 then [UInt8.ofNat (0xC0 + c.toNat / 64), tailByte c.toNat]
      else if c.toNat < 0x10000 then
        [UInt8.ofNat (0xE0 + c.toNat / 4096), tailByte (c.toNat / 64), tailByte c.toNat]
      else
        [UInt8.ofNat (0xF0 + c.toNat / 262144), tailByte (c.toNat / 4096),
          tailByte (c.toNat / 64), tailByte c.toNat] := by
  simp only [encodeChar, tailByte, Nat.div_one]

/-- The first byte of a character of several bytes. -/
private structure IsLead (first : UInt8) (n : Nat) : Prop where
  value : first.toNat = n
  least : 0xC2 ≤ n
  most : n ≤ 0xF4

private theorem isLead_ofNat {n : Nat} (least : 0xC2 ≤ n) (most : n ≤ 0xF4) :
    IsLead (UInt8.ofNat n) n :=
  ⟨by rw [UInt8.toNat_ofNat']; omega, least, most⟩

/-- Neither a character of its own nor a bad start. -/
private theorem IsLead.starts {first : UInt8} {n : Nat} (lead : IsLead first n) :
    ¬ first < 0x80 ∧ (decide (first < 0xC2) || decide (0xF4 < first)) = false := by
  obtain ⟨value, least, most⟩ := lead
  simp only [UInt8.lt_iff_toNat_lt, value, UInt8.reduceToNat, Bool.or_eq_false_iff,
    decide_eq_false_iff_not]
  omega

/-- The second byte of a character is one that may follow its first. -/
private theorem IsLead.follows {first : UInt8} {n : Nat} (lead : IsLead first n) (bits : Nat)
    (long : n = 0xE0 → 0x20 ≤ bits % 64) (noHalf : n = 0xED → bits % 64 < 0x20)
    (longer : n = 0xF0 → 0x10 ≤ bits % 64) (inRange : n = 0xF4 → bits % 64 < 0x10) :
    (decide (tailByte bits < (secondRange first).1) ||
      decide ((secondRange first).2 < tailByte bits)) = false := by
  have tail := toNat_tailByte bits
  simp only [secondRange, beq_iff_eq, Bool.or_eq_false_iff, decide_eq_false_iff_not,
    UInt8.lt_iff_toNat_lt, ← UInt8.toNat_inj, lead.value, tail]
  repeat' split
  all_goals simp only [UInt8.reduceToNat] at *
  all_goals omega

/-- Every character is read from the bytes that it is written as. -/
theorem decodeChar_encodeChar (c : Char) (rest : Bytes) :
    ∃ first more, encodeChar c = first :: more ∧
      decodeChar first (more ++ rest) = .ok (c, rest) := by
  have valid : c.toNat < 0xD800 ∨ 0xDFFF < c.toNat ∧ c.toNat < 0x110000 := c.valid
  have own : Char.ofNat c.toNat = c := Char.ofNat_toNat c
  rw [encodeChar_eq]
  generalize c.toNat = n at *
  by_cases one : n < 0x80
  · have value : (UInt8.ofNat n).toNat = n := by
      rw [UInt8.toNat_ofNat']
      omega
    have single : UInt8.ofNat n < 0x80 := by
      rw [UInt8.lt_iff_toNat_lt, value]
      exact one
    exact ⟨UInt8.ofNat n, [], if_pos one, by simp [decodeChar, single, value, own]⟩
  rw [if_neg one]
  by_cases two : n < 0x800
  · have lead : IsLead (UInt8.ofNat (0xC0 + n / 64)) (0xC0 + n / 64) :=
      isLead_ofNat (by omega) (by omega)
    have follows := lead.follows n (by omega) (by omega) (by omega) (by omega)
    have short : UInt8.ofNat (0xC0 + n / 64) < 0xE0 := by
      rw [UInt8.lt_iff_toNat_lt, lead.value]
      exact (by omega : 0xC0 + n / 64 < 0xE0)
    have sum : (0xC0 + n / 64) % 32 * 64 + n % 64 = n := by omega
    refine ⟨_, _, if_pos two, ?_⟩
    simp only [decodeChar, List.cons_append, List.nil_append, lead.starts.1, lead.starts.2, follows,
      short, lead.value, payload_tailByte, sum, own, if_false, if_true, Bool.false_eq_true]
  rw [if_neg two]
  by_cases three : n < 0x10000
  · have lead : IsLead (UInt8.ofNat (0xE0 + n / 4096)) (0xE0 + n / 4096) :=
      isLead_ofNat (by omega) (by omega)
    have follows := lead.follows (n / 64) (by omega) (by omega) (by omega) (by omega)
    have long : ¬ UInt8.ofNat (0xE0 + n / 4096) < 0xE0 := by
      rw [UInt8.lt_iff_toNat_lt, lead.value]
      exact (by omega : ¬ 0xE0 + n / 4096 < 0xE0)
    have short : UInt8.ofNat (0xE0 + n / 4096) < 0xF0 := by
      rw [UInt8.lt_iff_toNat_lt, lead.value]
      exact (by omega : 0xE0 + n / 4096 < 0xF0)
    have sum : (0xE0 + n / 4096) % 16 * 4096 + n / 64 % 64 * 64 + n % 64 = n := by omega
    refine ⟨_, _, if_pos three, ?_⟩
    simp only [decodeChar, List.cons_append, List.nil_append, lead.starts.1, lead.starts.2, follows,
      long, short, isTail_tailByte, lead.value, payload_tailByte, sum, own, Bool.not_true, if_false,
      if_true, Bool.false_eq_true]
  · rw [if_neg three]
    have lead : IsLead (UInt8.ofNat (0xF0 + n / 262144)) (0xF0 + n / 262144) :=
      isLead_ofNat (by omega) (by omega)
    have follows := lead.follows (n / 4096) (by omega) (by omega) (by omega) (by omega)
    have long : ¬ UInt8.ofNat (0xF0 + n / 262144) < 0xE0 := by
      rw [UInt8.lt_iff_toNat_lt, lead.value]
      exact (by omega : ¬ 0xF0 + n / 262144 < 0xE0)
    have longer : ¬ UInt8.ofNat (0xF0 + n / 262144) < 0xF0 := by
      rw [UInt8.lt_iff_toNat_lt, lead.value]
      exact (by omega : ¬ 0xF0 + n / 262144 < 0xF0)
    have sum : (0xF0 + n / 262144) % 8 * 262144 + n / 4096 % 64 * 4096 + n / 64 % 64 * 64 +
        n % 64 = n := by omega
    refine ⟨_, _, rfl, ?_⟩
    simp only [decodeChar, List.cons_append, List.nil_append, lead.starts.1, lead.starts.2, follows,
      long, longer, isTail_tailByte, lead.value, payload_tailByte, sum, own, Bool.not_true, if_false,
      Bool.false_eq_true]

/-- Characters from the front of what is left of `total` bytes. -/
private def decodeChars (total : Nat) (read : List Char) : Bytes → Except DecodeError (List Char)
  | [] => .ok read.reverse
  | first :: rest =>
    match step : decodeChar first rest with
    | .error (bytes, fault) => .error ⟨total - (rest.length + 1), bytes, fault⟩
    | .ok (c, left) => decodeChars total (c :: read) left
termination_by bytes => bytes.length
decreasing_by
  have := decodeChar_shorter step
  simp; omega

def decode (bytes : Bytes) : Except DecodeError String :=
  (decodeChars bytes.length [] bytes).map String.ofList

private theorem decodeChars_encode (total : Nat) (read chars : List Char) :
    decodeChars total read (chars.flatMap encodeChar) = .ok (read.reverse ++ chars) := by
  induction chars generalizing read with
  | nil => simp [decodeChars]
  | cons c chars ih =>
    obtain ⟨first, more, bytes, step⟩ := decodeChar_encodeChar c (chars.flatMap encodeChar)
    rw [List.flatMap_cons, bytes, List.cons_append, decodeChars]
    split
    · next failed =>
      rw [step] at failed
      cases failed
    · next went =>
      rw [step] at went
      cases went
      simp [ih]

theorem decode_encode (text : String) : decode (encode text) = .ok text := by
  simp [decode, encode, decodeChars_encode, Except.map]

theorem encode_injective {left right : String} (same : encode left = encode right) :
    left = right := by
  have texts : decode (encode left) = decode (encode right) := by rw [same]
  rw [decode_encode, decode_encode] at texts
  exact Except.ok.inj texts

end ClaimCheck.Text.Utf8
