/-!
Blank characters, trimming at both ends, and comparison with a lower-case word. Main statement:
trimming twice is trimming once.
-/
namespace ClaimCheck.Text

/-- The code points that count as blank, as inclusive ranges. -/
def blankRanges : List (Nat × Nat) :=
  [(0x09, 0x0D), (0x1C, 0x20), (0x85, 0x85), (0xA0, 0xA0), (0x1680, 0x1680), (0x2000, 0x200A),
    (0x2028, 0x2029), (0x202F, 0x202F), (0x205F, 0x205F), (0x3000, 0x3000)]

def isBlank (c : Char) : Bool :=
  blankRanges.any fun range => decide (range.1 ≤ c.toNat) && decide (c.toNat ≤ range.2)

/-- Drop the characters of a class from both ends, and none from the middle. -/
def trimChars (drop : Char → Bool) (chars : List Char) : List Char :=
  ((chars.dropWhile drop).reverse.dropWhile drop).reverse

def trim (text : String) : String :=
  String.ofList (trimChars isBlank text.toList)

def trimChar (c : Char) (text : String) : String :=
  String.ofList (trimChars (· == c) text.toList)

/-- A text is blank when it holds blank characters only; the empty text is blank. -/
def blank (text : String) : Bool :=
  text.toList.all isBlank

/-- Letters A to Z and the Kelvin sign are the only characters whose lower case is one ASCII
character other than themselves. -/
def lowerChar (c : Char) : Char :=
  if 'A' ≤ c ∧ c ≤ 'Z' then Char.ofNat (c.toNat + 32) else if c == '\u212a' then 'k' else c

/-- Whether a text is the given lower-case ASCII word, whatever the case of its letters. -/
def isWord (word text : String) : Bool :=
  text.toList.map lowerChar == word.toList

private theorem dropWhile_of_head {drop : Char → Bool} {chars : List Char}
    (kept : ∀ c ∈ chars.head?, drop c = false) : chars.dropWhile drop = chars := by
  cases chars with
  | nil => rfl
  | cons c rest => simp [kept c (by simp)]

private theorem head_dropWhile (drop : Char → Bool) (chars : List Char) :
    ∀ c ∈ (chars.dropWhile drop).head?, drop c = false := by
  induction chars with
  | nil => simp
  | cons c rest ih =>
    by_cases first : drop c = true
    · simpa [first] using ih
    · simp [first]

/-- What is left after trimming starts with a kept character. -/
theorem head_trimChars (drop : Char → Bool) (chars : List Char) :
    ∀ c ∈ (trimChars drop chars).head?, drop c = false := by
  intro c first
  have outer := head_dropWhile drop chars
  generalize shorter : chars.dropWhile drop = rest at outer
  simp only [trimChars, shorter] at first
  cases rest with
  | nil => simp at first
  | cons d tail =>
    have kept : drop d = false := outer d (by simp)
    have ends : (List.dropWhile drop (d :: tail).reverse) =
        List.dropWhile drop tail.reverse ++ [d] := by
      rw [List.reverse_cons]
      generalize tail.reverse = front
      induction front with
      | nil => simp [kept]
      | cons e more ih =>
        by_cases gone : drop e = true
        · simpa [List.dropWhile_cons, gone] using ih
        · simp [gone]
    rw [ends] at first
    simp at first
    exact first ▸ kept

/-- What is left after trimming ends with a kept character. -/
theorem last_trimChars (drop : Char → Bool) (chars : List Char) :
    ∀ c ∈ (trimChars drop chars).getLast?, drop c = false := by
  intro c last
  simp only [trimChars, List.getLast?_reverse] at last
  exact head_dropWhile _ _ c last

theorem trimChars_of_ends {drop : Char → Bool} {chars : List Char}
    (first : ∀ c ∈ chars.head?, drop c = false) (last : ∀ c ∈ chars.getLast?, drop c = false) :
    trimChars drop chars = chars := by
  rw [trimChars, dropWhile_of_head first, dropWhile_of_head (by simpa using last),
    List.reverse_reverse]

/-- Trimming twice is trimming once. -/
theorem trimChars_trimChars (drop : Char → Bool) (chars : List Char) :
    trimChars drop (trimChars drop chars) = trimChars drop chars :=
  trimChars_of_ends (head_trimChars drop chars) (last_trimChars drop chars)

end ClaimCheck.Text
