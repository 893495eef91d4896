import ClaimCheck.Reference

/-!
References in normal form. Trimming goes in two steps, so its result may begin or end with a blank
that a separator covered before; it is a normal form exactly if it does not.
-/
namespace ClaimCheck

namespace Text

def startsBlank (text : String) : Bool :=
  text.toList.head?.any isBlank

def endsBlank (text : String) : Bool :=
  text.toList.getLast?.any isBlank

private theorem trimChars_sublist (drop : Char → Bool) (chars : List Char) :
    (trimChars drop chars).Sublist chars := by
  have outer : (chars.dropWhile drop).Sublist chars := List.dropWhile_sublist drop
  have inner := (List.dropWhile_sublist drop (l := (chars.dropWhile drop).reverse)).reverse
  rw [List.reverse_reverse] at inner
  exact inner.trans outer

private theorem trimChars_eq_self_iff {drop : Char → Bool} {chars : List Char} :
    trimChars drop chars = chars ↔
      chars.head?.any drop = false ∧ chars.getLast?.any drop = false := by
  constructor
  · intro same
    have first := head_trimChars drop chars
    have last := last_trimChars drop chars
    rw [same] at first last
    constructor
    · cases found : chars.head? with
      | none => rfl
      | some c => simpa using first c (by simp [found])
    · cases found : chars.getLast? with
      | none => rfl
      | some c => simpa using last c (by simp [found])
  · rintro ⟨first, last⟩
    apply trimChars_of_ends
    · intro c found
      simpa [Option.mem_def.mp found] using first
    · intro c found
      simpa [Option.mem_def.mp found] using last

end Text

namespace Reference

open Text

/-- A character that a reference in normal form may begin and end with. -/
def isSound (c : Char) : Bool :=
  !isBlank c && c != separator

/-- Whether a text begins and ends with a sound character. -/
def isTidy (text : String) : Bool :=
  text.toList.head?.any isSound && text.toList.getLast?.any isSound

/-- What is left of a text when its ends are trimmed of blanks first and of separators second. -/
def bare (text : String) : List Char :=
  trimChars (· == separator) (trimChars isBlank text.toList)

theorem normalize_of_bare {text : String} (kept : bare text ≠ []) :
    normalize text = .ok (String.ofList (bare text)) := by
  have trimmed : trimChars isBlank text.toList ≠ [] := by
    intro empty
    exact kept (by rw [bare, empty]; rfl)
  simp only [bare] at kept ⊢
  simp [normalize, Text.trim, Text.trimChar, trimmed, kept]

theorem normalize_eq_ok_iff {text normal : String} :
    normalize text = .ok normal ↔ normal.toList = bare text ∧ bare text ≠ [] := by
  by_cases kept : bare text = []
  · have refused : ∃ error, normalize text = .error error := by
      simp only [bare] at kept
      by_cases empty : trimChars isBlank text.toList = []
      · exact ⟨_, by simp [normalize, Text.trim, empty]; rfl⟩
      · exact ⟨_, by simp [normalize, Text.trim, Text.trimChar, empty, kept]; rfl⟩
    obtain ⟨error, refused⟩ := refused
    simp [refused, kept]
  · rw [normalize_of_bare kept]
    constructor
    · intro same
      cases same
      exact ⟨by simp, kept⟩
    · rintro ⟨same, -⟩
      rw [← same, String.ofList_toList]

/-- The ends of an accepted reference are no separators. -/
theorem separator_of_normalize {text normal : String} (accepted : normalize text = .ok normal) :
    normal.toList ≠ [] ∧ normal.toList.head?.any (· == separator) = false ∧
      normal.toList.getLast?.any (· == separator) = false := by
  obtain ⟨same, kept⟩ := normalize_eq_ok_iff.mp accepted
  have ends := trimChars_eq_self_iff.mp
    (trimChars_trimChars (· == separator) (trimChars isBlank text.toList))
  rw [same]
  exact ⟨kept, ends⟩

/-- A reference whose ends are no separators is in normal form exactly if they are no blanks
either. -/
theorem normalize_eq_self_iff {text : String} (present : text.toList ≠ [])
    (first : text.toList.head?.any (· == separator) = false)
    (last : text.toList.getLast?.any (· == separator) = false) :
    normalize text = .ok text ↔ startsBlank text = false ∧ endsBlank text = false := by
  have bareEnds : trimChars (· == separator) text.toList = text.toList :=
    trimChars_eq_self_iff.mpr ⟨first, last⟩
  constructor
  · intro normal
    obtain ⟨same, -⟩ := normalize_eq_ok_iff.mp normal
    -- Both steps only drop characters, so if none is gone in the end the first step kept all.
    have outer : (trimChars isBlank text.toList).Sublist text.toList := trimChars_sublist _ _
    have inner : text.toList.Sublist (trimChars isBlank text.toList) := by
      conv => lhs; rw [same]
      exact trimChars_sublist _ _
    exact trimChars_eq_self_iff.mp (outer.eq_of_length_le inner.length_le)
  · intro ends
    have trimmed : trimChars isBlank text.toList = text.toList := trimChars_eq_self_iff.mpr ends
    have same : bare text = text.toList := by rw [bare, trimmed, bareEnds]
    exact normalize_eq_ok_iff.mpr ⟨same.symm, by rw [same]; exact present⟩

theorem head?_join {front : String} (present : front.toList ≠ []) (back : String) :
    (front ++ "/" ++ back).toList.head? = front.toList.head? := by
  obtain ⟨c, rest, same⟩ := List.exists_cons_of_ne_nil present
  simp [String.toList_append, same]

private theorem getLast?_join {back : String} (present : back.toList ≠ []) (front : String) :
    (front ++ "/" ++ back).toList.getLast? = back.toList.getLast? := by
  obtain ⟨c, found⟩ := List.getLast?_isSome.mpr present |> Option.isSome_iff_exists.mp
  rw [String.toList_append, List.getLast?_append, found]
  rfl

private theorem any_isSound {c : Option Char} (sound : c.any isSound = true) :
    c.any isBlank = false ∧ c.any (· == separator) = false := by
  cases c with
  | none => simp at sound
  | some c => simpa [isSound] using sound

/-- Tidy texts are in normal form. -/
theorem normalize_of_isTidy {text : String} (tidy : isTidy text = true) :
    normalize text = .ok text := by
  obtain ⟨first, last⟩ := (Bool.and_eq_true _ _).mp tidy
  have present : text.toList ≠ [] := by
    intro empty
    simp [empty] at first
  obtain ⟨firstKept, firstBare⟩ := any_isSound first
  obtain ⟨lastKept, lastBare⟩ := any_isSound last
  exact (normalize_eq_self_iff present firstBare lastBare).mpr ⟨firstKept, lastKept⟩

theorem isTidy_join {front back : String} (first : isTidy front = true)
    (last : isTidy back = true) : isTidy (front ++ "/" ++ back) = true := by
  obtain ⟨head, -⟩ := (Bool.and_eq_true _ _).mp first
  obtain ⟨-, tail⟩ := (Bool.and_eq_true _ _).mp last
  have frontPresent : front.toList ≠ [] := by
    intro empty
    simp [empty] at head
  have backPresent : back.toList ≠ [] := by
    intro empty
    simp [empty] at tail
  rw [isTidy, head?_join frontPresent, getLast?_join backPresent, head, tail]
  rfl

/-- A front and a back that were trimmed by themselves make a reference in normal form exactly if
no blank is left at its ends. -/
theorem normalize_join_iff {front back : String}
    (present : front.toList ≠ []) (first : front.toList.head?.any (· == separator) = false)
    (shown : back.toList ≠ []) (last : back.toList.getLast?.any (· == separator) = false) :
    normalize (front ++ "/" ++ back) = .ok (front ++ "/" ++ back) ↔
      startsBlank front = false ∧ endsBlank back = false := by
  have head := head?_join present back
  have tail := getLast?_join shown front
  have joined : (front ++ "/" ++ back).toList ≠ [] := by simp
  rw [normalize_eq_self_iff joined (by rw [head, first]) (by rw [tail, last]), startsBlank,
    endsBlank, head, tail]
  rfl

/-- Texts in which there is anything to name are not blank. -/
theorem blank_of_normalize {text normal : String} (accepted : normalize text = .ok normal) :
    Text.blank text = false := by
  cases shown : Text.blank text with
  | false => rfl
  | true =>
    exfalso
    have blanks : ∀ c ∈ text.toList, isBlank c = true := by simpa [Text.blank] using shown
    have kept := (normalize_eq_ok_iff.mp accepted).2
    cases trimmed : trimChars isBlank text.toList with
    | nil => exact kept (by rw [bare, trimmed]; rfl)
    | cons c rest =>
      have visible := head_trimChars isBlank text.toList c (by simp [trimmed])
      have member : c ∈ text.toList :=
        (trimChars_sublist isBlank text.toList).subset (by simp [trimmed])
      simp [blanks c member] at visible

/-- A path is trimmed as a reference is. -/
theorem normalize_of_normalizePath {text path : String}
    (named : normalizePath (some text) = some path) : normalize text = .ok path := by
  rw [normalize_eq_ok_iff]
  by_cases kept : bare text = []
  · simp only [bare] at kept
    simp [normalizePath, Text.trim, Text.trimChar, kept] at named
  · simp only [bare] at kept ⊢
    simp [normalizePath, Text.trim, Text.trimChar, kept] at named
    simp [← named, kept]

theorem normalizePath_of_isTidy {text : String} (tidy : isTidy text = true) :
    normalizePath (some text) = some text := by
  obtain ⟨same, kept⟩ := normalize_eq_ok_iff.mp (normalize_of_isTidy tidy)
  rw [← same] at kept
  simp only [bare] at same
  simpa [normalizePath, Text.trim, Text.trimChar, ← same] using kept

theorem under_some {path : String} (present : path.toList ≠ []) (key : String) :
    under (some path) key = path ++ "/" ++ key := by
  have shown : path ≠ "" := by
    rintro rfl
    exact present rfl
  simp [under, shown]

end Reference
end ClaimCheck
