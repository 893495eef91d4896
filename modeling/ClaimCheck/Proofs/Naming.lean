import ClaimCheck.Proofs.Identifiers
import ClaimCheck.Proofs.ReferenceForm

/-!
How stores make references of keys: with a fresh identifier at the end, or under a fixed path. A
reference is in normal form exactly if neither end of it is a blank that trimming left there.
-/
namespace ClaimCheck

namespace Reference

open Text

private theorem isTidy_identifier (width n : Nat) : isTidy (IdSource.text width n) = true := by
  have digits : ∀ digit < 16, isSound digit.digitChar = true := by decide
  have sound : ∀ c ∈ (IdSource.text width n).toList, isSound c = true := by
    intro c member
    obtain ⟨digit, small, rfl⟩ := IdSource.mem_text member
    exact digits digit small
  have present := IdSource.text_ne_nil width n
  rw [isTidy, List.head?_eq_some_head present, List.getLast?_eq_some_getLast present]
  simp [sound _ (List.head_mem present), sound _ (List.getLast_mem present)]

end Reference

/-- How a store makes a reference of a key. -/
inductive Naming
  | numbered
  | under (path : Option String)

namespace Naming

open Reference Text

/-- The reference of a key that was accepted. -/
def reference (naming : Naming) (ids : IdSource) (key : String) : String :=
  match naming with
  | .numbered => key ++ "/" ++ ids.next.1
  | .under path => Reference.under (normalizePath path) key

/-- Whether the fixed path, if there is one, begins and ends with sound characters. -/
def IsTidy : Naming → Prop
  | .numbered => True
  | .under path => ∀ text ∈ path, Reference.isTidy text = true

/-- Whether no blank is left at an end of the references that are made of an accepted key. -/
def isSound (naming : Naming) (key : String) : Bool :=
  match naming with
  | .numbered => !startsBlank key
  | .under path => !startsBlank ((normalizePath path).getD key) && !endsBlank key

theorem reference_isTidy {naming : Naming} {key : String} (tidy : naming.IsTidy)
    (sound : Reference.isTidy key = true) (ids : IdSource) :
    Reference.isTidy (naming.reference ids key) = true := by
  cases naming with
  | numbered => exact isTidy_join sound (isTidy_identifier _ _)
  | under path =>
    cases path with
    | none => exact sound
    | some text =>
      have front := tidy text rfl
      have present := (separator_of_normalize (normalize_of_isTidy front)).1
      simp only [reference, normalizePath_of_isTidy front, under_some present]
      exact isTidy_join front sound

/-- A reference is in normal form exactly if it was made of a sound key. -/
theorem normalize_reference_iff (naming : Naming) {given key : String}
    (accepted : normalize given = .ok key) (ids : IdSource) :
    normalize (naming.reference ids key) = .ok (naming.reference ids key) ↔
      naming.isSound key = true := by
  obtain ⟨present, first, last⟩ := separator_of_normalize accepted
  cases naming with
  | numbered =>
    have normal := normalize_of_isTidy (isTidy_identifier 32 (ids.used + 1))
    obtain ⟨shown, head, tail⟩ := separator_of_normalize normal
    have kept := ((normalize_eq_self_iff shown head tail).mp normal).2
    simp only [reference, IdSource.next, normalize_join_iff present first shown tail, isSound]
    simp [kept]
  | under path =>
    cases named : normalizePath path with
    | none =>
      simp only [reference, named, Reference.under, isSound]
      rw [normalize_eq_self_iff present first last]
      simp
    | some front =>
      obtain ⟨text, rfl⟩ : ∃ text, path = some text := by
        cases path with
        | none => cases named
        | some text => exact ⟨text, rfl⟩
      obtain ⟨there, head, -⟩ := separator_of_normalize (normalize_of_normalizePath named)
      simp only [reference, named, under_some there, isSound]
      rw [normalize_join_iff there head present last]
      simp

end Naming
end ClaimCheck
