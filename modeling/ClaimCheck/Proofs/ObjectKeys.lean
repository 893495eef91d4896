import ClaimCheck.Policy
import ClaimCheck.Proofs.ReferenceForm
import Mathlib.Data.List.DropRight

/-!
Keys of large bodies. Normalizing a key trims the end of the message identifier in it, so two
identifiers have the same key exactly if they agree in what trimming leaves of them.
-/
namespace ClaimCheck

namespace Text

variable {drop : Char → Bool} {front back : List Char}

private theorem dropWhile_append_of_kept (kept : front.dropWhile drop ≠ []) (back : List Char) :
    (front ++ back).dropWhile drop = front.dropWhile drop ++ back := by
  simp [List.dropWhile_append, kept]

private theorem rdropWhile_append_of_kept (kept : back.rdropWhile drop ≠ []) (front : List Char) :
    (front ++ back).rdropWhile drop = front ++ back.rdropWhile drop := by
  have turned : back.reverse.dropWhile drop ≠ [] := by
    simpa [List.rdropWhile] using kept
  simp [List.rdropWhile, dropWhile_append_of_kept turned]

private theorem rdropWhile_append_of_dropped (dropped : back.rdropWhile drop = [])
    (front : List Char) : (front ++ back).rdropWhile drop = front.rdropWhile drop := by
  have turned : back.reverse.dropWhile drop = [] := by
    simpa [List.rdropWhile] using dropped
  simp [List.rdropWhile, List.dropWhile_append, turned]

private theorem dropWhile_of_blank {text : String} (shown : blank text = false) :
    text.toList.dropWhile isBlank ≠ [] ∧ text.toList.rdropWhile isBlank ≠ [] := by
  have some : ¬ ∀ c ∈ text.toList, isBlank c = true := by simpa [blank] using shown
  constructor
  · simpa [List.dropWhile_eq_nil_iff] using some
  · simpa [List.rdropWhile_eq_nil_iff] using some

end Text

namespace Policy

open Text Reference

/-- What trimming leaves of the root of all keys at its front. -/
def root (policy : Policy) : List Char :=
  (policy.keyRoot.toList.dropWhile isBlank).dropWhile (· == separator)

/-- What trimming leaves of an identifier at the end of a key. Where nothing is left of the root,
the front of the identifier is trimmed as well. -/
def stem (policy : Policy) (identifier : String) : List Char :=
  let kept := identifier.toList.rdropWhile isBlank
  if policy.root = [] then trimChars (· == separator) kept
  else kept.rdropWhile (· == separator)

private theorem trimChars_key (policy : Policy) (envelope : Envelope) :
    trimChars isBlank (policy.key envelope).toList =
      policy.keyRoot.toList.dropWhile isBlank ++
        ([separator] ++ envelope.messageId.toList.rdropWhile isBlank) := by
  obtain ⟨rootKept, -⟩ := dropWhile_of_blank policy.named
  obtain ⟨-, idKept⟩ := dropWhile_of_blank envelope.identified
  have joined : (policy.key envelope).toList =
      policy.keyRoot.toList ++ ([separator] ++ envelope.messageId.toList) := by
    simp [key, separator]
  have back : ([separator] ++ envelope.messageId.toList).rdropWhile isBlank =
      [separator] ++ envelope.messageId.toList.rdropWhile isBlank :=
    rdropWhile_append_of_kept idKept _
  have kept : ([separator] ++ envelope.messageId.toList).rdropWhile isBlank ≠ [] := by
    rw [back]
    exact List.cons_ne_nil _ _
  change ((policy.key envelope).toList.dropWhile isBlank).rdropWhile isBlank = _
  rw [joined, dropWhile_append_of_kept rootKept, rdropWhile_append_of_kept kept, back]

private theorem bare_key_of_root_eq_nil {policy : Policy} (gone : policy.root = [])
    (envelope : Envelope) :
    bare (policy.key envelope) = policy.stem envelope.messageId := by
  have front : (policy.keyRoot.toList.dropWhile isBlank).dropWhile (· == separator) = [] := gone
  rw [bare, trimChars_key, stem, if_pos gone]
  change (List.dropWhile _ _).rdropWhile _ = (List.dropWhile _ _).rdropWhile _
  simp [List.dropWhile_append, front]

private theorem bare_key_of_root {policy : Policy} (kept : policy.root ≠ []) (envelope : Envelope) :
    bare (policy.key envelope) =
      if policy.stem envelope.messageId = [] then policy.root.rdropWhile (· == separator)
      else policy.root ++ ([separator] ++ policy.stem envelope.messageId) := by
  have front : (policy.keyRoot.toList.dropWhile isBlank).dropWhile (· == separator) =
      policy.root := rfl
  have same : policy.stem envelope.messageId =
      (envelope.messageId.toList.rdropWhile isBlank).rdropWhile (· == separator) := by
    rw [stem, if_neg kept]
  rw [bare, trimChars_key]
  change (List.dropWhile _ _).rdropWhile _ = _
  rw [dropWhile_append_of_kept (front ▸ kept), front]
  split
  · next empty =>
    apply rdropWhile_append_of_dropped
    rw [rdropWhile_append_of_dropped (same ▸ empty)]
    rfl
  · next present =>
    have back : ([separator] ++ envelope.messageId.toList.rdropWhile isBlank).rdropWhile
        (· == separator) = [separator] ++ policy.stem envelope.messageId := by
      rw [rdropWhile_append_of_kept (same ▸ present), same]
    have there : ([separator] ++ envelope.messageId.toList.rdropWhile isBlank).rdropWhile
        (· == separator) ≠ [] := by
      rw [back]
      exact List.cons_ne_nil _ _
    rw [rdropWhile_append_of_kept there, back]

/-- Two envelopes have the same key exactly if their identifiers have the same stem. -/
theorem bare_key_eq_iff (policy : Policy) (left right : Envelope) :
    bare (policy.key left) = bare (policy.key right) ↔
      policy.stem left.messageId = policy.stem right.messageId := by
  by_cases gone : policy.root = []
  · rw [bare_key_of_root_eq_nil gone, bare_key_of_root_eq_nil gone]
  · -- A root on its own is shorter than one with an identifier behind it.
    have shorter : (policy.root.rdropWhile (· == separator)).length ≤ policy.root.length :=
      (List.rdropWhile_prefix _ policy.root).length_le
    rw [bare_key_of_root gone, bare_key_of_root gone]
    constructor
    · intro same
      split at same <;> split at same
      · next first second => rw [first, second]
      · have long := congrArg List.length same
        simp only [List.length_append, List.length_singleton] at long
        omega
      · have long := congrArg List.length same
        simp only [List.length_append, List.length_singleton] at long
        omega
      · exact List.append_cancel_left (List.append_cancel_left same)
    · intro same
      rw [same]

example : Policy.default.stem "m/ " = Policy.default.stem "m" := by decide

end Policy

namespace Reference

/-- A fixed path keeps references apart. -/
theorem under_injective (path : Option String) : Function.Injective (under path) := by
  intro left right same
  cases path with
  | none => exact same
  | some path =>
    simp only [under] at same
    split at same
    · exact same
    · have chars := congrArg String.toList same
      simp only [String.toList_append] at chars
      exact String.toList_injective (List.append_cancel_left chars)

end Reference
end ClaimCheck
