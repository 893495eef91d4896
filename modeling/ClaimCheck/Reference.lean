import ClaimCheck.Failure
import ClaimCheck.Text.Blank

/-!
References name stored payloads. They are normalized by trimming blanks and then separators at both
ends, and may stand under a fixed path.
-/
namespace ClaimCheck.Reference

def separator : Char := '/'

/-- Blanks at the ends go first and separators second; what is left must not be empty. -/
def normalize (reference : String) : Except StoreError String :=
  let trimmed := Text.trim reference
  if trimmed.isEmpty then .error (.referenceInvalid "Payload reference must be provided.")
  else
    let bare := Text.trimChar separator trimmed
    if bare.isEmpty then
      .error (.referenceInvalid "Payload reference must contain non-separator characters.")
    else .ok bare

/-- A path that a store puts in front of every reference; blank means none. -/
def normalizePath (path : Option String) : Option String :=
  path.bind fun path =>
    let bare := Text.trimChar separator (Text.trim path)
    if bare.isEmpty then none else some bare

/-- Join a path and a reference by one separator. -/
def under (path : Option String) (reference : String) : String :=
  match path with
  | none => reference
  | some path => if path.isEmpty then reference else path ++ "/" ++ reference

end ClaimCheck.Reference
