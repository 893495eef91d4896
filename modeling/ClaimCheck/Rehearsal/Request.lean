import ClaimCheck.Rehearsal.Report

/-! Rehearsals of upload requests that are built on their own. -/
namespace ClaimCheck.Rehearsal.RequestBuilding

private def report (action : Action Stage UploadRequest) : Report :=
  performOne .whole ⟨.silent, .plain, fun _ => .request <$> action⟩ (opening [] Stage.empty)

/-- Make changes to an empty request. -/
def change (changes : List Change) : Report :=
  report (customize changes .empty)

/-- Build a request of what is required, with the given changes. -/
def build (required : Requirement) (changes : Option (List Change)) : Report :=
  report (UploadRequest.build required (changes.map customize))

end ClaimCheck.Rehearsal.RequestBuilding
