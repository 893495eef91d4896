import ClaimCheck.Proofs.ClientLaws

/-!
Requests that a script has changed. What a store requires is in the finished request, and under every
other name there is what the script said of it last.
-/
namespace ClaimCheck

namespace Table

variable {α : Type}

/-- A name with its new value, or with none if its entry is taken away. -/
abbrev Revision (α : Type) := String × Option α

def revise (table : Table α) (revision : Revision α) : Table α :=
  match revision.2 with
  | some value => table.set revision.1 value
  | none => table.erase revision.1

private theorem get?_revise (table : Table α) (revision : Revision α) (name : String) :
    (table.revise revision).get? name =
      if name = revision.1 then revision.2 else table.get? name := by
  obtain ⟨revised, value⟩ := revision
  cases value with
  | some value => exact get?_set table revised name value
  | none => exact get?_erase table revised name

/-- The last of the revisions of a name. -/
def lastOf (revisions : List (Revision α)) (name : String) : Option (Revision α) :=
  revisions.reverse.find? fun revision => revision.1 = name

private theorem lastOf_cons (revision : Revision α) (rest : List (Revision α)) (name : String) :
    lastOf (revision :: rest) name =
      (lastOf rest name).or (if revision.1 = name then some revision else none) := by
  simp only [lastOf, List.reverse_cons, List.find?_append, List.find?_singleton, decide_eq_true_eq]

/-- A name has the value of its last revision, or else the value that it had. -/
theorem get?_revisions (revisions : List (Revision α)) (table : Table α) (name : String) :
    (revisions.foldl revise table).get? name =
      match lastOf revisions name with
      | some revision => revision.2
      | none => table.get? name := by
  induction revisions generalizing table with
  | nil => rfl
  | cons revision rest ih =>
    rw [List.foldl_cons, ih, lastOf_cons, get?_revise]
    cases lastOf rest name with
    | some later => rfl
    | none =>
      by_cases same : revision.1 = name
      · simp [same]
      · simp [same, Ne.symm same]

end Table

namespace Edit

/-- What a change says of a parameter, if it is about one. -/
def ofParam? : Edit → Option (Table.Revision Argument)
  | .withParam name value => some (name, some value)
  | .withoutParam name => some (name, none)
  | _ => none

def ofMetadata? : Edit → Option (Table.Revision Json)
  | .withMetadata name value => some (name, some value)
  | .withoutMetadata name => some (name, none)
  | _ => none

def ofTag? : Edit → Option (Table.Revision Json)
  | .withTag name value => some (name, some value)
  | .withoutTag name => some (name, none)
  | _ => none

/-- The hand of a caller who makes the changes of a script, one after the other. -/
def play {ρ : Type} (script : List Edit) : Customization ρ :=
  fun request => pure (script.foldl UploadRequest.apply request)

/-- What a script leaves under a name: the value of its last change there, unless that one takes
the value away, or there is none. -/
def outcome {α : Type} (reads : Edit → Option (Table.Revision α)) (script : List Edit)
    (name : String) : Option α :=
  (Table.lastOf (script.filterMap reads) name).bind Prod.snd

end Edit

namespace Requirement

/-- What is required under a metadata key; a marker goes before anything else under its own key. -/
def metadataAt (required : Requirement) (name : String) : Option Json :=
  let marker := if name = expiresMarkerKey then required.expiresMarker.map Json.text else none
  marker.or (required.metadata.get? name)

/-- A marker is the only tag that is ever required. -/
def tagAt (required : Requirement) (name : String) : Option Json :=
  if name = expiresMarkerKey && required.tagMarker then required.expiresMarker.map Json.text
  else none

end Requirement

namespace UploadRequest

variable {α ρ : Type}

/-- Whether a table of a request is changed by the changes that are about it, and by no others. -/
def Follows (view : UploadRequest → Table α) (reads : Edit → Option (Table.Revision α)) : Prop :=
  ∀ request edit, view (request.apply edit) =
    match reads edit with
    | some revision => (view request).revise revision
    | none => view request

private theorem params_follows : Follows params Edit.ofParam? := by
  intro request edit
  cases edit <;> rfl

private theorem metadata_follows : Follows metadata Edit.ofMetadata? := by
  intro request edit
  cases edit <;> rfl

private theorem tags_follows : Follows tags Edit.ofTag? := by
  intro request edit
  cases edit <;> rfl

theorem Follows.play {view : UploadRequest → Table α} {reads : Edit → Option (Table.Revision α)}
    (follows : Follows view reads) (script : List Edit) (request : UploadRequest) :
    view (script.foldl apply request) =
      (script.filterMap reads).foldl Table.revise (view request) := by
  induction script generalizing request with
  | nil => rfl
  | cons edit rest ih =>
    rw [List.foldl_cons, ih, follows]
    cases read : reads edit with
    | none => rw [List.filterMap_cons_none read]
    | some revision => rw [List.filterMap_cons_some read, List.foldl_cons]

private theorem get?_params_enforce (request : UploadRequest) (required : Requirement)
    (name : String) : (request.enforce required).params.get? name =
      (required.params.get? name).or (request.params.get? name) := by
  cases marker : required.expiresMarker <;> simp [enforce, marker, Table.get?_merge]

theorem get?_metadata_enforce (request : UploadRequest) (required : Requirement) (name : String) :
    (request.enforce required).metadata.get? name =
      (required.metadataAt name).or (request.metadata.get? name) := by
  cases marker : required.expiresMarker with
  | none => simp [enforce, Requirement.metadataAt, marker, Table.get?_merge]
  | some marking =>
    by_cases key : name = expiresMarkerKey <;>
      simp [enforce, Requirement.metadataAt, marker, key, Table.get?_merge]

theorem get?_tags_enforce (request : UploadRequest) (required : Requirement) (name : String) :
    (request.enforce required).tags.get? name =
      (required.tagAt name).or (request.tags.get? name) := by
  cases marker : required.expiresMarker with
  | none => simp [enforce, Requirement.tagAt, marker]
  | some marking =>
    by_cases key : name = expiresMarkerKey <;> cases tagged : required.tagMarker <;>
      simp [enforce, Requirement.tagAt, marker, key, tagged]

private theorem Follows.get?_enforced {view : UploadRequest → Table α}
    {reads : Edit → Option (Table.Revision α)} (follows : Follows view reads)
    {required : Requirement} {requiredAt : String → Option α}
    (enforced : ∀ request name, (view (enforce request required)).get? name =
      (requiredAt name).or ((view request).get? name))
    (unasked : view empty = ∅) (script : List Edit) (name : String) :
    (view ((script.foldl apply (empty.enforce required)).enforce required)).get? name =
      (requiredAt name).or (Edit.outcome reads script name) := by
  rw [enforced, follows.play, Table.get?_revisions, enforced, unasked, Table.get?_empty,
    Edit.outcome]
  -- What was seeded is seen only where it is required anyway.
  cases requiredAt name with
  | some value => rfl
  | none => cases Table.lastOf (script.filterMap reads) name <;> rfl

/-- Whatever a script changes, the finished request has every parameter, all metadata and the tag
that are required, with the marker of expiry under its key; under every other name it has what the
last change of the script says. Nothing else happens. -/
theorem script_only_adds (required : Requirement) (script : List Edit) (scene : Scene ρ) :
    ∃ request, build required (some (Edit.play script)) scene = .ok request scene ∧
      (∀ name, request.params.get? name =
        (required.params.get? name).or (Edit.outcome Edit.ofParam? script name)) ∧
      (∀ name, request.metadata.get? name =
        (required.metadataAt name).or (Edit.outcome Edit.ofMetadata? script name)) ∧
      ∀ name, request.tags.get? name =
        (required.tagAt name).or (Edit.outcome Edit.ofTag? script name) := by
  refine ⟨(script.foldl apply (empty.enforce required)).enforce required, rfl, ?_, ?_, ?_⟩
  · exact params_follows.get?_enforced (get?_params_enforce · required) rfl script
  · exact metadata_follows.get?_enforced (get?_metadata_enforce · required) rfl script
  · exact tags_follows.get?_enforced (get?_tags_enforce · required) rfl script

end UploadRequest
end ClaimCheck
