import ClaimCheck.Proofs.WritableValues
import Mathlib.Data.List.Induction

/-!
The JSON that a message stands for: tuples as lists, dates and times as their texts, keys as names,
and of several entries under one name the last one. Messages of nothing but JSON stand for
themselves.
-/
namespace ClaimCheck

namespace Json

/-- One member of each name, in the order of the first ones and with the value of the last one. -/
def lastOfEach (members : List (String × Json)) : List (String × Json) :=
  (members.map Prod.fst).eraseDups.map fun name =>
    (name, (members.reverse.lookup name).getD .null)

private theorem setMember_map {names : List String} (distinct : names.Nodup)
    (values : String → Json) (name : String) (value : Json) :
    setMember name value (names.map fun n => (n, values n)) =
      (if name ∈ names then names else names ++ [name]).map fun n =>
        (n, if n = name then value else values n) := by
  induction names with
  | nil => simp [setMember]
  | cons first rest ih =>
    obtain ⟨fresh, distinct⟩ := List.nodup_cons.mp distinct
    by_cases same : first = name
    · subst first
      have kept : ∀ n ∈ rest, ¬ n = name := fun n member same => fresh (same ▸ member)
      simpa [setMember] using fun n member same => absurd same (kept n member)
    · have other : ¬ name = first := fun equal => same equal.symm
      rw [List.map_cons, setMember, if_neg same, ih distinct]
      by_cases known : name ∈ rest <;> simp [known, same, other]

private theorem eraseDups_concat (names : List String) (name : String) :
    (names ++ [name]).eraseDups =
      if name ∈ names.eraseDups then names.eraseDups else names.eraseDups ++ [name] := by
  rw [List.eraseDups_append]
  by_cases known : name ∈ names <;> simp [known, List.removeAll, List.eraseDups_cons]

private theorem nodup_eraseDups (names : List String) : names.eraseDups.Nodup := by
  induction names using List.reverseRecOn with
  | nil => simp
  | append_singleton names name ih =>
    rw [eraseDups_concat]
    split
    · exact ih
    · next fresh => simpa [List.nodup_append, ih] using fun n member same => fresh (by simp_all)

/-- Members are settled as if only the last one of each name had been read. -/
theorem foldl_setMember (members : List (String × Json)) :
    members.foldl (fun known member => setMember member.1 member.2 known) [] =
      lastOfEach members := by
  induction members using List.reverseRecOn with
  | nil => rfl
  | append_singleton members last ih =>
    rw [List.foldl_append, ih]
    simp only [List.foldl_cons, List.foldl_nil, lastOfEach, List.map_append, List.map_cons,
      List.map_nil, eraseDups_concat]
    rw [setMember_map (nodup_eraseDups _)]
    refine List.map_congr_left fun name _ => ?_
    obtain ⟨given, value⟩ := last
    by_cases same : name = given
    · subst given
      simp
    · have other : (name == given) = false := beq_false_of_ne same
      simp [List.lookup_cons, same, other]

theorem ofMembers_eq (members : List (String × Json)) :
    ofMembers members = .object (lastOfEach members) := by
  rw [ofMembers, foldl_setMember]

private theorem setMember_fresh {name : String} {known : List (String × Json)}
    (fresh : name ∉ known.map Prod.fst) (value : Json) :
    setMember name value known = known ++ [(name, value)] := by
  induction known with
  | nil => rfl
  | cons first rest ih =>
    simp only [List.map_cons, List.mem_cons, not_or] at fresh
    rw [setMember, if_neg (Ne.symm fresh.1), ih fresh.2]
    rfl

private theorem lastOfEach_of_nodup {members : List (String × Json)}
    (distinct : (members.map Prod.fst).Nodup) : lastOfEach members = members := by
  rw [← foldl_setMember]
  induction members using List.reverseRecOn with
  | nil => rfl
  | append_singleton members last ih =>
    rw [List.map_append, List.nodup_append] at distinct
    rw [List.foldl_append, ih distinct.1]
    exact setMember_fresh (fun member => distinct.2.2 _ member _ (by simp) rfl) _

mutual

/-- A JSON value as the value that reading gives. -/
def toValue : Json → Value
  | .null => .null
  | .bool b => .bool b
  | .int n => .int n
  | .float x => .float x
  | .text s => .text s
  | .array items => .list (toValues items)
  | .object members => .dict (toEntries members)

def toValues : List Json → List Value
  | [] => []
  | item :: rest => toValue item :: toValues rest

def toEntries : List (String × Json) → List (Value × Value)
  | [] => []
  | m :: rest => (.text m.1, toValue m.2) :: toEntries rest

end

private theorem toValues_eq (items : List Json) : toValues items = items.map toValue := by
  induction items with
  | nil => rfl
  | cons item rest ih => rw [toValues, ih, List.map_cons]

private theorem toEntries_eq (members : List (String × Json)) :
    toEntries members = members.map fun m => (.text m.1, toValue m.2) := by
  induction members with
  | nil => rfl
  | cons m rest ih => rw [toEntries, ih, List.map_cons]

end Json

namespace Value

/-- The name that stands for a key: texts for themselves, other keys for their JSON text. -/
def keyName : Value → String
  | .text s => s
  | .status s => s.word
  | .int n => toString n
  | .bool b => if b then "true" else "false"
  | .null => "null"
  | _ => ""

mutual

/-- The JSON that a value without floats and records stands for, if it has a form. -/
def image : Value → Json
  | .bool b => .bool b
  | .int n => .int n
  | .text s => .text s
  | .status s => .text s.word
  | .moment m => .text m.iso
  | .date d => .text d.iso
  | .clockTime t => .text t.iso
  | .list items | .tuple items => .array (images items)
  | .dict entries => .object (Json.lastOfEach (members entries))
  | _ => .null

def images : List Value → List Json
  | [] => []
  | item :: rest => image item :: images rest

def members : List (Value × Value) → List (String × Json)
  | [] => []
  | entry :: rest => (entry.1.keyName, image entry.2) :: members rest

end

theorem images_eq (items : List Value) : images items = items.map image := by
  induction items with
  | nil => rfl
  | cons item rest ih => rw [images, ih, List.map_cons]

theorem members_eq (entries : List (Value × Value)) :
    members entries = entries.map fun entry => (entry.1.keyName, entry.2.image) := by
  induction entries with
  | nil => rfl
  | cons entry rest ih => rw [members, ih, List.map_cons]

/-- Whether a value is no float and no record, and has no float for a key. -/
def IsPlainPart : Value → Prop
  | .float _ | .order _ | .batch _ => False
  | .dict entries => ∀ entry ∈ entries, ∀ x, entry.1 ≠ .float x
  | _ => True

/-- Whether a value holds no float and no record. -/
def IsPlain (value : Value) : Prop :=
  ∀ inner, value.Holds inner → inner.IsPlainPart

/-- Whether a value is one of JSON, its keys being texts, each another one. -/
def IsJsonPart : Value → Prop
  | .null | .bool _ | .int _ | .text _ | .list _ => True
  | .dict entries =>
    (∀ entry ∈ entries, ∃ s, entry.1 = .text s) ∧ (entries.map fun e => e.1.keyName).Nodup
  | _ => False

/-- Whether a value holds nothing but null, truth values, integers, texts, lists and dictionaries
with texts for keys. -/
def IsJson (value : Value) : Prop :=
  ∀ inner, value.Holds inner → inner.IsJsonPart

private theorem forall_holds_iff {property : Value → Prop} {value : Value} :
    (∀ inner, value.Holds inner → property inner) ↔
      property value ∧ ∀ part ∈ value.parts, ∀ inner, part.Holds inner → property inner := by
  have held (inner : Value) : value.Holds inner ↔ _ := holds_iff
  simp only [held]
  constructor
  · intro all
    exact ⟨all value (.inl rfl), fun part member inner holds => all inner (.inr ⟨part, member, holds⟩)⟩
  · rintro ⟨itself, parts⟩ inner (rfl | ⟨part, member, holds⟩)
    · exact itself
    · exact parts part member inner holds

theorem isPlain_iff {value : Value} :
    value.IsPlain ↔ value.IsPlainPart ∧ ∀ part ∈ value.parts, part.IsPlain :=
  forall_holds_iff

/-- Values of JSON are what reading makes of the JSON that they stand for. -/
theorem toValue_image {value : Value} (json : value.IsJson) : value.image.toValue = value := by
  induction value using induction_parts with
  | step value ih =>
    obtain ⟨itself, parts⟩ := forall_holds_iff.mp json
    have known := fun part member => ih part member (parts part member)
    cases value with
    | list items =>
      rw [image, Json.toValue, images_eq, Json.toValues_eq, List.map_map]
      exact congrArg _ ((List.map_congr_left known).trans (List.map_id items))
    | dict entries =>
      obtain ⟨texts, distinct⟩ := itself
      have settled : Json.lastOfEach (members entries) = members entries := by
        apply Json.lastOfEach_of_nodup
        simpa [members_eq, Function.comp_def] using distinct
      rw [image, settled, Json.toValue, members_eq, Json.toEntries_eq, List.map_map]
      refine congrArg _ ((List.map_congr_left fun entry member => ?_).trans (List.map_id entries))
      obtain ⟨s, key⟩ := texts entry member
      have value := known entry.2 (List.mem_map_of_mem member)
      obtain ⟨_, _⟩ := entry
      cases key
      simp only [Function.comp_apply, keyName, value, id_eq]
    | null | bool | int | text => rfl
    | _ => exact absurd itself id

end Value
end ClaimCheck
