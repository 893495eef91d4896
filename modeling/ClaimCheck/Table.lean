/-!
Tables map names to values and keep their entries in the order in which the names first came. Main
statements: what is found under a name after an entry is set or erased.
-/
namespace ClaimCheck

namespace Entries

def set (name : String) (value : α) : List (String × α) → List (String × α)
  | [] => [(name, value)]
  | entry :: rest => if entry.1 = name then (name, value) :: rest else entry :: set name value rest

theorem mem_keys_set {name : String} {value : α} {entries : List (String × α)} {key : String} :
    key ∈ (set name value entries).map Prod.fst ↔ key = name ∨ key ∈ entries.map Prod.fst := by
  induction entries with
  | nil => simp [set]
  | cons entry rest ih =>
    by_cases same : entry.1 = name
    · simp [set, same]
    · simp only [set, same, if_false, List.map_cons, List.mem_cons, ih]
      grind

theorem nodup_set {name : String} {value : α} {entries : List (String × α)}
    (nodup : (entries.map Prod.fst).Nodup) : ((set name value entries).map Prod.fst).Nodup := by
  induction entries with
  | nil => simp [set]
  | cons entry rest ih =>
    simp only [List.map_cons, List.nodup_cons] at nodup
    by_cases same : entry.1 = name
    · subst same
      simpa [set] using nodup
    · simp only [set, same, if_false, List.map_cons, List.nodup_cons, ih nodup.2, and_true]
      intro member
      rcases mem_keys_set.mp member with eq | present
      · exact same eq
      · exact nodup.1 present

end Entries

/-- Entries in the order in which their names first came; no name occurs twice. -/
structure Table (α : Type u) where
  entries : List (String × α)
  nodup : (entries.map Prod.fst).Nodup

namespace Table

variable {α : Type u}

instance [DecidableEq α] : DecidableEq (Table α) := fun left right =>
  if same : left.entries = right.entries then
    .isTrue (by cases left; cases right; simp_all)
  else .isFalse (by intro eq; exact same (congrArg entries eq))

def empty : Table α := ⟨[], .nil⟩

instance : EmptyCollection (Table α) := ⟨empty⟩

instance : Inhabited (Table α) := ⟨empty⟩

def get? (table : Table α) (name : String) : Option α :=
  (table.entries.find? (·.1 = name)).map (·.2)

/-- A new name goes to the end; a known one keeps its place. -/
def set (table : Table α) (name : String) (value : α) : Table α :=
  ⟨Entries.set name value table.entries, Entries.nodup_set table.nodup⟩

def erase (table : Table α) (name : String) : Table α :=
  ⟨table.entries.filter (·.1 ≠ name), table.nodup.sublist (List.filter_sublist.map _)⟩

def contains (table : Table α) (name : String) : Bool :=
  (table.get? name).isSome

def isEmpty (table : Table α) : Bool :=
  table.entries.isEmpty

def size (table : Table α) : Nat :=
  table.entries.length

/-- Later entries win over earlier ones of the same name. -/
def ofList (entries : List (String × α)) : Table α :=
  entries.foldl (fun table entry => table.set entry.1 entry.2) empty

/-- The entries of the second table set over those of the first. -/
def merge (table upper : Table α) : Table α :=
  upper.entries.foldl (fun table entry => table.set entry.1 entry.2) table

/-- The same names with other values. -/
def map (f : α → β) (table : Table α) : Table β :=
  ⟨table.entries.map fun entry => (entry.1, f entry.2), by
    simpa [List.map_map, Function.comp_def] using table.nodup⟩

/-- Tables agree when they hold the same values under the same names, in whatever order. -/
def agrees [BEq α] (left right : Table α) : Bool :=
  left.size == right.size &&
    left.entries.all fun entry => (right.get? entry.1).any (· == entry.2)

@[simp] theorem get?_empty (name : String) : (∅ : Table α).get? name = none := rfl

@[simp] theorem get?_set (table : Table α) (name key : String) (value : α) :
    (table.set name value).get? key = if key = name then some value else table.get? key := by
  obtain ⟨entries, nodup⟩ := table
  simp only [set, get?]
  induction entries with
  | nil => by_cases same : name = key <;> simp [Entries.set, same, eq_comm]
  | cons entry rest ih =>
    have ih := ih (List.nodup_cons.mp nodup).2
    by_cases same : entry.1 = name
    · by_cases found : name = key <;> simp [Entries.set, same, found, eq_comm]
    · by_cases found : entry.1 = key
      · simp [Entries.set, found]
        grind
      · simpa [Entries.set, same, found] using ih

@[simp] theorem get?_erase (table : Table α) (name key : String) :
    (table.erase name).get? key = if key = name then none else table.get? key := by
  obtain ⟨entries, nodup⟩ := table
  simp only [erase, get?]
  induction entries with
  | nil => simp
  | cons entry rest ih =>
    have ih := ih (List.nodup_cons.mp nodup).2
    by_cases same : entry.1 = name
    · simp only [ne_eq, same, not_true_eq_false, decide_false, Bool.false_eq_true,
        not_false_eq_true, List.filter_cons_of_neg, ih]
      grind
    · by_cases found : entry.1 = key
      · simp [found]
        grind
      · simpa [same, found] using ih

end Table
end ClaimCheck
