import ClaimCheck.Message.Serializer
import ClaimCheck.Proofs.JsonTokens

/-!
Which values have a JSON text. A value is written exactly when nothing that it holds is without a
form and it is nested no deeper than there is room; it comes to too deep a nesting exactly when that
is what is wrong first from the left.
-/
namespace ClaimCheck

section Traversals

variable {ε α β : Type} {f : α → Except ε β} {xs : List α}

/-- A traversal succeeds when every step of it does. -/
theorem Except.mapM_eq_ok {g : α → β} (steps : ∀ x ∈ xs, f x = .ok (g x)) :
    xs.mapM f = .ok (xs.map g) := by
  induction xs with
  | nil => rfl
  | cons x xs ih =>
    rw [List.mapM_cons, steps x (by simp), ih fun y member => steps y (by simp [member])]
    rfl

private theorem Except.exists_mapM_ok :
    (∃ ys, xs.mapM f = .ok ys) ↔ ∀ x ∈ xs, ∃ y, f x = .ok y := by
  induction xs with
  | nil => simp [pure, Except.pure]
  | cons x xs ih =>
    rw [List.forall_mem_cons, ← ih, List.mapM_cons]
    cases f x <;> cases xs.mapM f <;> simp [bind, Except.bind, pure, Except.pure]

private theorem Except.mapM_eq_error {e : ε} :
    xs.mapM f = .error e ↔ ∃ before x after, xs = before ++ x :: after ∧
      (∀ y ∈ before, ∃ z, f y = .ok z) ∧ f x = .error e := by
  induction xs with
  | nil => simp [pure, Except.pure]
  | cons x xs ih =>
    rw [List.mapM_cons]
    cases first : f x with
    | error found =>
      have stopped : (do let y ← Except.error found; let ys ← xs.mapM f; pure (y :: ys)) =
          Except.error e ↔ f x = .error e := by
        simp [first, bind, Except.bind]
      rw [stopped]
      constructor
      · intro failed
        exact ⟨[], x, xs, rfl, by simp, failed⟩
      · rintro ⟨before, y, after, split, passed, failed⟩
        cases before with
        | nil =>
          cases split
          exact failed
        | cons z before =>
          cases split
          obtain ⟨_, ok⟩ := passed x (by simp)
          rw [first] at ok
          cases ok
    | ok y =>
      have later : (do let ys ← xs.mapM f; pure (y :: ys)) = Except.error e ↔
          xs.mapM f = .error e := by
        cases xs.mapM f <;> simp [bind, Except.bind, pure, Except.pure]
      refine later.trans (ih.trans ⟨?_, ?_⟩)
      · rintro ⟨before, z, after, rfl, passed, failed⟩
        exact ⟨x :: before, z, after, rfl, by simpa [first] using passed, failed⟩
      · rintro ⟨before, z, after, split, passed, failed⟩
        cases before with
        | nil =>
          cases split
          rw [first] at failed
          cases failed
        | cons w before =>
          cases split
          exact ⟨before, z, after, rfl, fun v member => passed v (by simp [member]), failed⟩

end Traversals

namespace Value

/-- What a list or a tuple holds, and the values of a dictionary. -/
def parts : Value → List Value
  | .list items | .tuple items => items
  | .dict entries => entries.map Prod.snd
  | _ => []

private theorem sizeOf_part {value part : Value} (member : part ∈ value.parts) :
    sizeOf part < sizeOf value := by
  cases value with
  | list items | tuple items =>
    have smaller := List.sizeOf_lt_of_mem (show part ∈ items from member)
    simp only [list.sizeOf_spec, tuple.sizeOf_spec]
    omega
  | dict entries =>
    obtain ⟨entry, found, rfl⟩ := List.mem_map.mp (show part ∈ entries.map Prod.snd from member)
    have smaller := List.sizeOf_lt_of_mem found
    have inside : sizeOf entry = 1 + sizeOf entry.1 + sizeOf entry.2 := rfl
    simp only [dict.sizeOf_spec]
    omega
  | _ => simp [parts] at member

/-- What passes from the parts of a value to the value is true of all values. -/
theorem induction_parts {motive : Value → Prop}
    (step : ∀ value, (∀ part ∈ value.parts, motive part) → motive value) (value : Value) :
    motive value :=
  step value fun part member =>
    have := sizeOf_part member
    induction_parts step part
termination_by sizeOf value

/-- A value holds itself and what its parts hold. -/
inductive Holds : Value → Value → Prop
  | itself (value : Value) : Holds value value
  | within {value part inner : Value} (member : part ∈ value.parts) (holds : Holds part inner) :
      Holds value inner

theorem holds_iff {value inner : Value} :
    value.Holds inner ↔ inner = value ∨ ∃ part ∈ value.parts, part.Holds inner := by
  constructor
  · rintro (_ | ⟨member, holds⟩)
    · exact .inl rfl
    · exact .inr ⟨_, member, holds⟩
  · rintro (rfl | ⟨part, member, holds⟩)
    · exact .itself _
    · exact .within member holds

/-- Whether other values are nested in a value. -/
def IsContainer : Value → Prop
  | .list _ | .tuple _ | .dict _ => True
  | _ => False

/-- How many containers are opened at once for a value, apart from those of its parts: a record has
fields, a batch a list of records, and what holds itself is opened twice. -/
def reach : Value → Nat
  | .list _ | .tuple _ | .dict _ => 1
  | .order _ => 1
  | .batch b => if b.orders.isEmpty then 2 else 3
  | .knot _ => 2
  | _ => 0

mutual

/-- How deep containers are nested. -/
def depth : Value → Nat
  | .list items | .tuple items => depthOfItems items + 1
  | .dict entries => depthOfEntries entries + 1
  | value => value.reach

def depthOfItems : List Value → Nat
  | [] => 0
  | item :: rest => max (depth item) (depthOfItems rest)

def depthOfEntries : List (Value × Value) → Nat
  | [] => 0
  | entry :: rest => max (depth entry.2) (depthOfEntries rest)

end

private theorem depthOfItems_le {items : List Value} {room : Nat} :
    depthOfItems items ≤ room ↔ ∀ item ∈ items, item.depth ≤ room := by
  induction items with
  | nil => simp [depthOfItems]
  | cons item rest ih => rw [depthOfItems, Nat.max_le, ih, List.forall_mem_cons]

private theorem depthOfEntries_eq (entries : List (Value × Value)) :
    depthOfEntries entries = depthOfItems (entries.map Prod.snd) := by
  induction entries with
  | nil => simp [depthOfEntries, depthOfItems]
  | cons entry rest ih => simp [depthOfEntries, depthOfItems, ih]

private theorem depth_of_container {value : Value} (container : value.IsContainer) :
    value.depth = depthOfItems value.parts + 1 := by
  cases value with
  | list items | tuple items => simp only [depth, parts]
  | dict entries => simp only [depth, parts, depthOfEntries_eq]
  | _ => exact absurd container id

private theorem depth_of_leaf {value : Value} (leaf : ¬ value.IsContainer) :
    value.depth = value.reach := by
  cases value with
  | list items | tuple items | dict entries => exact absurd trivial leaf
  | _ => simp only [depth]

theorem reach_of_container {value : Value} (container : value.IsContainer) : value.reach = 1 := by
  cases value with
  | list items | tuple items | dict entries => rfl
  | _ => exact absurd container id

private theorem parts_of_leaf {value : Value} (leaf : ¬ value.IsContainer) : value.parts = [] := by
  cases value with
  | list items | tuple items | dict entries => exact absurd trivial leaf
  | _ => rfl

private theorem reach_le_depth (value : Value) : value.reach ≤ value.depth := by
  by_cases container : value.IsContainer
  · rw [reach_of_container container, depth_of_container container]
    exact Nat.le_add_left 1 _
  · exact Nat.le_of_eq (depth_of_leaf container).symm

private theorem part_depth_lt {value part : Value} (member : part ∈ value.parts) :
    part.depth < value.depth := by
  by_cases container : value.IsContainer
  · rw [depth_of_container container]
    exact Nat.lt_succ_of_le (depthOfItems_le.mp (Nat.le_refl _) part member)
  · rw [parts_of_leaf container] at member
    cases member

/-- An integer of more digits than are written. -/
def IsLong : Value → Prop
  | .int n => Decimal.digitLimit < (Nat.toDigits 10 n.natAbs).length
  | _ => False

theorem isLong_int {n : Int} : (Value.int n).IsLong ↔ Json.isHuge n = true :=
  Json.isHuge_iff.symm

/-- Texts, statuses, numbers, truth values and null can be keys. -/
def IsKey : Value → Prop
  | .text _ | .status _ | .int _ | .float _ | .bool _ | .null => True
  | _ => False

/-- Whether a value is without a JSON form, whatever its parts are. -/
def HasNoForm : Value → Prop
  | .bytes _ | .set _ | .object | .decimal _ | .knot _ => True
  | .dict entries => ∃ entry ∈ entries, ¬ entry.1.IsKey ∨ entry.1.IsLong
  | .int n => (Value.int n).IsLong
  | .order o => (Value.int o.amount).IsLong
  | .batch b => ∃ o ∈ b.orders, (Value.int o.amount).IsLong
  | _ => False

/-- Whether something that a value holds is without a JSON form. -/
def IsDefective (value : Value) : Prop :=
  ∃ inner, value.Holds inner ∧ inner.HasNoForm

private theorem isDefective_iff {value : Value} :
    value.IsDefective ↔ value.HasNoForm ∨ ∃ part ∈ value.parts, part.IsDefective := by
  have held (inner : Value) : value.Holds inner ↔ _ := holds_iff
  simp only [IsDefective, held]
  constructor
  · rintro ⟨inner, rfl | ⟨part, member, holds⟩, noForm⟩
    · exact .inl noForm
    · exact .inr ⟨part, member, inner, holds, noForm⟩
  · rintro (noForm | ⟨part, member, inner, holds, noForm⟩)
    · exact ⟨value, .inl rfl, noForm⟩
    · exact ⟨inner, .inr ⟨part, member, holds⟩, noForm⟩

/-- Whether a value has a form and its containers are nested no deeper than allowed. -/
def Fits (room : Nat) (value : Value) : Prop :=
  ¬ value.IsDefective ∧ value.depth ≤ room

theorem fits_iff {room : Nat} {value : Value} :
    value.Fits room ↔ ¬ value.HasNoForm ∧ value.reach ≤ room ∧
      ∀ part ∈ value.parts, part.Fits (room - 1) := by
  have sound : ¬ value.IsDefective ↔
      ¬ value.HasNoForm ∧ ∀ part ∈ value.parts, ¬ part.IsDefective := by
    rw [isDefective_iff]
    simp only [not_or, not_exists, not_and]
  by_cases container : value.IsContainer
  · have deep : value.depth ≤ room ↔ 1 ≤ room ∧ ∀ part ∈ value.parts, part.depth ≤ room - 1 := by
      rw [depth_of_container container, ← depthOfItems_le]
      omega
    simp only [Fits, sound, deep, reach_of_container container, forall_and, and_assoc,
      and_left_comm]
  · simp [Fits, sound, depth_of_leaf container, parts_of_leaf container]

/-- From the left, more containers than may be opened come before anything else that is wrong with a
value. -/
inductive Sinks : Nat → Value → Prop
  | full {room : Nat} {value : Value} (deep : room < value.reach) : Sinks room value
  | item {room : Nat} {before after : List Value} {item : Value}
      (fit : ∀ earlier ∈ before, earlier.Fits room) (sinks : Sinks room item) :
      Sinks (room + 1) (.list (before ++ item :: after))
  | tupleItem {room : Nat} {before after : List Value} {item : Value}
      (fit : ∀ earlier ∈ before, earlier.Fits room) (sinks : Sinks room item) :
      Sinks (room + 1) (.tuple (before ++ item :: after))
  | entry {room : Nat} {before after : List (Value × Value)} {entry : Value × Value}
      (fit : ∀ earlier ∈ before, earlier.1.IsKey ∧ ¬ earlier.1.IsLong ∧ earlier.2.Fits room)
      (key : entry.1.IsKey ∧ ¬ entry.1.IsLong) (sinks : Sinks room entry.2) :
      Sinks (room + 1) (.dict (before ++ entry :: after))

private theorem sinks_zero {value : Value} : value.Sinks 0 ↔ 0 < value.reach := by
  constructor
  · rintro ⟨deep⟩
    exact deep
  · exact .full

private theorem not_full {room : Nat} {value : Value} (container : value.IsContainer) :
    ¬ room + 1 < value.reach := by
  rw [reach_of_container container]
  omega

theorem sinks_list {room : Nat} {items : List Value} :
    (Value.list items).Sinks (room + 1) ↔ ∃ before item after, items = before ++ item :: after ∧
      (∀ earlier ∈ before, earlier.Fits room) ∧ item.Sinks room := by
  constructor
  · rintro (deep | ⟨fit, sinks⟩)
    · exact absurd deep (not_full trivial)
    · exact ⟨_, _, _, rfl, fit, sinks⟩
  · rintro ⟨before, item, after, rfl, fit, sinks⟩
    exact .item fit sinks

private theorem sinks_tuple {room : Nat} {items : List Value} :
    (Value.tuple items).Sinks (room + 1) ↔ (Value.list items).Sinks (room + 1) := by
  rw [sinks_list]
  constructor
  · rintro (deep | _ | ⟨fit, sinks⟩)
    · exact absurd deep (not_full trivial)
    · exact ⟨_, _, _, rfl, fit, sinks⟩
  · rintro ⟨before, item, after, rfl, fit, sinks⟩
    exact .tupleItem fit sinks

private theorem sinks_dict {room : Nat} {entries : List (Value × Value)} :
    (Value.dict entries).Sinks (room + 1) ↔
      ∃ before entry after, entries = before ++ entry :: after ∧
        (∀ earlier ∈ before, earlier.1.IsKey ∧ ¬ earlier.1.IsLong ∧ earlier.2.Fits room) ∧
        (entry.1.IsKey ∧ ¬ entry.1.IsLong) ∧ entry.2.Sinks room := by
  constructor
  · rintro (deep | _ | _ | ⟨fit, key, sinks⟩)
    · exact absurd deep (not_full trivial)
    · exact ⟨_, _, _, rfl, fit, key, sinks⟩
  · rintro ⟨before, entry, after, rfl, fit, key, sinks⟩
    exact .entry fit key sinks

/-- What sinks is nested deeper than there is room. -/
theorem Sinks.lt_depth {room : Nat} {value : Value} (sinks : value.Sinks room) :
    room < value.depth := by
  induction sinks with
  | full deep => exact Nat.lt_of_lt_of_le deep (reach_le_depth _)
  | item fit sinks deeper | tupleItem fit sinks deeper | entry fit key sinks deeper =>
    exact Nat.lt_of_le_of_lt deeper (part_depth_lt (by simp [parts]))

private theorem sinks_leaf {room : Nat} {value : Value} (leaf : ¬ value.IsContainer) :
    value.Sinks room ↔ room < value.reach := by
  constructor
  · intro sinks
    exact depth_of_leaf leaf ▸ sinks.lt_depth
  · exact .full

/-- Whether a value is a record of an application. -/
def isRecord : Value → Bool
  | .order _ | .batch _ => true
  | _ => false

end Value

namespace Json

open Value

variable {room : Nat}

private theorem keyText_eq_ok {key : Value} :
    (∃ name, keyText key = .ok name) ↔ key.IsKey ∧ ¬ key.IsLong := by
  cases key with
  | int n =>
    rw [isLong_int]
    by_cases huge : isHuge n = true <;> simp [keyText, writeInt, huge, IsKey, Except.map]
  | _ => simp [keyText, IsKey, IsLong]

private theorem keyText_ne_tooDeep (key : Value) : keyText key ≠ .error .tooDeep := by
  cases key with
  | int n => by_cases huge : isHuge n = true <;> simp [keyText, writeInt, huge, Except.map]
  | _ => simp [keyText]

/-- An entry on its own: its key, then its value. -/
def writeEntry (room : Nat) (entry : Value × Value) : Except WriteError (List Char) := do
  let name ← keyText entry.1
  let value ← writeValue room entry.2
  .ok (member name value)

theorem writeItems_eq (items : List Value) :
    writeItems room items = items.mapM (writeValue room) := by
  induction items with
  | nil => rfl
  | cons item rest ih =>
    rw [writeItems, List.mapM_cons, ih]
    rfl

theorem writeEntries_eq (entries : List (Value × Value)) :
    writeEntries room entries = entries.mapM (writeEntry room) := by
  induction entries with
  | nil => rfl
  | cons entry rest ih =>
    rw [writeEntries, List.mapM_cons, ih]
    simp only [writeEntry]
    cases keyText entry.1 with
    | error => rfl
    | ok name => cases writeValue room entry.2 <;> rfl

private theorem writeEntry_eq_ok {entry : Value × Value} :
    (∃ chars, writeEntry room entry = .ok chars) ↔
      (entry.1.IsKey ∧ ¬ entry.1.IsLong) ∧ ∃ chars, writeValue room entry.2 = .ok chars := by
  rw [← keyText_eq_ok]
  simp only [writeEntry]
  cases keyText entry.1 <;> cases writeValue room entry.2 <;> simp [bind, Except.bind]

private theorem writeEntry_tooDeep {entry : Value × Value} :
    writeEntry room entry = .error .tooDeep ↔
      (entry.1.IsKey ∧ ¬ entry.1.IsLong) ∧ writeValue room entry.2 = .error .tooDeep := by
  rw [← keyText_eq_ok]
  have other := keyText_ne_tooDeep entry.1
  simp only [writeEntry]
  revert other
  cases keyText entry.1 <;> cases writeValue room entry.2 <;> simp [bind, Except.bind]

private theorem map_eq_ok {ε α β : Type} {x : Except ε α} {f : α → β} :
    (∃ y, x.map f = .ok y) ↔ ∃ y, x = .ok y := by
  cases x <;> simp [Except.map]

private theorem map_eq_error {ε α β : Type} {x : Except ε α} {f : α → β} {e : ε} :
    x.map f = .error e ↔ x = .error e := by
  cases x <;> simp [Except.map]

@[simp] theorem opening_zero (write : Nat → Except WriteError (List Char)) :
    opening 0 write = .error .tooDeep := rfl

@[simp] theorem opening_succ (room : Nat) (write : Nat → Except WriteError (List Char)) :
    opening (room + 1) write = write room := rfl

private theorem writeInt_eq_ok {n : Int} :
    (∃ chars, writeInt n = .ok chars) ↔ ¬ (Value.int n).IsLong := by
  rw [isLong_int]
  by_cases huge : isHuge n = true <;> simp [writeInt, huge]

private theorem writeInt_ne_tooDeep (n : Int) : writeInt n ≠ .error .tooDeep := by
  by_cases huge : isHuge n = true <;> simp [writeInt, huge]

private theorem filled_eq_ok {ε α β : Type} {x : Except ε α} {f : α → β} :
    (∃ y, (do let value ← x; .ok (f value)) = Except.ok y) ↔ ∃ y, x = .ok y := by
  cases x <;> simp [bind, Except.bind]

private theorem filled_eq_error {ε α β : Type} {x : Except ε α} {f : α → β} {e : ε} :
    (do let value ← x; .ok (f value)) = Except.error e ↔ x = .error e := by
  cases x <;> simp [bind, Except.bind]

private theorem writeOrder_eq_ok {order : Order} :
    (∃ chars, writeOrder room order = .ok chars) ↔
      ¬ (Value.int order.amount).IsLong ∧ 1 ≤ room := by
  cases room with
  | zero => simp [writeOrder]
  | succ room => simp [writeOrder, filled_eq_ok, writeInt_eq_ok]

private theorem writeOrder_tooDeep {order : Order} :
    writeOrder room order = .error .tooDeep ↔ room < 1 := by
  cases room with
  | zero => simp [writeOrder]
  | succ room => simp [writeOrder, filled_eq_error, writeInt_ne_tooDeep]

private theorem writeBatch_eq_ok {batch : Batch} :
    (∃ chars, writeBatch room batch = .ok chars) ↔
      ¬ (Value.batch batch).HasNoForm ∧ (Value.batch batch).reach ≤ room := by
  match room with
  | 0 | 1 =>
    refine iff_of_false (by simp [writeBatch, bind, Except.bind]) ?_
    rintro ⟨-, shallow⟩
    simp only [reach] at shallow
    split at shallow <;> omega
  | room + 2 =>
    have deep : (Value.batch batch).reach ≤ room + 2 ↔ ∀ order ∈ batch.orders, 1 ≤ room := by
      rw [reach]
      cases batch.orders with
      | nil => simp
      | cons first rest =>
        have spare : 3 ≤ room + 2 ↔ 1 ≤ room := by omega
        simp only [List.isEmpty_cons, Bool.false_eq_true, if_false, spare]
        exact ⟨fun open_ _ _ => open_, fun all => all first List.mem_cons_self⟩
    simp only [writeBatch, opening_succ, filled_eq_ok, map_eq_ok, Except.exists_mapM_ok,
      writeOrder_eq_ok, deep, HasNoForm, not_exists, not_and, imp_and, forall_and]

private theorem writeBatch_tooDeep {batch : Batch} :
    writeBatch room batch = .error .tooDeep ↔ room < (Value.batch batch).reach := by
  match room with
  | 0 | 1 =>
    refine iff_of_true (by simp [writeBatch, bind, Except.bind]) ?_
    simp only [reach]
    split <;> omega
  | room + 2 =>
    simp only [writeBatch, opening_succ, filled_eq_error, map_eq_error, Except.mapM_eq_error,
      writeOrder_eq_ok, writeOrder_tooDeep, reach]
    cases batch.orders with
    | nil => simp
    | cons first rest =>
      constructor
      · rintro ⟨_, _, _, -, -, full⟩
        rw [List.isEmpty_cons, if_neg Bool.false_ne_true]
        omega
      · intro deep
        rw [List.isEmpty_cons, if_neg Bool.false_ne_true] at deep
        exact ⟨[], first, rest, rfl, nofun, by omega⟩

/-- A value is written exactly when it has a form and is not nested too deep. -/
theorem writeValue_eq_ok (value : Value) :
    (∃ chars, writeValue room value = .ok chars) ↔ value.Fits room := by
  induction value using induction_parts generalizing room with
  | step value ih =>
    rw [fits_iff]
    cases value with
    | list items | tuple items =>
      cases room with
      | zero => simp [writeValue, reach]
      | succ room =>
        simp only [writeValue, opening_succ, map_eq_ok, writeItems_eq, Except.exists_mapM_ok]
        simp only [HasNoForm, not_false_eq_true, reach, Nat.le_add_left, true_and]
        exact forall₂_congr fun item member => ih item member
    | dict entries =>
      cases room with
      | zero => simp [writeValue, reach]
      | succ room =>
        simp only [writeValue, opening_succ, map_eq_ok, writeEntries_eq, Except.exists_mapM_ok,
          writeEntry_eq_ok]
        simp only [HasNoForm, reach, Nat.le_add_left, true_and, not_exists, not_and, not_or,
          Classical.not_not, parts, List.forall_mem_map, Nat.add_sub_cancel]
        have value_iff (entry : Value × Value) (member : entry ∈ entries) :
            (∃ chars, writeValue room entry.2 = .ok chars) ↔ entry.2.Fits room :=
          ih entry.2 (List.mem_map_of_mem member)
        constructor
        · intro written
          exact ⟨fun entry member => (written entry member).1,
            fun entry member => (value_iff entry member).mp (written entry member).2⟩
        · rintro ⟨keys, fits⟩ entry member
          exact ⟨keys entry member, (value_iff entry member).mpr (fits entry member)⟩
    | int n => simp [writeValue, writeInt_eq_ok, HasNoForm, reach, parts]
    | order o => simp [writeValue, writeOrder_eq_ok, HasNoForm, reach, parts]
    | batch b => simp [writeValue, writeBatch_eq_ok, parts]
    | knot isDict =>
      rcases room with _ | _ | room <;> simp [writeValue, HasNoForm]
    | _ => simp [writeValue, HasNoForm, reach, parts]

/-- Writing comes to too deep a nesting exactly when that is wrong first from the left. -/
theorem writeValue_tooDeep (value : Value) :
    writeValue room value = .error .tooDeep ↔ value.Sinks room := by
  induction value using induction_parts generalizing room with
  | step value ih =>
    have items_tooDeep {items : List Value} {room : Nat}
        (known : ∀ item ∈ items, item ∈ value.parts) :
        writeItems room items = .error .tooDeep ↔ (Value.list items).Sinks (room + 1) := by
      rw [writeItems_eq, Except.mapM_eq_error, sinks_list]
      refine exists_congr fun before => exists_congr fun item => exists_congr fun after =>
        and_congr_right fun same => ?_
      rw [ih item (known item (by simp [same]))]
      simp only [writeValue_eq_ok]
    cases value with
    | list items =>
      cases room with
      | zero => simp [writeValue, sinks_zero, reach]
      | succ room =>
        simp only [writeValue, opening_succ, map_eq_error]
        exact items_tooDeep fun _ member => member
    | tuple items =>
      cases room with
      | zero => simp [writeValue, sinks_zero, reach]
      | succ room =>
        rw [sinks_tuple]
        simp only [writeValue, opening_succ, map_eq_error]
        exact items_tooDeep fun _ member => member
    | dict entries =>
      cases room with
      | zero => simp [writeValue, sinks_zero, reach]
      | succ room =>
        simp only [writeValue, opening_succ, map_eq_error, writeEntries_eq,
          Except.mapM_eq_error, writeEntry_eq_ok, writeEntry_tooDeep, writeValue_eq_ok, sinks_dict,
          and_assoc]
        refine exists_congr fun before => exists_congr fun entry => exists_congr fun after =>
          and_congr_right fun same => ?_
        rw [ih entry.2 (by simp [parts, same])]
    | order o => rw [writeValue, writeOrder_tooDeep, sinks_leaf id, reach]
    | batch b => rw [writeValue, writeBatch_tooDeep, sinks_leaf id]
    | knot isDict =>
      rw [sinks_leaf id]
      rcases room with _ | _ | room <;> simp [writeValue, reach]
    | int n =>
      rw [writeValue, sinks_leaf id]
      simp [writeInt_ne_tooDeep, reach]
    | _ =>
      rw [sinks_leaf id]
      simp [writeValue, reach]

/-- A message is written exactly when it is a record, or has a form and is not nested too deep. -/
theorem write_eq_ok (message : Value) :
    (∃ text, write room message = .ok text) ↔ message.isRecord = true ∨ message.Fits room := by
  cases message with
  | order o | batch b => simp [write, isRecord]
  | _ => simp only [write, map_eq_ok, writeValue_eq_ok, isRecord, Bool.false_eq_true, false_or]

theorem write_tooDeep (message : Value) :
    write room message = .error .tooDeep ↔ message.isRecord = false ∧ message.Sinks room := by
  cases message with
  | order o | batch b => simp [write, isRecord]
  | _ => simp only [write, map_eq_error, writeValue_tooDeep, isRecord, true_and]

end Json

namespace Message

variable {room : Nat}

theorem serializeWithin_eq_ok {message : Value} :
    (∃ raw, serializeWithin room message = .ok raw) ↔
      message.isRecord = true ∨ message.Fits room := by
  rw [← Json.write_eq_ok, serializeWithin]
  split <;> simp_all

/-- Serializing fails with what makes a message sink, or else with a failure of serialization. -/
theorem serializeWithin_eq_error {message : Value} {failure : Failure}
    (failed : serializeWithin room message = .error failure) :
    ((message.isRecord = false ∧ message.Sinks room) ∧
      failure = .tooDeep "maximum recursion depth exceeded while encoding a JSON object") ∨
    (¬ (message.isRecord = false ∧ message.Sinks room) ∧
      ∃ error, failure = .serialization (.unwritable error)) := by
  rw [← Json.write_tooDeep]
  revert failed
  simp only [serializeWithin]
  split
  · intro failed
    cases failed
  · next deep =>
    rintro ⟨⟩
    exact .inl ⟨deep, rfl⟩
  · next error other same =>
    rintro ⟨⟩
    rw [same]
    exact .inr ⟨fun deep => other (Except.error.inj deep), _, rfl⟩

end Message
end ClaimCheck
