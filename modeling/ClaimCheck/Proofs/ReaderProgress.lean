import ClaimCheck.Json.Reader
import ClaimCheck.Proofs.ActionOutcome

/-!
Reading takes something from the front of a text with every value, so the steps that are allowed
for its length are always enough: more of them change nothing.
-/
namespace ClaimCheck.Json

variable {rules : Rules} {room fuel : Nat} {chars rest : List Char}

theorem length_skipSpace_le (chars : List Char) : (skipSpace chars).length ≤ chars.length :=
  (List.dropWhile_sublist _).length_le

private theorem scanString_shorter {start read : List Char} {s : String}
    (scanned : scanString rules start chars read = .ok (s, rest)) : rest.length < chars.length := by
  fun_induction scanString rules start chars read <;> simp_all <;> omega

private theorem length_takeDigits_le (chars : List Char) :
    (Decimal.takeDigits chars).2.length ≤ chars.length :=
  (List.dropWhile_sublist _).length_le

private theorem length_scanFraction_le (chars : List Char) :
    (scanFraction chars).2.length ≤ chars.length := by
  fun_cases scanFraction chars with
  | case1 rest digits after taken none => exact Nat.le_refl _
  | case2 rest digits after taken some =>
    have fewer := length_takeDigits_le rest
    rw [taken] at fewer
    exact Nat.le_succ_of_le fewer
  | case3 => exact Nat.le_refl _

private theorem length_takeSign_le (chars : List Char) :
    (Decimal.takeSign chars).2.length ≤ chars.length := by
  fun_cases Decimal.takeSign chars <;> simp

private theorem length_takeExponent_le (chars : List Char) :
    (Decimal.takeExponent chars).2.length ≤ chars.length := by
  fun_cases Decimal.takeExponent chars with
  | case1 letter rest negative body signed digits after taken marked =>
    have unsigned := length_takeSign_le rest
    have fewer := length_takeDigits_le body
    rw [signed] at unsigned
    rw [taken] at fewer
    exact Nat.le_succ_of_le (Nat.le_trans fewer unsigned)
  | case2 => exact Nat.le_refl _
  | case3 => exact Nat.le_refl _

private theorem scanWhole_shorter (filled : (scanWhole chars).1.isEmpty = false) :
    (scanWhole chars).2.length < chars.length := by
  unfold scanWhole at filled ⊢
  split
  · exact Nat.lt_succ_self _
  · next other =>
    have whole :=
      congrArg List.length (List.takeWhile_append_dropWhile (p := Char.isDigit) (l := chars))
    rw [List.length_append] at whole
    have some : 0 < (chars.takeWhile Char.isDigit).length := by
      simpa [Decimal.takeDigits, other, List.isEmpty_eq_false_iff, List.length_pos_iff] using filled
    simp only [Decimal.takeDigits]
    omega

private theorem number_shorter {negative : Bool} {body digits behind fraction later : List Char}
    {exponent : Option Int}
    (sign : (match chars with | '-' :: rest => (true, rest) | _ => (false, chars)) =
      (negative, body))
    (whole : scanWhole body = (digits, behind)) (filled : ¬ digits.isEmpty = true)
    (point : scanFraction behind = (fraction, later))
    (power : Decimal.takeExponent later = (exponent, rest)) : rest.length < chars.length := by
  have unsigned : body.length ≤ chars.length := by
    split at sign <;> cases sign <;> simp
  have taken : (scanWhole body).2.length < body.length :=
    scanWhole_shorter (by simpa [whole] using filled)
  have fewer := length_scanFraction_le behind
  have least := length_takeExponent_le later
  rw [whole] at taken
  rw [point] at fewer
  rw [power] at least
  exact Nat.lt_of_le_of_lt (Nat.le_trans least fewer) (Nat.lt_of_lt_of_le taken unsigned)

private theorem scanNumber_shorter {json : Json} :
    scanNumber rules chars = .ok (json, rest) → rest.length < chars.length := by
  fun_cases scanNumber rules chars with
  | case1 | case2 => intro failed; cases failed
  | case3 negative body sign digits behind whole filled fraction later point exponent last power =>
    intro scanned
    cases scanned
    exact number_shorter sign whole filled point power
  | case4 negative body sign digits behind whole filled fraction later point exponent last power =>
    intro scanned
    cases scanned
    exact number_shorter sign whole filled point power

private theorem scanLiteral_shorter {json : Json}
    (scanned : scanLiteral chars = some (json, rest)) :
    rest.length < chars.length := by
  obtain ⟨literal, member, found⟩ := List.exists_of_findSome?_eq_some scanned
  have filled : ∀ literal ∈ literals, 0 < literal.1.length := by decide
  split at found
  · next front =>
    have known := (List.isPrefixOf_iff_prefix.mp front).length_le
    have long := filled literal member
    cases found
    rw [String.length_toList] at known
    rw [List.length_drop]
    omega
  · cases found

/-- The name of a member, and the text from its value on. -/
def scanName (rules : Rules) (chars : List Char) : Except Stop (String × List Char) :=
  match chars with
  | '"' :: rest => do
    let (name, rest) ← scanString rules chars rest []
    match skipSpace rest with
    | ':' :: rest => .ok (name, skipSpace rest)
    | rest => .error (.problem .colon rest)
  | _ => .error (.problem .name chars)

theorem scanMembers_succ (fuel room : Nat) (chars : List Char) :
    scanMembers rules (fuel + 1) room chars = (do
      let (name, place) ← scanName rules chars
      let (value, rest) ← scanValue rules fuel room place
      match skipSpace rest with
      | '\x7d' :: rest => .ok ([(name, value)], rest)
      | ',' :: rest => do
        let (members, rest) ← scanMembers rules fuel room (skipSpace rest)
        .ok ((name, value) :: members, rest)
      | rest => .error (.problem .comma rest)) := by
  cases chars with
  | nil => rfl
  | cons c inside =>
    by_cases quote : c = '"'
    · subst c
      rw [scanMembers, scanName]
      cases scanString rules ('"' :: inside) inside [] with
      | error => rfl
      | ok found =>
        simp only [bind, Except.bind]
        cases skipSpace found.2 with
        | nil => rfl
        | cons d rest =>
          by_cases colon : d = ':'
          · subst d
            rfl
          · simp [colon]
    · simp [scanMembers, scanName, quote, bind, Except.bind]

theorem scanName_shorter {name : String} (scanned : scanName rules chars = .ok (name, rest)) :
    rest.length < chars.length := by
  revert scanned
  fun_cases scanName rules chars with
  | case1 inside =>
    intro scanned
    obtain ⟨⟨found, left⟩, string, scanned⟩ := exceptBind_eq_ok.mp scanned
    have short := scanString_shorter string
    have skipped := length_skipSpace_le left
    simp only at scanned
    split at scanned
    · next behind colon =>
      cases scanned
      have gap := length_skipSpace_le behind
      rw [colon, List.length_cons] at skipped
      rw [List.length_cons]
      omega
    · cases scanned
  | case2 =>
    intro failed
    cases failed

/-- Values, the items of arrays and the members of objects all take something of a text. -/
structure Consumes (rules : Rules) (fuel : Nat) : Prop where
  value : ∀ room chars json rest,
    scanValue rules fuel room chars = .ok (json, rest) → rest.length < chars.length
  items : ∀ room chars items rest,
    scanItems rules fuel room chars = .ok (items, rest) → rest.length < chars.length
  members : ∀ room chars members rest,
    scanMembers rules fuel room chars = .ok (members, rest) → rest.length < chars.length

private theorem length_lt_of_inside {c : Char} (inside : rest.length < (skipSpace chars).length) :
    rest.length < (c :: chars).length :=
  Nat.lt_succ_of_lt (Nat.lt_of_lt_of_le inside (length_skipSpace_le chars))

private theorem length_lt_of_closed {c close : Char} (closed : skipSpace chars = close :: rest) :
    rest.length < (c :: chars).length :=
  length_lt_of_inside (closed ▸ Nat.lt_succ_self _)

private theorem length_lt_of_behind {c : Char} {behind : List Char}
    (shorter : behind.length < chars.length) (next : skipSpace behind = c :: rest) :
    rest.length + 1 < chars.length := by
  have skipped := length_skipSpace_le behind
  rw [next, List.length_cons] at skipped
  omega

theorem Consumes.value_succ (consumes : Consumes rules fuel) (room : Nat) (chars : List Char)
    (json : Json) (rest : List Char)
    (scanned : scanValue rules (fuel + 1) room chars = .ok (json, rest)) :
    rest.length < chars.length := by
  rw [scanValue.eq_def] at scanned
  simp only at scanned
  split at scanned
  · obtain ⟨⟨s, left⟩, string, same⟩ := exceptBind_eq_ok.mp scanned
    cases same
    exact Nat.lt_succ_of_lt (scanString_shorter string)
  · split at scanned
    · next more behind closed =>
      split at scanned <;> cases scanned
      exact length_lt_of_closed closed
    · obtain ⟨left, -, scanned⟩ := exceptBind_eq_ok.mp scanned
      obtain ⟨⟨items, behind⟩, inner, same⟩ := exceptBind_eq_ok.mp scanned
      cases same
      exact length_lt_of_inside (consumes.items _ _ _ _ inner)
  · split at scanned
    · next more behind closed =>
      split at scanned <;> cases scanned
      exact length_lt_of_closed closed
    · obtain ⟨left, -, scanned⟩ := exceptBind_eq_ok.mp scanned
      obtain ⟨⟨members, behind⟩, inner, same⟩ := exceptBind_eq_ok.mp scanned
      cases same
      exact length_lt_of_inside (consumes.members _ _ _ _ inner)
  · split at scanned
    · next literal =>
      cases scanned
      exact scanLiteral_shorter literal
    · exact scanNumber_shorter scanned

theorem Consumes.items_succ (consumes : Consumes rules fuel) (room : Nat) (chars : List Char)
    (items : List Json) (rest : List Char)
    (scanned : scanItems rules (fuel + 1) room chars = .ok (items, rest)) :
    rest.length < chars.length := by
  rw [scanItems] at scanned
  obtain ⟨⟨item, behind⟩, first, scanned⟩ := exceptBind_eq_ok.mp scanned
  have shorter := consumes.value _ _ _ _ first
  simp only at scanned
  split at scanned
  · next closed =>
    cases scanned
    exact Nat.lt_of_succ_lt (length_lt_of_behind shorter closed)
  · next left comma =>
    obtain ⟨⟨others, last⟩, inner, same⟩ := exceptBind_eq_ok.mp scanned
    cases same
    have later : last.length < (',' :: left).length :=
      length_lt_of_inside (consumes.items _ _ _ _ inner)
    exact Nat.lt_trans later (length_lt_of_behind shorter comma)
  · cases scanned

theorem Consumes.members_succ (consumes : Consumes rules fuel) (room : Nat) (chars : List Char)
    (members : List (String × Json)) (rest : List Char)
    (scanned : scanMembers rules (fuel + 1) room chars = .ok (members, rest)) :
    rest.length < chars.length := by
  rw [scanMembers_succ] at scanned
  obtain ⟨⟨name, place⟩, named, scanned⟩ := exceptBind_eq_ok.mp scanned
  obtain ⟨⟨json, behind⟩, first, scanned⟩ := exceptBind_eq_ok.mp scanned
  have shorter := Nat.lt_trans (consumes.value _ _ _ _ first) (scanName_shorter named)
  simp only at scanned
  split at scanned
  · next closed =>
    cases scanned
    exact Nat.lt_of_succ_lt (length_lt_of_behind shorter closed)
  · next left comma =>
    obtain ⟨⟨others, last⟩, inner, same⟩ := exceptBind_eq_ok.mp scanned
    cases same
    have later : last.length < (',' :: left).length :=
      length_lt_of_inside (consumes.members _ _ _ _ inner)
    exact Nat.lt_trans later (length_lt_of_behind shorter comma)
  · cases scanned

/-- Whatever is read is taken from the front of the text. -/
theorem consumes (rules : Rules) (fuel : Nat) : Consumes rules fuel := by
  induction fuel with
  | zero => constructor <;> simp [scanValue, scanItems, scanMembers]
  | succ fuel ih => exact ⟨ih.value_succ, ih.items_succ, ih.members_succ⟩

/-- With steps that are enough for the length of a text, one more changes nothing. -/
structure Settled (rules : Rules) (fuel : Nat) : Prop where
  value : ∀ room chars, 2 * chars.length ≤ fuel →
    scanValue rules (fuel + 1) room chars = scanValue rules fuel room chars
  items : ∀ room chars, 2 * chars.length + 1 ≤ fuel →
    scanItems rules (fuel + 1) room chars = scanItems rules fuel room chars
  members : ∀ room chars, 2 * chars.length + 1 ≤ fuel →
    scanMembers rules (fuel + 1) room chars = scanMembers rules fuel room chars

theorem enough_inside {c : Char} (enough : 2 * (c :: chars).length ≤ fuel + 1) :
    2 * (skipSpace chars).length + 1 ≤ fuel := by
  have skipped := length_skipSpace_le chars
  rw [List.length_cons] at enough
  omega

theorem enough_behind {c : Char} {behind : List Char} (enough : 2 * chars.length ≤ fuel)
    (shorter : behind.length < chars.length) (next : skipSpace behind = c :: rest) :
    2 * (skipSpace rest).length + 1 ≤ fuel := by
  have skipped := length_skipSpace_le rest
  have less := length_lt_of_behind shorter next
  omega

theorem Settled.value_succ (settled : Settled rules fuel) (room : Nat) (chars : List Char)
    (enough : 2 * chars.length ≤ fuel + 1) :
    scanValue rules (fuel + 1 + 1) room chars = scanValue rules (fuel + 1) room chars := by
  rw [scanValue.eq_def rules (fuel + 1 + 1), scanValue.eq_def rules (fuel + 1)]
  simp only
  split
  · rfl
  · split
    · rfl
    · simp only [settled.items _ _ (enough_inside enough)]
  · split
    · rfl
    · simp only [settled.members _ _ (enough_inside enough)]
  · rfl

theorem Settled.items_succ (settled : Settled rules fuel) (room : Nat) (chars : List Char)
    (enough : 2 * chars.length + 1 ≤ fuel + 1) :
    scanItems rules (fuel + 1 + 1) room chars = scanItems rules (fuel + 1) room chars := by
  have enough := Nat.le_of_succ_le_succ enough
  rw [scanItems, scanItems, settled.value room chars enough]
  cases first : scanValue rules fuel room chars with
  | error => rfl
  | ok found =>
    obtain ⟨item, behind⟩ := found
    have shorter := (consumes rules fuel).value _ _ _ _ first
    simp only [bind, Except.bind]
    split
    · rfl
    · next comma => rw [settled.items _ _ (enough_behind enough shorter comma)]
    · rfl

theorem Settled.members_succ (settled : Settled rules fuel) (room : Nat) (chars : List Char)
    (enough : 2 * chars.length + 1 ≤ fuel + 1) :
    scanMembers rules (fuel + 1 + 1) room chars = scanMembers rules (fuel + 1) room chars := by
  rw [scanMembers_succ, scanMembers_succ]
  cases named : scanName rules chars with
  | error => rfl
  | ok found =>
    obtain ⟨name, place⟩ := found
    have short := scanName_shorter named
    have enough : 2 * place.length ≤ fuel := by omega
    simp only [bind, Except.bind]
    rw [settled.value room place enough]
    cases first : scanValue rules fuel room place with
    | error => rfl
    | ok found =>
      obtain ⟨json, behind⟩ := found
      have shorter := (consumes rules fuel).value _ _ _ _ first
      simp only
      split
      · rfl
      · next comma => rw [settled.members _ _ (enough_behind enough shorter comma)]
      · rfl

theorem settled (rules : Rules) (fuel : Nat) : Settled rules fuel := by
  induction fuel with
  | zero =>
    refine ⟨fun room chars enough => ?_, fun _ _ enough => by omega, fun _ _ enough => by omega⟩
    obtain rfl : chars = [] := List.eq_nil_of_length_eq_zero (by omega)
    rfl
  | succ fuel ih => exact ⟨ih.value_succ, ih.items_succ, ih.members_succ⟩

/-- All counts of steps that are enough for a text give the same value. -/
theorem scanValue_enough (enough : 2 * chars.length ≤ fuel) :
    scanValue rules fuel room chars = scanValue rules (2 * chars.length) room chars := by
  induction enough with
  | refl => rfl
  | @step fuel enough ih => rw [(settled rules fuel).value room chars enough, ih]

end ClaimCheck.Json
