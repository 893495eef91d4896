import ClaimCheck.Proofs.JsonSpelling
import ClaimCheck.Proofs.ReaderProgress

/-!
Where reading stops at a limit and not at something wrong with the text: from the left, it comes to a
bracket where no more may be opened, or to an integer of too many digits.
-/
namespace ClaimCheck.Json

variable {α : Type} {room fuel : Nat} {chars rest place : List Char}

/-- Whether reading stopped at a limit, and not at something wrong with the text. -/
def Stop.IsLimit : Stop → Prop
  | .problem _ _ => False
  | .hugeInteger _ | .tooDeep _ => True

def StopsAtLimit (result : Except Stop α) : Prop :=
  ∃ stop, result = .error stop ∧ stop.IsLimit

/-- Neither a digit nor a fraction nor an exponent follows. -/
structure EndsInteger (rest : List Char) : Prop where
  digit : Decimal.EndsBefore rest
  fraction : (scanFraction rest).1 = []
  exponent : (Decimal.takeExponent rest).1 = none

/-- Whether a text begins with an integer of more digits than are read, without a sign. -/
def BeginsLong (chars : List Char) : Prop :=
  ∃ digits rest, chars = digits ++ rest ∧ (∀ c ∈ digits, c.isDigit = true) ∧
    digits.head? ≠ some '0' ∧ Decimal.digitLimit < digits.length ∧ EndsInteger rest

/-- As `BeginsLong`, with a minus or without. -/
def LongInteger (chars : List Char) : Prop :=
  BeginsLong chars ∨ ∃ more, chars = '-' :: more ∧ BeginsLong more

/-- Whether a value cannot be read at a place for a limit: it is a bracket and no more may be opened,
or an integer of too many digits. -/
def Overruns (room : Nat) (chars : List Char) : Prop :=
  (room = 0 ∧ (chars.head? = some '[' ∨ chars.head? = some '\x7b')) ∨ LongInteger chars

/-- The value at a place, and what is behind it. -/
def Reads (room : Nat) (chars : List Char) (json : Json) (rest : List Char) : Prop :=
  scanValue .plain (2 * chars.length) room chars = .ok (json, rest)

/-- The places of items: the first one, and those behind items that are read and their commas. -/
inductive ItemPlace (room : Nat) : List Char → List Char → Prop
  | first (chars : List Char) : ItemPlace room chars chars
  | next {chars behind rest place : List Char} {item : Json} (read : Reads room chars item behind)
      (comma : skipSpace behind = ',' :: rest) (later : ItemPlace room (skipSpace rest) place) :
      ItemPlace room chars place

/-- The places of the values of members, each behind its name. -/
inductive MemberPlace (room : Nat) : List Char → List Char → Prop
  | first {chars place : List Char} {name : String} (named : scanName .plain chars = .ok (name, place)) :
      MemberPlace room chars place
  | next {chars value behind rest place : List Char} {name : String} {json : Json}
      (named : scanName .plain chars = .ok (name, value)) (read : Reads room value json behind)
      (comma : skipSpace behind = ',' :: rest) (later : MemberPlace room (skipSpace rest) place) :
      MemberPlace room chars place

/-- The places that reading a value comes to from the left, each with how many more brackets may be
opened there. -/
inductive Comes : Nat → List Char → Nat → List Char → Prop
  | here (room : Nat) (chars : List Char) : Comes room chars room chars
  | item {room inner : Nat} {rest place chars : List Char}
      (filled : ∀ more, skipSpace rest ≠ ']' :: more) (item : ItemPlace room (skipSpace rest) place)
      (comes : Comes room place inner chars) : Comes (room + 1) ('[' :: rest) inner chars
  | member {room inner : Nat} {rest place chars : List Char}
      (filled : ∀ more, skipSpace rest ≠ '\x7d' :: more)
      (member : MemberPlace room (skipSpace rest) place)
      (comes : Comes room place inner chars) : Comes (room + 1) ('\x7b' :: rest) inner chars

/-- Whether reading a value comes to a place where a limit ends it. -/
def Overreaches (room : Nat) (chars : List Char) : Prop :=
  ∃ inner place, Comes room chars inner place ∧ Overruns inner place

private theorem stopsAtLimit_ok (result : α) : ¬ StopsAtLimit (.ok result : Except Stop α) := by
  rintro ⟨_, same, -⟩
  cases same

private theorem stopsAtLimit_error {stop : Stop} :
    StopsAtLimit (.error stop : Except Stop α) ↔ stop.IsLimit := by
  constructor
  · rintro ⟨_, same, limit⟩
    cases same
    exact limit
  · exact fun limit => ⟨stop, rfl, limit⟩

private theorem scanString_problem {rules : Rules} {start read : List Char} :
    ¬ StopsAtLimit (scanString rules start chars read) := by
  fun_induction scanString rules start chars read <;>
    simp_all [stopsAtLimit_ok, stopsAtLimit_error, Stop.IsLimit]

private theorem scanName_problem : ¬ StopsAtLimit (scanName .plain chars) := by
  fun_cases scanName Rules.plain chars with
  | case1 inside =>
    have string : ¬ StopsAtLimit (scanString .plain ('"' :: inside) inside []) :=
      scanString_problem
    revert string
    cases scanString .plain ('"' :: inside) inside [] with
    | error stop => exact id
    | ok found =>
      intro _
      simp only [bind, Except.bind]
      split
      · exact stopsAtLimit_ok _
      · exact fun limit => stopsAtLimit_error.mp limit
  | case2 => exact fun limit => stopsAtLimit_error.mp limit

private theorem scanWhole_long {digits : List Char} (clean : ∀ c ∈ digits, c.isDigit = true)
    (noZero : digits.head? ≠ some '0') (ends : Decimal.EndsBefore rest) :
    scanWhole (digits ++ rest) = (digits, rest) := by
  have taken := Decimal.takeDigits_append clean ends
  unfold scanWhole
  split
  · next zero =>
    cases digits with
    | nil => exact absurd (ends '0' (by rw [← List.nil_append rest, zero]; rfl)) (by decide)
    | cons c digits =>
      cases zero
      exact absurd rfl noZero
  · exact taken

private theorem beginsLong_iff :
    BeginsLong chars ↔ Decimal.digitLimit < (scanWhole chars).1.length ∧
      (scanFraction (scanWhole chars).2).1 = [] ∧
      (Decimal.takeExponent (scanWhole chars).2).1 = none := by
  constructor
  · rintro ⟨digits, rest, rfl, clean, noZero, long, ends⟩
    rw [scanWhole_long clean noZero ends.digit]
    exact ⟨long, ends.fraction, ends.exponent⟩
  · unfold scanWhole
    split
    · rintro ⟨long, -⟩
      exact absurd (show Decimal.digitLimit < 1 from long) (by decide)
    · next other =>
      rintro ⟨long, fraction, exponent⟩
      refine ⟨_, _, List.takeWhile_append_dropWhile.symm,
        fun c => List.all_eq_true.mp List.all_takeWhile c, ?_, long, ?_, fraction, exponent⟩
      · intro zero
        rw [List.head?_takeWhile, Option.filter_eq_some_iff] at zero
        obtain ⟨more, same⟩ := List.head?_eq_some_iff.mp zero.1
        exact other more same
      · intro c head
        have kept := List.head?_dropWhile_not Char.isDigit chars
        rw [Option.mem_def.mp head] at kept
        exact kept

private theorem longInteger_iff {negative : Bool} {body : List Char}
    (sign : (match chars with | '-' :: rest => (true, rest) | _ => (false, chars)) =
      (negative, body)) : LongInteger chars ↔ BeginsLong body := by
  have unsigned (more : List Char) : ¬ BeginsLong ('-' :: more) := by
    rintro ⟨digits, rest, same, clean, -, long, -⟩
    cases digits with
    | nil => exact absurd long (by decide)
    | cons c digits =>
      cases same
      exact absurd (clean '-' (by simp)) (by decide)
  split at sign
  · cases sign
    constructor
    · rintro (begins | ⟨more, same, begins⟩)
      · exact absurd begins (unsigned _)
      · cases same
        exact begins
    · exact fun begins => .inr ⟨_, rfl, begins⟩
  · next other =>
    cases sign
    constructor
    · rintro (begins | ⟨more, same, -⟩)
      · exact begins
      · exact absurd same (other more)
    · exact .inl

private theorem isInteger_iff {fraction behind later last : List Char} {exponent : Option Int}
    (point : scanFraction behind = (fraction, later))
    (power : Decimal.takeExponent later = (exponent, last)) :
    (fraction.isEmpty && exponent.isNone) = true ↔
      (scanFraction behind).1 = [] ∧ (Decimal.takeExponent behind).1 = none := by
  have kept (none : fraction = []) : later = behind := by
    revert point
    subst none
    fun_cases scanFraction behind <;> intro point <;> cases point <;> simp_all
  rw [point, Bool.and_eq_true, List.isEmpty_iff, Option.isNone_iff_eq_none]
  refine and_congr_right fun none => ?_
  rw [← kept none, power]

/-- Reading a number stops at a limit for too long an integer only. -/
theorem scanNumber_limit : StopsAtLimit (scanNumber .plain chars) ↔ LongInteger chars := by
  -- A minus is not counted as a digit, and only integers are limited.
  have beyond_iff (isInteger negative : Bool) (digits : List Char) :
      ((isInteger || Rules.plain.limitsAll) && decide (Decimal.digitLimit < digits.length +
        if (negative && Rules.plain.limitsAll) = true then 1 else 0)) = true ↔
      isInteger = true ∧ Decimal.digitLimit < digits.length := by
    simp [Rules.plain]
  fun_cases scanNumber Rules.plain chars with
  | case1 negative body sign digits behind whole none =>
    rw [longInteger_iff sign, beginsLong_iff, whole, stopsAtLimit_error]
    refine iff_of_false id fun long => ?_
    rw [List.isEmpty_iff.mp none] at long
    exact absurd (show Decimal.digitLimit < 0 from long.1) (by decide)
  | case2 negative body sign digits behind whole filled fraction later point exponent last power
      isInteger size beyond =>
    rw [longInteger_iff sign, beginsLong_iff, whole, ← isInteger_iff point power,
      stopsAtLimit_error]
    exact iff_of_true trivial ((beyond_iff _ _ _).mp beyond).symm
  | case3 negative body sign digits behind whole filled fraction later point exponent last power
      isInteger size fits =>
    rw [longInteger_iff sign, beginsLong_iff, whole, ← isInteger_iff point power]
    exact iff_of_false (stopsAtLimit_ok _) fun long => fits ((beyond_iff _ _ _).mpr long.symm)
  | case4 negative body sign digits behind whole filled fraction later point exponent last power
      isInteger size fits noInteger =>
    rw [longInteger_iff sign, beginsLong_iff, whole, ← isInteger_iff point power]
    exact iff_of_false (stopsAtLimit_ok _) fun long => noInteger long.2

/-- Too long an integer begins with a digit, with a minus or without. -/
theorem LongInteger.digit (long : LongInteger chars) :
    ∃ c more, c.isDigit = true ∧ (chars = c :: more ∨ chars = '-' :: c :: more) := by
  have begins {chars : List Char} (long : BeginsLong chars) :
      ∃ c more, c.isDigit = true ∧ chars = c :: more := by
    obtain ⟨digits, rest, rfl, clean, -, long, -⟩ := long
    cases digits with
    | nil => exact absurd long (by decide)
    | cons c digits => exact ⟨c, digits ++ rest, clean c (by simp), rfl⟩
  obtain long | ⟨more, rfl, long⟩ := long
  · obtain ⟨c, more, digit, same⟩ := begins long
    exact ⟨c, more, digit, .inl same⟩
  · obtain ⟨c, more, digit, rfl⟩ := begins long
    exact ⟨c, more, digit, .inr rfl⟩

private theorem not_longInteger {c : Char} {more : List Char} (noDigit : c.isDigit = false)
    (noMinus : c ≠ '-') : ¬ LongInteger (c :: more) := by
  intro long
  obtain ⟨digit, rest, clean, same | same⟩ := long.digit
  · cases same
    rw [clean] at noDigit
    cases noDigit
  · cases same
    exact noMinus rfl

private theorem overreaches_other (notBracket : ∀ more, chars ≠ '[' :: more)
    (notBrace : ∀ more, chars ≠ '\x7b' :: more) : Overreaches room chars ↔ LongInteger chars := by
  constructor
  · rintro ⟨inner, place, comes, overruns⟩
    cases comes with
    | here =>
      obtain ⟨-, head⟩ | long := overruns
      · rcases head with head | head
        · obtain ⟨more, same⟩ := List.head?_eq_some_iff.mp head
          exact absurd same (notBracket more)
        · obtain ⟨more, same⟩ := List.head?_eq_some_iff.mp head
          exact absurd same (notBrace more)
      · exact long
    | item => exact absurd rfl (notBracket _)
    | member => exact absurd rfl (notBrace _)
  · exact fun long => ⟨room, _, .here _ _, .inr long⟩

theorem overreaches_full {c : Char} {more : List Char} (bracket : c = '[' ∨ c = '\x7b') :
    Overreaches 0 (c :: more) :=
  ⟨0, _, .here _ _, .inl ⟨rfl, by simpa using bracket⟩⟩

theorem overreaches_array {more : List Char} :
    Overreaches (room + 1) ('[' :: more) ↔ (∀ rest, skipSpace more ≠ ']' :: rest) ∧
      ∃ place, ItemPlace room (skipSpace more) place ∧ Overreaches room place := by
  constructor
  · rintro ⟨inner, place, comes, overruns⟩
    cases comes with
    | here =>
      obtain ⟨zero, -⟩ | long := overruns
      · cases zero
      · exact absurd long (not_longInteger (by decide) (by decide))
    | item filled item comes => exact ⟨filled, _, item, _, _, comes, overruns⟩
  · rintro ⟨filled, place, item, inner, last, comes, overruns⟩
    exact ⟨inner, last, .item filled item comes, overruns⟩

private theorem overreaches_object {more : List Char} :
    Overreaches (room + 1) ('\x7b' :: more) ↔ (∀ rest, skipSpace more ≠ '\x7d' :: rest) ∧
      ∃ place, MemberPlace room (skipSpace more) place ∧ Overreaches room place := by
  constructor
  · rintro ⟨inner, place, comes, overruns⟩
    cases comes with
    | here =>
      obtain ⟨zero, -⟩ | long := overruns
      · cases zero
      · exact absurd long (not_longInteger (by decide) (by decide))
    | member filled member comes => exact ⟨filled, _, member, _, _, comes, overruns⟩
  · rintro ⟨filled, place, member, inner, last, comes, overruns⟩
    exact ⟨inner, last, .member filled member comes, overruns⟩

private theorem stopsAtLimit_bind {β : Type} {x : Except Stop α} {next : α → Except Stop β} :
    StopsAtLimit (x >>= next) ↔ StopsAtLimit x ∨ ∃ found, x = .ok found ∧ StopsAtLimit (next found) := by
  cases x with
  | error stop =>
    constructor
    · rintro ⟨_, same, limit⟩
      cases same
      exact .inl ⟨stop, rfl, limit⟩
    · rintro (⟨_, same, limit⟩ | ⟨_, same, -⟩)
      · cases same
        exact ⟨stop, rfl, limit⟩
      · cases same
  | ok found =>
    constructor
    · exact fun limit => .inr ⟨found, rfl, limit⟩
    · rintro (limit | ⟨_, same, limit⟩)
      · exact absurd limit (stopsAtLimit_ok _)
      · cases same
        exact limit

private theorem stopsAtLimit_bind_left {β : Type} {x : Except Stop α} {next : α → Except Stop β}
    (never : ∀ found, ¬ StopsAtLimit (next found)) : StopsAtLimit (x >>= next) ↔ StopsAtLimit x := by
  rw [stopsAtLimit_bind]
  refine or_iff_left ?_
  rintro ⟨found, -, limit⟩
  exact never found limit

private theorem itemPlace_iff :
    (∃ place, ItemPlace room chars place ∧ Overreaches room place) ↔
      Overreaches room chars ∨ ∃ item behind rest, Reads room chars item behind ∧
        skipSpace behind = ',' :: rest ∧
        ∃ place, ItemPlace room (skipSpace rest) place ∧ Overreaches room place := by
  constructor
  · rintro ⟨place, item, beyond⟩
    cases item with
    | first => exact .inl beyond
    | next read comma later => exact .inr ⟨_, _, _, read, comma, place, later, beyond⟩
  · rintro (beyond | ⟨item, behind, rest, read, comma, place, later, beyond⟩)
    · exact ⟨chars, .first chars, beyond⟩
    · exact ⟨place, .next read comma later, beyond⟩

private theorem memberPlace_iff :
    (∃ place, MemberPlace room chars place ∧ Overreaches room place) ↔
      ∃ name value, scanName .plain chars = .ok (name, value) ∧
        (Overreaches room value ∨ ∃ json behind rest, Reads room value json behind ∧
          skipSpace behind = ',' :: rest ∧
          ∃ place, MemberPlace room (skipSpace rest) place ∧ Overreaches room place) := by
  constructor
  · rintro ⟨place, member, beyond⟩
    cases member with
    | first named => exact ⟨_, _, named, .inl beyond⟩
    | next named read comma later =>
      exact ⟨_, _, named, .inr ⟨_, _, _, read, comma, place, later, beyond⟩⟩
  · rintro ⟨name, value, named, beyond | ⟨json, behind, rest, read, comma, place, later, beyond⟩⟩
    · exact ⟨value, .first named, beyond⟩
    · exact ⟨place, .next named read comma later, beyond⟩

private theorem stopsAtLimit_value {next : Json × List Char → Except Stop α}
    (later : List Char → Prop)
    (enough : 2 * place.length ≤ fuel)
    (value : StopsAtLimit (scanValue .plain fuel room place) ↔ Overreaches room place)
    (follows : ∀ json behind, behind.length < place.length →
      (StopsAtLimit (next (json, behind)) ↔
        ∃ rest, skipSpace behind = ',' :: rest ∧ later (skipSpace rest))) :
    StopsAtLimit (scanValue .plain fuel room place >>= next) ↔
      Overreaches room place ∨ ∃ json behind rest, Reads room place json behind ∧
        skipSpace behind = ',' :: rest ∧ later (skipSpace rest) := by
  rw [stopsAtLimit_bind, value]
  refine or_congr_right ⟨?_, ?_⟩
  · rintro ⟨⟨json, behind⟩, read, limit⟩
    have shorter := (consumes .plain fuel).value _ _ _ _ read
    obtain ⟨rest, comma, further⟩ := (follows json behind shorter).mp limit
    exact ⟨json, behind, rest, by rw [Reads, ← scanValue_enough enough, read], comma, further⟩
  · rintro ⟨json, behind, rest, read, comma, further⟩
    rw [Reads, ← scanValue_enough enough] at read
    have shorter := (consumes .plain fuel).value _ _ _ _ read
    exact ⟨_, read, (follows json behind shorter).mpr ⟨rest, comma, further⟩⟩

/-- With enough steps for a text, reading stops at a limit exactly where it comes to one. -/
structure Limited (fuel : Nat) : Prop where
  value : ∀ room chars, 2 * chars.length ≤ fuel →
    (StopsAtLimit (scanValue .plain fuel room chars) ↔ Overreaches room chars)
  items : ∀ room chars, 2 * chars.length + 1 ≤ fuel →
    (StopsAtLimit (scanItems .plain fuel room chars) ↔
      ∃ place, ItemPlace room chars place ∧ Overreaches room place)
  members : ∀ room chars, 2 * chars.length + 1 ≤ fuel →
    (StopsAtLimit (scanMembers .plain fuel room chars) ↔
      ∃ place, MemberPlace room chars place ∧ Overreaches room place)

theorem Limited.array (limited : Limited fuel) (room : Nat) {inside : List Char}
    (enough : 2 * ('[' :: inside).length ≤ fuel + 1) :
    StopsAtLimit (scanValue .plain (fuel + 1) room ('[' :: inside)) ↔
      Overreaches room ('[' :: inside) := by
  rw [scanValue]
  cases room with
  | zero =>
    refine iff_of_true ?_ (overreaches_full (.inl rfl))
    split <;> exact ⟨_, rfl, trivial⟩
  | succ room =>
    rw [overreaches_array]
    split
    · next closed => exact iff_of_false (stopsAtLimit_ok _) fun beyond => beyond.1 _ closed
    · next filled =>
      have entered : StopsAtLimit (scanItems .plain fuel room (skipSpace inside) >>=
          fun found => .ok (Json.array found.1, found.2)) ↔ _ :=
        (stopsAtLimit_bind_left fun _ => stopsAtLimit_ok _).trans
          (limited.items room _ (enough_inside enough))
      exact entered.trans (and_iff_right filled).symm

theorem Limited.object (limited : Limited fuel) (room : Nat) {inside : List Char}
    (enough : 2 * ('\x7b' :: inside).length ≤ fuel + 1) :
    StopsAtLimit (scanValue .plain (fuel + 1) room ('\x7b' :: inside)) ↔
      Overreaches room ('\x7b' :: inside) := by
  rw [scanValue]
  cases room with
  | zero =>
    refine iff_of_true ?_ (overreaches_full (.inr rfl))
    split <;> exact ⟨_, rfl, trivial⟩
  | succ room =>
    rw [overreaches_object]
    split
    · next closed => exact iff_of_false (stopsAtLimit_ok _) fun beyond => beyond.1 _ closed
    · next filled =>
      have entered : StopsAtLimit (scanMembers .plain fuel room (skipSpace inside) >>=
          fun found => .ok (ofMembers found.1, found.2)) ↔ _ :=
        (stopsAtLimit_bind_left fun _ => stopsAtLimit_ok _).trans
          (limited.members room _ (enough_inside enough))
      exact entered.trans (and_iff_right filled).symm

private theorem scanValue_limit_other (notBracket : ∀ more, chars ≠ '[' :: more)
    (notBrace : ∀ more, chars ≠ '\x7b' :: more) :
    StopsAtLimit (scanValue .plain (fuel + 1) room chars) ↔ LongInteger chars := by
  rw [scanValue.eq_def]
  simp only
  split
  · rw [stopsAtLimit_bind_left fun _ => stopsAtLimit_ok _]
    exact iff_of_false scanString_problem (not_longInteger (by decide) (by decide))
  · exact absurd rfl (notBracket _)
  · exact absurd rfl (notBrace _)
  · split
    · next literal =>
      refine iff_of_false (stopsAtLimit_ok _) fun long => ?_
      obtain ⟨c, more, digit, same⟩ := long.digit
      have none := scanLiteral_digit digit more
      obtain rfl | rfl := same
      · rw [none.1] at literal
        cases literal
      · rw [none.2] at literal
        cases literal
    · exact scanNumber_limit

theorem Limited.value_succ (limited : Limited fuel) (room : Nat) (chars : List Char)
    (enough : 2 * chars.length ≤ fuel + 1) :
    StopsAtLimit (scanValue .plain (fuel + 1) room chars) ↔ Overreaches room chars := by
  by_cases bracket : ∃ inside, chars = '[' :: inside
  · obtain ⟨inside, rfl⟩ := bracket
    exact limited.array room enough
  by_cases brace : ∃ inside, chars = '\x7b' :: inside
  · obtain ⟨inside, rfl⟩ := brace
    exact limited.object room enough
  have notBracket (more : List Char) (same : chars = '[' :: more) : False := bracket ⟨more, same⟩
  have notBrace (more : List Char) (same : chars = '\x7b' :: more) : False := brace ⟨more, same⟩
  rw [scanValue_limit_other notBracket notBrace, overreaches_other notBracket notBrace]

theorem Limited.items_succ (limited : Limited fuel) (room : Nat) (chars : List Char)
    (enough : 2 * chars.length + 1 ≤ fuel + 1) :
    StopsAtLimit (scanItems .plain (fuel + 1) room chars) ↔
      ∃ place, ItemPlace room chars place ∧ Overreaches room place := by
  have enough := Nat.le_of_succ_le_succ enough
  rw [scanItems, itemPlace_iff]
  refine stopsAtLimit_value (fun left => ∃ place, ItemPlace room left place ∧
    Overreaches room place) enough (limited.value room chars enough) fun item behind shorter => ?_
  simp only
  split
  · next closed => simp [closed, stopsAtLimit_ok]
  · next rest comma =>
    rw [stopsAtLimit_bind_left fun _ => stopsAtLimit_ok _,
      limited.items _ _ (enough_behind enough shorter comma)]
    simp [comma]
  · next notClosed noComma =>
    refine iff_of_false (fun limit => stopsAtLimit_error.mp limit) ?_
    rintro ⟨rest, comma, -⟩
    exact noComma rest comma

theorem Limited.members_succ (limited : Limited fuel) (room : Nat) (chars : List Char)
    (enough : 2 * chars.length + 1 ≤ fuel + 1) :
    StopsAtLimit (scanMembers .plain (fuel + 1) room chars) ↔
      ∃ place, MemberPlace room chars place ∧ Overreaches room place := by
  rw [scanMembers_succ, stopsAtLimit_bind, memberPlace_iff, or_iff_right scanName_problem,
    Prod.exists]
  refine exists_congr fun name => exists_congr fun first => and_congr_right fun named => ?_
  have enough : 2 * first.length ≤ fuel := by
    have short := scanName_shorter named
    omega
  refine stopsAtLimit_value (fun left => ∃ place, MemberPlace room left place ∧
    Overreaches room place) enough (limited.value room first enough) fun json behind shorter => ?_
  simp only
  split
  · next closed => simp [closed, stopsAtLimit_ok]
  · next rest comma =>
    rw [stopsAtLimit_bind_left fun _ => stopsAtLimit_ok _,
      limited.members _ _ (enough_behind enough shorter comma)]
    simp [comma]
  · next notClosed noComma =>
    refine iff_of_false (fun limit => stopsAtLimit_error.mp limit) ?_
    rintro ⟨rest, comma, -⟩
    exact noComma rest comma

theorem limited (fuel : Nat) : Limited fuel := by
  induction fuel with
  | zero =>
    refine ⟨fun room chars enough => ?_, fun _ _ enough => by omega, fun _ _ enough => by omega⟩
    obtain rfl : chars = [] := List.eq_nil_of_length_eq_zero (by omega)
    rw [overreaches_other (by simp) (by simp)]
    refine iff_of_false (fun limit => stopsAtLimit_error.mp limit) fun long => ?_
    obtain ⟨_, _, -, same | same⟩ := long.digit <;> cases same
  | succ fuel ih => exact ⟨ih.value_succ, ih.items_succ, ih.members_succ⟩

/-- Reading a text stops at a limit exactly where, behind blanks, it comes to one. -/
theorem scanText_limit :
    StopsAtLimit (scanText .plain room chars) ↔ Overreaches room (skipSpace chars) := by
  fun_cases scanText Rules.plain room chars with
  | case1 more =>
    have kept : skipSpace ('\ufeff' :: more) = '\ufeff' :: more := rfl
    rw [kept, overreaches_other (by simp) (by simp)]
    exact iff_of_false (fun limit => stopsAtLimit_error.mp limit)
      (not_longInteger (by decide) (by decide))
  | case2 noMark =>
    have skipped := length_skipSpace_le chars
    rw [stopsAtLimit_bind_left, (limited _).value _ _ (by omega)]
    rintro ⟨json, rest⟩
    simp only
    split
    · exact stopsAtLimit_ok _
    · exact fun limit => stopsAtLimit_error.mp limit

/-- Whether a text comes, read from the left, to a value that a limit ends. -/
def TextOverreaches (room : Nat) (text : String) : Prop :=
  Overreaches room (skipSpace text.toList)

private theorem readWithin_eq_error {text : String} {problem : ReadError} :
    readWithin room text = .error problem ↔
      ∃ stop, scanText .plain room text.toList = .error stop ∧
        .ofStop text.toList stop = problem := by
  unfold readWithin readUnder
  cases scanText .plain room text.toList with
  | ok json =>
    constructor
    · intro failed
      cases failed
    · rintro ⟨_, stopped, -⟩
      cases stopped
  | error stop =>
    constructor
    · intro failed
      exact ⟨stop, rfl, Except.error.inj failed⟩
    · rintro ⟨_, stopped, rfl⟩
      cases stopped
      rfl

theorem readWithin_limit {text : String} :
    ((∃ digits, readWithin room text = .error (.hugeInteger digits)) ∨
      ∃ isObject, readWithin room text = .error (.tooDeep isObject)) ↔
        TextOverreaches room text := by
  rw [TextOverreaches, ← scanText_limit]
  simp only [readWithin_eq_error]
  cases scanText .plain room text.toList with
  | ok json => simp [stopsAtLimit_ok]
  | error stop => cases stop <;> simp [ReadError.ofStop, stopsAtLimit_error, Stop.IsLimit]

end ClaimCheck.Json
