import ClaimCheck.Json.Basic

/-!
Reading JSON text. An error names what was expected and the place; reading stops at the first error
from the left.
-/
namespace ClaimCheck.Json

/-- What is wrong at a place of the text. -/
inductive Problem
  | value
  | name
  | colon
  | comma
  | extraData
  | unterminated
  | controlCharacter
  | escape
  | unicodeEscape
  | byteOrderMark
  deriving DecidableEq, Repr

def Problem.message : Problem → String
  | .value => "Expecting value"
  | .name => "Expecting property name enclosed in double quotes"
  | .colon => "Expecting ':' delimiter"
  | .comma => "Expecting ',' delimiter"
  | .extraData => "Extra data"
  | .unterminated => "Unterminated string starting at"
  | .controlCharacter => "Invalid control character at"
  | .escape => "Invalid \\escape"
  | .unicodeEscape => "Invalid \\uXXXX escape"
  | .byteOrderMark => "Unexpected UTF-8 BOM (decode using utf-8-sig)"

/-- Why a text was not read: a problem at the place where the given rest of the text begins, an
integer of too many digits, or brackets nested too deep. -/
inductive Stop
  | problem (problem : Problem) (rest : List Char)
  | hugeInteger (digits : Nat)
  | tooDeep (isObject : Bool)

/-- What a reader lets pass. -/
structure Rules where
  /-- Whether brackets around nothing count. -/
  countsEmpty : Bool
  /-- What half of a pair of escapes stands for on its own, if it may stand there. -/
  lone : Option Char
  /-- Whether digits are limited in every number, and a minus counts as one of them. -/
  limitsAll : Bool

/-- Half of a pair stands for no character of its own. -/
def Rules.plain : Rules := ⟨true, some '\ufffd', false⟩

def isSpace (c : Char) : Bool :=
  c == ' ' || c == '\t' || c == '\n' || c == '\r'

def skipSpace (chars : List Char) : List Char :=
  chars.dropWhile isSpace

/-- Four hexadecimal digits. -/
def unit? (a b c d : Char) : Option Nat := do
  let a ← hexValue? a
  let b ← hexValue? b
  let c ← hexValue? c
  let d ← hexValue? d
  some (4096 * a + 256 * b + 16 * c + d)

def isHigh (n : Nat) : Bool := 0xD800 ≤ n && n < 0xDC00

def isLow (n : Nat) : Bool := 0xDC00 ≤ n && n < 0xE000

def joinPair (high low : Nat) : Char :=
  Char.ofNat (0x10000 + (high - 0xD800) * 0x400 + (low - 0xDC00))

/-- The character of a unit that is not the first one of a pair. -/
def ofUnit? (rules : Rules) (n : Nat) : Option Char :=
  if isHigh n || isLow n then rules.lone else some (Char.ofNat n)

def unescape? (c : Char) : Option Char :=
  match c with
  | '"' => some '"'
  | '\\' => some '\\'
  | '/' => some '/'
  | 'b' => some '\x08'
  | 'f' => some '\x0c'
  | 'n' => some '\n'
  | 'r' => some '\r'
  | 't' => some '\t'
  | _ => none

/-- The characters of a string up to its closing quote; `start` is the text from its opening quote
on. An escape of four digits must be followed by at least one more character. -/
def scanString (rules : Rules) (start : List Char) :
    List Char → List Char → Except Stop (String × List Char)
  | '"' :: rest, read => .ok (String.ofList read.reverse, rest)
  | '\\' :: 'u' :: a :: b :: c :: d :: '\\' :: 'u' :: e :: f :: g :: h :: next :: rest, read =>
    let here := 'u' :: a :: b :: c :: d :: '\\' :: 'u' :: e :: f :: g :: h :: next :: rest
    let there := 'u' :: e :: f :: g :: h :: next :: rest
    match unit? a b c d with
    | none => .error (.problem .unicodeEscape here)
    | some first =>
      let second? := if isHigh first then unit? e f g h else none
      match second?.filter isLow, ofUnit? rules first with
      | some second, _ => scanString rules start (next :: rest) (joinPair first second :: read)
      | none, some c =>
        if isHigh first && second?.isNone then .error (.problem .unicodeEscape there)
        else scanString rules start ('\\' :: 'u' :: e :: f :: g :: h :: next :: rest) (c :: read)
      | none, none => .error (.problem .unicodeEscape here)
  | '\\' :: 'u' :: a :: b :: c :: d :: next :: rest, read =>
    match (unit? a b c d).bind (ofUnit? rules) with
    | none => .error (.problem .unicodeEscape ('u' :: a :: b :: c :: d :: next :: rest))
    | some c => scanString rules start (next :: rest) (c :: read)
  | '\\' :: 'u' :: rest, _ => .error (.problem .unicodeEscape ('u' :: rest))
  | '\\' :: c :: rest, read =>
    match unescape? c with
    | some plain => scanString rules start rest (plain :: read)
    | none => .error (.problem .escape ('\\' :: c :: rest))
  | ['\\'], _ => .error (.problem .unterminated start)
  | [], _ => .error (.problem .unterminated start)
  | c :: rest, read =>
    if c.toNat < 0x20 then .error (.problem .controlCharacter (c :: rest))
    else scanString rules start rest (c :: read)
termination_by chars _ => chars.length

/-- A fraction needs a digit after its point; without one it is not part of the number. -/
def scanFraction (chars : List Char) : List Char × List Char :=
  match chars with
  | '.' :: rest =>
    let (digits, after) := Decimal.takeDigits rest
    if digits.isEmpty then ([], chars) else (digits, after)
  | _ => ([], chars)

/-- The whole digits of a number: a zero alone, or digits that start with another one. -/
def scanWhole (chars : List Char) : List Char × List Char :=
  match chars with
  | '0' :: rest => (['0'], rest)
  | _ => Decimal.takeDigits chars

def scanNumber (rules : Rules) (start : List Char) : Except Stop (Json × List Char) :=
  let (negative, body) := match start with
    | '-' :: rest => (true, rest)
    | _ => (false, start)
  let (whole, rest) := scanWhole body
  if whole.isEmpty then .error (.problem .value start)
  else
    let (fraction, rest) := scanFraction rest
    let (exponent, rest) := Decimal.takeExponent rest
    let isInteger := fraction.isEmpty && exponent.isNone
    let size := whole.length + if negative && rules.limitsAll then 1 else 0
    if (isInteger || rules.limitsAll) && decide (Decimal.digitLimit < size) then
      .error (.hugeInteger size)
    else if isInteger then
      .ok (.int (Decimal.signed negative (Decimal.ofDigits whole)), rest)
    else
      let value := Double.ofDecimal negative (Decimal.ofDigits (whole ++ fraction))
        (exponent.getD 0 - fraction.length)
      .ok (.float value, rest)

def literals : List (String × Json) :=
  [("null", .null), ("true", .bool true), ("false", .bool false), ("NaN", .float .nan),
    ("Infinity", .float (.infinite false)), ("-Infinity", .float (.infinite true))]

/-- A literal from the front of a text. -/
def scanLiteral (chars : List Char) : Option (Json × List Char) :=
  literals.findSome? fun literal =>
    if literal.1.toList.isPrefixOf chars then some (literal.2, chars.drop literal.1.length)
    else none

/-- How many more brackets may be opened once one is, unless it is one too many. -/
def enter (room : Nat) (isObject : Bool) : Except Stop Nat :=
  match room with
  | 0 => .error (.tooDeep isObject)
  | room + 1 => .ok room

mutual

/-- One value from the front of a text. Of two steps at least one takes a character, so twice the
length of the text bounds their number; `room` is how many more brackets may be opened. -/
def scanValue (rules : Rules) : Nat → Nat → List Char → Except Stop (Json × List Char)
  | 0, _, chars => .error (.problem .value chars)
  | fuel + 1, room, chars =>
    match chars with
    | '"' :: rest => do
      let (s, rest) ← scanString rules chars rest []
      .ok (.text s, rest)
    | '[' :: rest =>
      match skipSpace rest with
      | ']' :: rest =>
        if rules.countsEmpty && room == 0 then .error (.tooDeep false) else .ok (.array [], rest)
      | rest => do
        let room ← enter room false
        let (items, rest) ← scanItems rules fuel room rest
        .ok (.array items, rest)
    | '\x7b' :: rest =>
      match skipSpace rest with
      | '\x7d' :: rest =>
        if rules.countsEmpty && room == 0 then .error (.tooDeep true) else .ok (.object [], rest)
      | rest => do
        let room ← enter room true
        let (members, rest) ← scanMembers rules fuel room rest
        .ok (ofMembers members, rest)
    | _ =>
      match scanLiteral chars with
      | some found => .ok found
      | none => scanNumber rules chars

/-- The items of an array from the first one to the closing bracket. -/
def scanItems (rules : Rules) : Nat → Nat → List Char → Except Stop (List Json × List Char)
  | 0, _, chars => .error (.problem .value chars)
  | fuel + 1, room, chars => do
    let (item, rest) ← scanValue rules fuel room chars
    match skipSpace rest with
    | ']' :: rest => .ok ([item], rest)
    | ',' :: rest => do
      let (items, rest) ← scanItems rules fuel room (skipSpace rest)
      .ok (item :: items, rest)
    | rest => .error (.problem .comma rest)

/-- The members of an object from the first one to the closing brace. -/
def scanMembers (rules : Rules) :
    Nat → Nat → List Char → Except Stop (List (String × Json) × List Char)
  | 0, _, chars => .error (.problem .value chars)
  | fuel + 1, room, chars =>
    match chars with
    | '"' :: rest => do
      let (name, rest) ← scanString rules chars rest []
      match skipSpace rest with
      | ':' :: rest => do
        let (value, rest) ← scanValue rules fuel room (skipSpace rest)
        match skipSpace rest with
        | '\x7d' :: rest => .ok ([(name, value)], rest)
        | ',' :: rest => do
          let (members, rest) ← scanMembers rules fuel room (skipSpace rest)
          .ok ((name, value) :: members, rest)
        | rest => .error (.problem .comma rest)
      | rest => .error (.problem .colon rest)
    | _ => .error (.problem .name chars)

end

/-- Where a problem lies: characters from the start, and line and column from one. -/
structure Place where
  position : Nat
  line : Nat
  column : Nat
  deriving DecidableEq, Repr

def Place.ofRest (text rest : List Char) : Place :=
  let before := text.take (text.length - rest.length)
  ⟨before.length, before.count '\n' + 1, (before.reverse.takeWhile (· != '\n')).length + 1⟩

inductive ReadError
  | malformed (problem : Problem) (place : Place)
  | hugeInteger (digits : Nat)
  | tooDeep (isObject : Bool)
  deriving DecidableEq, Repr

def ReadError.ofStop (text : List Char) : Stop → ReadError
  | .problem problem rest => .malformed problem (.ofRest text rest)
  | .hugeInteger digits => .hugeInteger digits
  | .tooDeep isObject => .tooDeep isObject

def ReadError.message : ReadError → String
  | .malformed problem place =>
    s!"{problem.message}: line {place.line} column {place.column} (char {place.position})"
  | .hugeInteger digits =>
    s!"Exceeds the limit (4300 digits) for integer string conversion: value has {digits} digits; use sys.set_int_max_str_digits() to increase the limit"
  | .tooDeep isObject =>
    let kind := if isObject then "object" else "array"
    s!"maximum recursion depth exceeded while decoding a JSON {kind} from a unicode string"

/-- The single value of a text, with blanks around it. -/
def scanText (rules : Rules) (room : Nat) (chars : List Char) : Except Stop Json :=
  match chars with
  | '\ufeff' :: _ => .error (.problem .byteOrderMark chars)
  | _ => do
    let (value, rest) ← scanValue rules (2 * chars.length + 2) room (skipSpace chars)
    match skipSpace rest with
    | [] => .ok value
    | rest => .error (.problem .extraData rest)

def readUnder (rules : Rules) (room : Nat) (text : String) : Except ReadError Json :=
  (scanText rules room text.toList).mapError (.ofStop text.toList)

def readWithin (room : Nat) (text : String) : Except ReadError Json :=
  readUnder .plain room text

def read (text : String) : Except ReadError Json :=
  readWithin usualRoom text

end ClaimCheck.Json
