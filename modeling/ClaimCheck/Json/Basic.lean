import ClaimCheck.Bytes
import ClaimCheck.Number.Decimal
import ClaimCheck.Number.Shortest

/-! JSON values, the text of their numbers and strings, and how a duplicate name is settled. -/
namespace ClaimCheck

inductive Json
  | null
  | bool (b : Bool)
  | int (n : Int)
  | float (x : Double)
  | text (s : String)
  | array (items : List Json)
  | object (members : List (String × Json))
  deriving Inhabited

namespace Json

/-- Null, false, zero and everything empty count as nothing. -/
def isNothing : Json → Bool
  | .null | .bool false | .int 0 | .float (.finite _ 0 _) => true
  | .text s => s.isEmpty
  | .array items => items.isEmpty
  | .object members => members.isEmpty
  | _ => false

def typeName : Json → String
  | .null => "NoneType"
  | .bool _ => "bool"
  | .int _ => "int"
  | .float _ => "float"
  | .text _ => "str"
  | .array _ => "list"
  | .object _ => "dict"

/-- Whether an integer has more digits than are written. -/
def isHuge (n : Int) : Bool :=
  Nat.pow 10 Decimal.digitLimit ≤ n.natAbs

/-- How many containers may be open at once, where calls are nested as deep as they usually are. -/
def usualRoom : Nat := 990

/-- Numbers that are no numbers have names. -/
def floatLayout : Double.Layout :=
  { Double.plain with nan := "NaN", infinity := "Infinity" }

/-- Set a member: a known name keeps its place and takes the new value. -/
def setMember (name : String) (value : Json) : List (String × Json) → List (String × Json)
  | [] => [(name, value)]
  | member :: rest =>
    if member.1 = name then (name, value) :: rest else member :: setMember name value rest

/-- An object of members in the order read; of several of one name the last one counts. -/
def ofMembers (members : List (String × Json)) : Json :=
  .object (members.foldl (fun known member => setMember member.1 member.2 known) [])

def member? (json : Json) (name : String) : Option Json :=
  match json with
  | .object members => members.lookup name
  | _ => none

/-- Four hexadecimal digits of a number, behind their mark. -/
def unit16 (n : Nat) : List Char :=
  ['\\', 'u', hexDigit (n / 4096 % 16), hexDigit (n / 256 % 16), hexDigit (n / 16 % 16),
    hexDigit (n % 16)]

/-- The escapes of one letter. -/
def shortEscape? (c : Char) : Option Char :=
  match c with
  | '"' => some '"'
  | '\\' => some '\\'
  | '\n' => some 'n'
  | '\r' => some 'r'
  | '\t' => some 't'
  | '\x08' => some 'b'
  | '\x0c' => some 'f'
  | _ => none

/-- A character inside a quoted string: short escapes where there is one, and four hexadecimal
digits for every other control or non-ASCII character, twice above the basic plane. -/
def escapeChar (c : Char) : List Char :=
  match shortEscape? c with
  | some letter => ['\\', letter]
  | none =>
    let n := c.toNat
    if 0x20 ≤ n ∧ n < 0x7F then [c]
    else if n < 0x10000 then unit16 n
    else unit16 (0xD800 + (n - 0x10000) / 0x400) ++ unit16 (0xDC00 + (n - 0x10000) % 0x400)

/-- As `escapeChar`, but only what must be escaped is. -/
def escapeCharRaw (c : Char) : List Char :=
  match shortEscape? c with
  | some letter => ['\\', letter]
  | none => if c.toNat < 0x20 then unit16 c.toNat else [c]

def quote (escape : Char → List Char) (text : String) : List Char :=
  '"' :: (text.toList.flatMap escape ++ ['"'])

end Json
end ClaimCheck
