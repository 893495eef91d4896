import ClaimCheck.Bytes
import ClaimCheck.Text.Printable

/-!
Texts as they are shown inside others. A text is quoted by apostrophes unless it holds an apostrophe
and no double quote; what cannot be printed is escaped by its code point.
-/
namespace ClaimCheck.Text.Quoted

private def hexDigits : Nat → Nat → List Char
  | 0, _ => []
  | width + 1, n => hexDigits width (n / 16) ++ [hexDigit (n % 16)]

def escapeChar (quote c : Char) : List Char :=
  if c = quote ∨ c = '\\' then ['\\', c]
  else if c = '\n' then ['\\', 'n']
  else if c = '\r' then ['\\', 'r']
  else if c = '\t' then ['\\', 't']
  else if isPrintable c then [c]
  else if c.toNat < 0x100 then '\\' :: 'x' :: hexDigits 2 c.toNat
  else if c.toNat < 0x10000 then '\\' :: 'u' :: hexDigits 4 c.toNat
  else '\\' :: 'U' :: hexDigits 8 c.toNat

def encode (text : String) : String :=
  let chars := text.toList
  let quote := if chars.contains '\'' && !chars.contains '"' then '"' else '\''
  String.ofList (quote :: (chars.flatMap (escapeChar quote) ++ [quote]))

end ClaimCheck.Text.Quoted

/-- What is shown for a text that may be missing. -/
def ClaimCheck.Text.orNone (text : Option String) : String :=
  text.getD "None"
