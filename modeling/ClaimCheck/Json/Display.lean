import ClaimCheck.Json.Basic
import ClaimCheck.Text.Quoted

/-! Any value as plain text, for places that hold text only. -/
namespace ClaimCheck.Json

mutual

/-- A value inside another one: texts are quoted. -/
def inner : Json → String
  | .null => "None"
  | .bool b => if b then "True" else "False"
  | .int n => toString n
  | .float x => Double.plain.render x
  | .text s => Text.Quoted.encode s
  | .array items => "[" ++ ", ".intercalate (innerItems items) ++ "]"
  | .object members => "\x7b" ++ ", ".intercalate (innerMembers members) ++ "\x7d"

def innerItems : List Json → List String
  | [] => []
  | item :: rest => inner item :: innerItems rest

def innerMembers : List (String × Json) → List String
  | [] => []
  | (name, value) :: rest => (Text.Quoted.encode name ++ ": " ++ inner value) :: innerMembers rest

end

/-- A text is its own plain text. -/
def display : Json → String
  | .text s => s
  | json => inner json

end ClaimCheck.Json
