import ClaimCheck.Failure
import ClaimCheck.Json.Display

/-!
Tables of texts as callers give them: an object, or a sequence of pairs of a name and a value.
-/
namespace ClaimCheck.Mapping

/-- What a value holds if it can be gone through: items, characters, or names. -/
def items? : Json → Option (List Json)
  | .array items => some items
  | .text s => some (s.toList.map fun c => .text (String.singleton c))
  | .object members => some (members.map fun member => .text member.1)
  | _ => none

/-- The pair at a place of a sequence. -/
def pair (place : Nat) (json : Json) : Except Fault (Json × Json) :=
  match items? json with
  | none =>
    .error (.ofGeneral "TypeError"
      s!"cannot convert dictionary update sequence element #{place} to a sequence")
  | some [name, value] =>
    match name with
    | .array _ | .object _ => .error (.ofGeneral "TypeError" s!"unhashable type: '{name.typeName}'")
    | _ => .ok (name, value)
  | some items =>
    .error (.ofGeneral "ValueError"
      s!"dictionary update sequence element #{place} has length {items.length}; 2 is required")

def pairs (json : Json) : Except Fault (List (Json × Json)) :=
  match json, items? json with
  | .object members, _ => .ok (members.map fun member => (.text member.1, member.2))
  | _, some items => items.zipIdx.mapM fun item => pair item.2 item.1
  | _, none => .error (.ofGeneral "TypeError" s!"'{json.typeName}' object is not iterable")

/-- A name as it stands in paths. -/
def label : Json → String
  | .text s => s
  | .bool b => if b then "1" else "0"
  | json => json.inner

/-- A member of a table; only a text is a name. -/
def member (pair : Json × Json) : Checked (String × Json) :=
  let name := label pair.1
  let named : Checked String := Checked.inField "[key]" (Field.text pair.1)
  Checked.inField name ((named.both (Field.text pair.2)).map fun _ => (name, pair.2))

/-- An object of pairs. Where all names are texts, the values are left to whoever reads it. -/
def toObject (pairs : List (Json × Json)) : Checked Json :=
  match pairs.mapM fun pair => (Field.text pair.1).map fun name => (name, pair.2) with
  | .ok members => .ok (Json.ofMembers members)
  | .error _ => (Checked.all (pairs.map member)).map Json.ofMembers

/-- The table that a caller gives as headers. -/
def ofJson (json : Json) : Except Failure Json := do
  let pairs ← (pairs json).mapError .fault
  (Checked.sorted (Checked.inField "headers" (toObject pairs))).mapError .invalid

end ClaimCheck.Mapping
