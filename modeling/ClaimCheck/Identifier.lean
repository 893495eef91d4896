import ClaimCheck.Bytes

/-! Fresh identifiers: thirty-two hexadecimal digits that count up from one. -/
namespace ClaimCheck

/-- Where identifiers come from: a count, and texts given beforehand for messages. -/
structure IdSource where
  used : Nat
  given : List String

namespace IdSource

/-- A number as at least the given count of hexadecimal digits. -/
def text (width n : Nat) : String :=
  let digits := Nat.toDigits 16 n
  String.ofList (List.replicate (width - digits.length) '0' ++ digits)

def initial (given : List String) : IdSource := ⟨0, given⟩

/-- The next identifier counted. -/
def next (source : IdSource) : String × IdSource :=
  (text 32 (source.used + 1), { source with used := source.used + 1 })

/-- The next identifier for a message: one given beforehand, or else one counted. -/
def nextForMessage (source : IdSource) : String × IdSource :=
  match source.given with
  | id :: rest => (id, { source with given := rest })
  | [] => source.next

end IdSource
end ClaimCheck
