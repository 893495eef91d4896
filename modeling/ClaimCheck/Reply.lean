/-! The outcome of a request as its sender sees it. -/
namespace ClaimCheck

inductive ReplyStatus
  | success
  | validationError
  | failure
  | timeout
  deriving DecidableEq, Repr

/-- The word by which a status travels. -/
def ReplyStatus.word : ReplyStatus → String
  | .success => "success"
  | .validationError => "validation_error"
  | .failure => "failure"
  | .timeout => "timeout"

def ReplyStatus.all : List ReplyStatus :=
  [.success, .validationError, .failure, .timeout]

def ReplyStatus.ofWord? (word : String) : Option ReplyStatus :=
  ReplyStatus.all.find? (·.word = word)

/-- A value on success, a message otherwise. -/
structure Reply (α : Type) where
  status : ReplyStatus
  value : Option α
  error : Option String

namespace Reply

def success (value : α) : Reply α := ⟨.success, some value, none⟩

def rejected (message : String) : Reply α := ⟨.validationError, none, some message⟩

def failed (message : String) : Reply α := ⟨.failure, none, some message⟩

def timedOut (message : String) : Reply α := ⟨.timeout, none, some message⟩

def isSuccess (reply : Reply α) : Bool :=
  reply.status == .success

end Reply
end ClaimCheck
