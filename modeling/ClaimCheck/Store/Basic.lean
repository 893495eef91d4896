import ClaimCheck.Payload.Source
import ClaimCheck.Payload.Stream
import ClaimCheck.Reference

/-!
Payload stores: what a store takes, gives back and forgets. References are opaque to its callers.
-/
namespace ClaimCheck

/-- A payload on its way into a store. The key is a proposal from which the store makes a reference.
-/
structure Upload where
  source : Source
  key : Option String
  sizeHint : Option Int
  expiresAt : Option Moment
  signal : Option Signal

/-- A store whose state is part of the scene, and whose streams have states of their own. -/
structure Store (ρ τ : Type) where
  upload : Upload → Action ρ (Option String)
  download : Option String → Option Signal → Action ρ τ
  delete : Option String → Option Signal → Action ρ Unit
  reader : StreamReader ρ τ

namespace Reference

/-- The normal form of a reference that a caller gives. -/
def given (reference : Option String) : Action ρ String :=
  match reference with
  | none => throw (.misuse .noReference)
  | some reference =>
    match normalize reference with
    | .ok bare => return bare
    | .error error => throw (.store error)

end Reference

/-- The instant of a moment, which must lie within the calendar. -/
def Moment.instant (moment : Moment) : Action ρ Instant :=
  match moment.instant? with
  | some instant => return instant
  | none => throw .outOfRange

/-- The text by which a time of expiry is recorded: its instant in UTC. -/
def Moment.expiresMarker (moment : Moment) : Action ρ String := do
  let instant ← moment.instant
  return instant.iso

namespace Store

/-- A store whose state is part of a larger one. -/
def on (part : Part σ ρ) (store : Store ρ τ) : Store σ τ where
  upload given := (store.upload given).on part
  download reference signal := (store.download reference signal).on part
  delete reference signal := (store.delete reference signal).on part
  reader := store.reader.on part

/-- Fetch a payload whole. Its stream is closed in any case. -/
def fetch (store : Store ρ τ) (reference : Option String) (signal : Option Signal) :
    Action ρ Bytes := do
  let stream ← store.download reference signal
  store.reader.drain.within stream

end Store
end ClaimCheck
