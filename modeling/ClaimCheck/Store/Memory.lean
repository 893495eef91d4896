import ClaimCheck.Store.Basic

/-!
A store in memory. Every upload gets a reference of its own; an entry whose time has come is removed
when it is asked for.
-/
namespace ClaimCheck

structure MemoryStore.Entry where
  data : Bytes
  expires : Option Instant

structure MemoryStore where
  entries : Table MemoryStore.Entry
  clock : Moment

namespace MemoryStore

def Entry.isExpired (entry : Entry) (now : Instant) : Bool :=
  entry.expires.any fun expires => expires.notAfter now

def size (store : MemoryStore) : Nat :=
  store.entries.size

def contains (store : MemoryStore) (reference : String) : Bool :=
  store.entries.contains reference

/-- The payload is read, and the reference taken, before the time of expiry is converted. -/
def upload (upload : Upload) : Action MemoryStore (Option String) := do
  Action.ofExcept upload.source.ensureReadable
  Action.ofExcept (ensureSizeHint upload.sizeHint)
  Action.ensureNotCancelled upload.signal
  let key ← Reference.given upload.key
  let data := upload.source.remaining
  let id ← Action.freshId
  let reference := key ++ "/" ++ id
  let expires ← match upload.expiresAt with
    | some moment => some <$> moment.instant
    | none => pure none
  Action.update fun store => { store with entries := store.entries.set reference ⟨data, expires⟩ }
  return reference

/-- The clock is read only for an entry that can expire. -/
def download (reference : Option String) (signal : Option Signal) :
    Action MemoryStore ByteStream := do
  let reference ← Reference.given reference
  Action.ensureNotCancelled signal
  let store ← Action.inspect id
  match store.entries.get? reference with
  | none => throw (.store (.notFound reference))
  | some entry =>
    if entry.expires.isNone then return .ofBytes entry.data
    else
      let now ← store.clock.instant
      if entry.isExpired now then
        Action.update fun store => { store with entries := store.entries.erase reference }
        throw (.store (.notFound reference s!"Payload reference '{reference}' has expired."))
      else return .ofBytes entry.data

/-- Deleting what is not there is no error. -/
def delete (reference : Option String) (signal : Option Signal) : Action MemoryStore Unit := do
  let reference ← Reference.given reference
  Action.ensureNotCancelled signal
  Action.update fun store => { store with entries := store.entries.erase reference }

def store : Store MemoryStore ByteStream :=
  ⟨upload, download, delete, ByteStream.reader⟩

end MemoryStore
end ClaimCheck
