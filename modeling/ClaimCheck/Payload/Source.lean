import ClaimCheck.Failure

/-!
Sources of payloads: bytes in memory, and streams that can or cannot tell their length. Main
statement: finding out the length leaves a source where it was.
-/
namespace ClaimCheck

inductive Source.Kind
  /-- Bytes in memory. -/
  | held
  | seekable
  /-- A seekable stream that fails to say where it is. -/
  | untold
  /-- A seekable stream that fails to go elsewhere. -/
  | fixed
  | unseekable
  /-- Anything that can be read, and nothing else. -/
  | readOnly
  | closed
  | unreadable
  deriving DecidableEq, Repr

structure Source where
  kind : Source.Kind
  data : Bytes
  position : Nat
  deriving DecidableEq, Repr

namespace Source

def ofBytes (data : Bytes) : Source := ⟨.held, data, 0⟩

/-- A seekable stream at the start of its data. -/
def ofStream (data : Bytes) : Source := ⟨.seekable, data, 0⟩

def isHeld (source : Source) : Bool :=
  source.kind == .held

/-- Asking a closed stream whether it can be read fails by itself. -/
def ensureReadable (source : Source) : Except Failure Unit :=
  match source.kind with
  | .closed => .error (.misuse .closedStream)
  | .unreadable => .error (.misuse .unreadablePayload)
  | _ => .ok ()

/-- The bytes that a read to the end gives. -/
def remaining (source : Source) : Bytes :=
  if source.isHeld then source.data else source.data.drop source.position

/-- Whether a stream says of itself that it can go elsewhere. -/
def isSeekable (source : Source) : Bool :=
  match source.kind with
  | .seekable | .untold | .fixed => true
  | _ => false

/-- Where a stream says that it is, unless it fails to. -/
def tell? (source : Source) : Option Nat :=
  if source.kind = .untold then none else some source.position

/-- The source at another position, unless it fails to go there. -/
def seek? (source : Source) (position : Nat) : Option Source :=
  if source.kind = .fixed then none else some { source with position }

/-- A step that is taken on a payload before it is handed over. -/
inductive Step
  | tell
  | seek (position : Nat)
  | read
  deriving DecidableEq, Repr

section

variable {m : Type → Type} [Monad m]

/-- How many bytes are left, and the source after finding out: a seekable stream says where it is,
goes to its end and back. Nothing is known if one of these steps fails, or past the end. -/
def measureBy (take : Step → m Unit) (source : Source) : m (Option Nat × Source) := do
  if source.isHeld then return (some source.data.length, source)
  else if source.isSeekable then
    take .tell
    match source.tell? with
    | none => return (none, source)
    | some position =>
      take (.seek source.data.length)
      match source.seek? source.data.length with
      | none => return (none, source)
      | some atEnd =>
        take (.seek position)
        match atEnd.seek? position with
        | none => return (none, atEnd)
        | some back =>
          return (if position ≤ atEnd.position then some (atEnd.position - position) else none, back)
  else return (none, source)

/-- A payload as a client takes it, with what is known of its length. A declared length is not
checked. A stream that cannot tell its own is read first, if the length must be known. -/
def prepareBy (take : Step → m Unit) (needsLength : Bool) (source : Source)
    (sizeHint : Option Int) : m (Source × Option Int) := do
  match sizeHint with
  | some size => return (source, some size)
  | none =>
    match ← source.measureBy take with
    | (some length, left) => return (left, some (Int.ofNat length))
    | (none, left) =>
      if needsLength then
        take .read
        return (.ofBytes left.remaining, some (Int.ofNat left.remaining.length))
      else return (left, none)

end

/-- How many bytes are left, and the source after finding out. -/
def measure (source : Source) : Option Nat × Source :=
  Id.run (source.measureBy fun _ => pure ())

theorem measure_eq (source : Source) :
    source.measure =
      if source.isHeld then (some source.data.length, source)
      else if source.isSeekable then
        match source.tell? with
        | none => (none, source)
        | some position =>
          match source.seek? source.data.length with
          | none => (none, source)
          | some atEnd =>
            match atEnd.seek? position with
            | none => (none, atEnd)
            | some back =>
              (if position ≤ atEnd.position then some (atEnd.position - position) else none, back)
      else (none, source) := rfl

/-- The length that the caller declared, or else what can be found out. -/
def contentLength (source : Source) (sizeHint : Option Int) : Option Int :=
  match sizeHint with
  | some size => some size
  | none => source.measure.1.map Int.ofNat

/-- A payload that was prepared, whatever it took. -/
def prepared (needsLength : Bool) (source : Source) (sizeHint : Option Int) :
    Source × Option Int :=
  Id.run (source.prepareBy (fun _ => pure ()) needsLength sizeHint)

private theorem prepared_none (needsLength : Bool) (source : Source) :
    source.prepared needsLength none =
      match source.measure with
      | (some length, left) => (left, some (Int.ofNat length))
      | (none, left) =>
        if needsLength then (.ofBytes left.remaining, some (Int.ofNat left.remaining.length))
        else (left, none) := rfl

section

variable {m : Type → Type} [Monad m] [LawfulMonad m]

theorem measureBy_silent (source : Source) :
    source.measureBy (fun _ => pure ()) = (pure source.measure : m _) := by
  rw [measure_eq]
  unfold measureBy
  cases source.isHeld with
  | true => rfl
  | false =>
    cases source.isSeekable with
    | false => rfl
    | true =>
      cases source.tell? with
      | none => simp
      | some position =>
        cases source.seek? source.data.length with
        | none => simp
        | some atEnd => cases back : atEnd.seek? position <;> simp [back]

/-- Where the steps do nothing, only the payload is prepared. -/
theorem prepareBy_silent (needsLength : Bool) (source : Source) (sizeHint : Option Int) :
    source.prepareBy (fun _ => pure ()) needsLength sizeHint =
      (pure (source.prepared needsLength sizeHint) : m _) := by
  cases sizeHint with
  | some size => rfl
  | none =>
    rw [prepared_none]
    simp only [prepareBy, measureBy_silent, pure_bind]
    rcases source.measure with ⟨_ | length, left⟩ <;> cases needsLength <;> simp

end

@[simp] theorem measure_source (source : Source) : source.measure.2 = source := by
  obtain ⟨kind, data, position⟩ := source
  cases kind <;> rfl

theorem prepared_eq (needsLength : Bool) (source : Source) (sizeHint : Option Int) :
    source.prepared needsLength sizeHint =
      match source.contentLength sizeHint with
      | some length => (source, some length)
      | none =>
        if needsLength then (.ofBytes source.remaining, some source.remaining.length)
        else (source, none) := by
  cases sizeHint with
  | some size => rfl
  | none =>
    have unmoved := source.measure_source
    rw [prepared_none, contentLength]
    revert unmoved
    generalize source.measure = measured
    obtain ⟨_ | length, left⟩ := measured
    · rintro rfl
      rfl
    · rintro rfl
      rfl

/-- A payload that was read first is still whole. -/
@[simp] theorem remaining_prepared (needsLength : Bool) (source : Source) (sizeHint : Option Int) :
    (source.prepared needsLength sizeHint).1.remaining = source.remaining := by
  rw [prepared_eq]
  cases source.contentLength sizeHint <;> cases needsLength <;>
    simp [remaining, ofBytes, isHeld]

end Source

/-- A declared length must not be negative. -/
def ensureSizeHint (sizeHint : Option Int) : Except Failure Unit :=
  match sizeHint with
  | some size => if size < 0 then .error (.misuse .negativeSizeHint) else .ok ()
  | none => .ok ()

end ClaimCheck
