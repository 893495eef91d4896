import ClaimCheck.Cancellation
import ClaimCheck.Json.Basic
import ClaimCheck.Table

/-!
The connection to an object service, shared by any number of stores. Its client is opened on first
use, in a context that is entered before and left after.
-/
namespace ClaimCheck

/-- A setting of a client. -/
inductive Connection.Setting
  | json (value : Json)
  | addressingStyle (style : String)

/-- How clients are made, and their contexts entered and left. Contexts are numbered as they are
made. -/
structure Connection.Maker (κ : Type) where
  create : Table Connection.Setting → Action κ Unit
  enter : Nat → Action κ Unit
  exit : Nat → Action κ Unit

/-- A client has the number of its context. -/
structure Connection where
  settings : Table Connection.Setting
  made : Nat
  context : Option Nat
  client : Option Nat

namespace Connection

def defaultRegion : String := "us-east-1"

/-- Given settings come first, the endpoint over them; path-style addressing does not replace a
given style. -/
def ofParts (region : String) (endpointUrl : Option String) (pathStyle : Bool)
    (given : Table Setting) : Connection :=
  let settings := match endpointUrl with
    | some url => if url.isEmpty then given else given.set "endpoint_url" (.json (.text url))
    | none => given
  let settings := if pathStyle && !settings.contains "config" then
      settings.set "config" (.addressingStyle "path") else settings
  ⟨settings.set "region_name" (.json (.text region)), 0, none, none⟩

def endpointUrl (connection : Connection) : Option Json :=
  match connection.settings.get? "endpoint_url" with
  | some (.json value) => some value
  | _ => none

variable {κ : Type}

/-- Make a context, which from now on is the one to be closed. -/
def begin (maker : Maker κ) : Action (Connection × κ) Nat := do
  let (connection, _) ← Action.inspect id
  (maker.create connection.settings).on .second
  Action.update fun state =>
    ({ state.1 with made := state.1.made + 1, context := some state.1.made }, state.2)
  return connection.made

/-- Enter a context; the client that comes of it is the one in use. -/
def finish (maker : Maker κ) (context : Nat) : Action (Connection × κ) Nat := do
  (maker.enter context).on .second
  Action.update fun state => ({ state.1 with client := some context }, state.2)
  return context

/-- The client in use; one is opened if there is none. -/
def getClient (maker : Maker κ) : Action (Connection × κ) Nat := do
  let (connection, _) ← Action.inspect id
  match connection.client with
  | some client => return client
  | none =>
    let context ← begin maker
    finish maker context

/-- Leave the context; later uses open another one. -/
def close (maker : Maker κ) : Action (Connection × κ) Unit := do
  let (connection, _) ← Action.inspect id
  match connection.context with
  | some context =>
    (maker.exit context).on .second
    Action.update fun state => ({ state.1 with context := none, client := none }, state.2)
  | none => return ()

/-- Whether a probe succeeds. Every failure but a cancellation means no. -/
def health (maker : Maker κ) (probe : Call κ Unit) : Action (Connection × κ) Bool :=
  Action.recover
    (do
      let _ ← getClient maker
      (probe.on .second).await
      return true)
    fun failure =>
      if failure.isCancelled || failure == .stalled then throw failure else return false

end Connection
end ClaimCheck
