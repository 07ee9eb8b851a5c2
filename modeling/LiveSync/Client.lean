import LiveSync.Connection.Basic
import LiveSync.Endpoint
import LiveSync.Text.Blank

/-!
# Clients

A client is a handle to one connection.  This file says what a client is built from and how the
calls on it become commands to the connection: calls with a blank argument never get there.
-/

namespace LiveSync

open LiveSync.Json

/-! ## Building -/

/-- What a client is built from. -/
structure Blueprint where
  /-- The address of the server. -/
  baseUrl : Option String := none
  /-- Is there a store of credentials? -/
  hasCredentials : Bool := false
  /-- The settings of the connection. -/
  options : Options := {}
  /-- The length of each wait. -/
  timeouts : Timeouts := {}

/-- The configuration of the connection that a client drives.  The task of the connection needs a
runtime to run in. -/
def Blueprint.config (b : Blueprint) (inRuntime : Bool) : Except Fault Config :=
  match b.baseUrl with
  | none => .error (.configuration "base_url is required")
  | some base =>
    if b.hasCredentials then do
      let url ← Endpoint.resolve base b.options.wsPath
      if inRuntime then return { url := url, options := b.options, timeouts := b.timeouts }
      else .error (.configuration "TriageLinkClient must be built inside a tokio runtime")
    else .error (.configuration "credential_store is required")

/-! ## Calls -/

/-- A call whose answer is awaited. -/
inductive Request where
  /-- Subscribe to an entity. -/
  | subscribe (entity : String)
  /-- Release the subscription to an entity. -/
  | unsubscribe (entity : String)
  /-- Ask how the subscription to an entity stands. -/
  | info (entity : String)
  /-- Send an event. -/
  | emit (event : String) (payload : Value)

namespace Request

/-- The entity that an argument names: blanks around it do not count, and something else must be
there. -/
def entity? (argument : String) : Except Fault String :=
  let entity := Text.trim argument
  if entity.isEmpty then .error (.invalidArgument "Entity id must not be empty") else .ok entity

/-- The command that a call sends to the connection, or why it sends none. -/
def command (ticket : Ticket) : Request → Except Fault Command
  | subscribe argument => (entity? argument).map (.subscribe · ticket)
  | unsubscribe argument => (entity? argument).map (.unsubscribe · ticket)
  | info entity => .ok (.info entity ticket)
  | emit event payload =>
    if (Text.trim event).isEmpty then
      .error (.invalidArgument "Event name must not be empty")
    else .ok (.emit event payload ticket)

/-- The answer to a call that failed. -/
def failed (f : Fault) : Request → Answer
  | subscribe _ => .subscribed (.error f)
  | unsubscribe _ => .unsubscribed (.error f)
  | info _ => .info none
  | emit _ _ => .emitted (.error f)

end Request

/-- The fault of a call on a connection that has stopped. -/
def Fault.stopped : Fault := .internal "Connection task is not running"

/-- The caller that a command comes from, and the answer that it gets when the command is never
taken from the queue. -/
def Command.abandoned : Command → Option Reply
  | .emit _ _ ticket => some (ticket, .emitted (.error .cancelled))
  | .subscribe _ ticket => some (ticket, .subscribed (.error .cancelled))
  | .unsubscribe _ ticket => some (ticket, .unsubscribed (.error .cancelled))
  | .info _ ticket => some (ticket, .info none)
  | .connect | .disconnect | .shutdown => none

end LiveSync
