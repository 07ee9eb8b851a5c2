import LiveSync.Clock
import LiveSync.Json.Record

/-!
# Connection states

The states of a connection and the snapshot of it that callers may read at any time.
-/

namespace LiveSync

open LiveSync.Json

/-- The states of a connection. -/
inductive ConnectionState where
  /-- There is no connection, and none is wanted. -/
  | disconnected
  /-- The first attempt is under way. -/
  | connecting
  /-- The handshake succeeded. -/
  | connected
  /-- The connection was lost or an attempt failed, and another follows. -/
  | reconnecting
  /-- The attempts are used up. -/
  | failed
  deriving DecidableEq, Repr

namespace ConnectionState

/-- The word for a state. -/
def name : ConnectionState → String
  | disconnected => "disconnected"
  | connecting => "connecting"
  | connected => "connected"
  | reconnecting => "reconnecting"
  | failed => "failed"

/-- The state that a word stands for. -/
def ofName? (name : String) : Option ConnectionState :=
  [disconnected, connecting, connected, reconnecting, failed].find? fun s => s.name = name

/-- Is there a connection, or an attempt at one? -/
def isActive : ConnectionState → Bool
  | connecting | connected | reconnecting => true
  | disconnected | failed => false

/-- Read the word for a state. -/
def ofValue? (v : Value) : Option ConnectionState :=
  v.asName?.bind ofName?

end ConnectionState

/-- What callers may read of a connection. -/
structure Snapshot where
  /-- The state. -/
  state : ConnectionState := .disconnected
  /-- The id that the server assigned to the connection. -/
  socketId : Option String := none
  /-- The retries since the last handshake. -/
  attempt : Nat := 0
  /-- When the last heartbeat was sent. -/
  pingAt : Option Nat := none
  /-- When the last heartbeat was answered. -/
  pongAt : Option Nat := none
  deriving DecidableEq, Repr

end LiveSync
