import LiveSync.Connection.State
import LiveSync.Credential
import LiveSync.Dedup
import LiveSync.Frame
import LiveSync.Heartbeat
import LiveSync.Notice
import LiveSync.Options
import LiveSync.Payload.Normalizer
import LiveSync.Registry
import LiveSync.Timeouts

/-!
# The connection: state, inputs and effects

One task owns the socket, the subscriptions, the heartbeat and the memory of repeated events.  It
is a machine: an input and the moment at which it is taken turn its state into the next one, and
have effects in a fixed order.  The machine itself does nothing; whoever runs it carries the
effects out and says what came of them by further inputs.
-/

namespace LiveSync

open LiveSync.Json

/-- Names a socket. -/
abbrev SocketNumber := Nat

/-! ## What comes in -/

/-- What the client handle asks for.  A ticket names the caller that waits for the answer. -/
inductive Command where
  /-- Connect. -/
  | connect
  /-- Disconnect, and do not reconnect. -/
  | disconnect
  /-- Send an event. -/
  | emit (event : String) (payload : Value) (ticket : Ticket)
  /-- Subscribe to an entity. -/
  | subscribe (entity : String) (ticket : Ticket)
  /-- Release the subscription to an entity. -/
  | unsubscribe (entity : String) (ticket : Ticket)
  /-- Tell how the subscription to an entity stands. -/
  | info (entity : String) (ticket : Ticket)
  /-- Stop for good. -/
  | shutdown

/-- What a socket delivers. -/
inductive Incoming where
  /-- A text frame. -/
  | text (frame : String)
  /-- The peer closed the connection. -/
  | closed (reason : DisconnectReason)
  deriving DecidableEq

/-- What the connection reacts to. -/
inductive Input where
  /-- A command was taken from the queue. -/
  | command (c : Command)
  /-- No command will follow: every handle is gone. -/
  | commandsClosed
  /-- The delay before a retry has passed. -/
  | retryDue
  /-- An attempt begins. -/
  | attempt
  /-- The attempt goes on and opens a socket. -/
  | dial
  /-- The transport has opened a socket, or failed to. -/
  | opened (outcome : Except Fault SocketNumber)
  /-- The transport did not open a socket in time. -/
  | openTimedOut
  /-- A socket delivered something, or failed. -/
  | received (item : Except Fault Incoming)
  /-- The server did not complete the handshake in time. -/
  | handshakeTimedOut
  /-- The heartbeat has something to do. -/
  | heartbeatDue
  /-- An acknowledgement is overdue. -/
  | acknowledgementDue

/-- The circumstances under which an input is taken. -/
structure Moment where
  /-- The time of the timers. -/
  now : Nat
  /-- The time of day, in seconds of the epoch. -/
  seconds : Nat
  /-- What the credential store holds. -/
  token : Option String
  /-- What befalls each frame that is sent: the first one, the second one, and so on. -/
  sendFault : Nat → Option Fault
  /-- The number drawn for the delay before a retry, from −1 to 1. -/
  draw : Float

/-! ## What goes out -/

/-- What whoever runs the connection has to carry out. -/
inductive Effect where
  /-- Callers read this snapshot from now on. -/
  | snapshot (s : Snapshot)
  /-- Listeners are told of an event. -/
  | publish (event : String) (payload : Value)
  /-- A frame is written on a socket; a fault says that it was not. -/
  | frame (socket : SocketNumber) (envelope : Envelope) (fault : Option Fault)
  /-- A caller gets its answer. -/
  | reply (ticket : Ticket) (answer : Answer)
  /-- The transport is asked for a socket. -/
  | dial (url token : String)
  /-- A socket is closed. -/
  | close (socket : SocketNumber)
  /-- All listeners are removed. -/
  | clearListeners

/-! ## The state -/

/-- What a connection is built with. -/
structure Config where
  /-- The address of the server. -/
  url : String
  /-- The settings. -/
  options : Options
  /-- The length of each wait. -/
  timeouts : Timeouts

/-- How far an attempt has come. -/
inductive Attempt where
  /-- There is a token, and a socket is opened next. -/
  | ready (token : String)
  /-- The transport opens a socket; the deadline may be missing. -/
  | opening (deadline : Option Nat)
  /-- The server has to complete the handshake on the socket. -/
  | handshaking (socket : SocketNumber) (deadline : Nat)
  deriving DecidableEq

/-- The state of the connection task. -/
structure Connection where
  /-- What it was built with. -/
  config : Config
  /-- Re-cases the payloads. -/
  normalizer : Payload.Normalizer
  /-- Holds repeated events back. -/
  dedup : DedupFilter
  /-- Probes the peer. -/
  heartbeat : Heartbeat
  /-- The subscriptions. -/
  registry : Registry
  /-- The snapshot as the task knows it. -/
  snapshot : Snapshot := {}
  /-- The snapshot as callers read it. -/
  published : Snapshot := {}
  /-- The socket of an established connection. -/
  socket : Option SocketNumber := none
  /-- When the next attempt may begin. -/
  retryAt : Option Nat := none
  /-- The attempt that is under way. -/
  attempt : Option Attempt := none
  /-- Has the task stopped for good? -/
  stopped : Bool := false

namespace Connection

/-- A connection that was just built. -/
def new (config : Config) : Connection :=
  let o := config.options
  { config := config
    normalizer := ⟨o.wireCase, o.internalCase, o.caseExclusions⟩
    dedup := DedupFilter.new (Span.ofMillis o.dedupWindowMs) o.dedupMaxEntries o.dedupEvents
    heartbeat := Heartbeat.new config.timeouts.heartbeatInterval config.timeouts.pong
    registry := Registry.new config.timeouts.subscribe config.timeouts.unsubscribe }

/-- The state of the connection. -/
def state (c : Connection) : ConnectionState :=
  c.snapshot.state

end Connection

end LiveSync
