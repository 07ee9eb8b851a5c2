import LiveSync.Clock

/-!
# Timeouts

The length of every timer that a client arms.
-/

namespace LiveSync

/-- How long each wait may take.  The defaults suit most servers. -/
structure Timeouts where
  /-- Opening a socket. -/
  connection : Nat := Span.ofSeconds 10
  /-- The server's handshake once the socket is open. -/
  handshake : Nat := Span.ofSeconds 5
  /-- The acknowledgement of a subscribe request. -/
  subscribe : Nat := Span.ofSeconds 5
  /-- The acknowledgement of an unsubscribe request. -/
  unsubscribe : Nat := Span.ofSeconds 5
  /-- The time between two heartbeats; zero turns them off. -/
  heartbeatInterval : Nat := Span.ofSeconds 25
  /-- The answer to a heartbeat; zero means that it does not matter. -/
  pong : Nat := Span.ofSeconds 10
  /-- How often the token monitor looks at the credential. -/
  tokenPoll : Nat := Span.ofSeconds 1
  /-- How long a new credential settles before it is used. -/
  tokenSettle : Nat := Span.ofMillis 250
  deriving DecidableEq, Repr

namespace Timeouts

/-- For servers on the same host. -/
def fast : Timeouts where
  connection := Span.ofSeconds 2
  handshake := Span.ofSeconds 2
  subscribe := Span.ofSeconds 2
  unsubscribe := Span.ofSeconds 2
  heartbeatInterval := Span.ofSeconds 10
  pong := Span.ofSeconds 4
  tokenPoll := Span.ofMillis 500
  tokenSettle := Span.ofMillis 100

/-- For networks with high latency. -/
def relaxed : Timeouts where
  connection := Span.ofSeconds 30
  handshake := Span.ofSeconds 15
  subscribe := Span.ofSeconds 15
  unsubscribe := Span.ofSeconds 15
  heartbeatInterval := Span.ofSeconds 45
  pong := Span.ofSeconds 20
  tokenPoll := Span.ofSeconds 2
  tokenSettle := Span.ofMillis 500

/-- For tests on a clock that stands still by itself. -/
def forTesting : Timeouts where
  connection := Span.ofSeconds 1
  handshake := Span.ofSeconds 1
  subscribe := Span.ofSeconds 3
  unsubscribe := Span.ofSeconds 3
  heartbeatInterval := Span.ofSeconds 30
  pong := Span.ofSeconds 10
  tokenPoll := Span.ofSeconds 1
  tokenSettle := Span.ofMillis 200

/-- A named set of timeouts. -/
def preset? (name : String) : Option Timeouts :=
  if name = "fast" then some fast
  else if name = "relaxed" then some relaxed
  else if name = "for_testing" then some forTesting
  else none

/-- Each timeout under its name in a settings file. -/
def toList (t : Timeouts) : List (String × Nat) :=
  [("connection_timeout", t.connection), ("handshake_timeout", t.handshake),
    ("subscribe_timeout", t.subscribe), ("unsubscribe_timeout", t.unsubscribe),
    ("heartbeat_interval", t.heartbeatInterval), ("pong_timeout", t.pong),
    ("token_poll_interval", t.tokenPoll), ("token_settle_delay", t.tokenSettle)]

/-- Set the timeout that goes by a name: a count of milliseconds, or of seconds for a name that
ends in `_secs`.  Unknown names change nothing. -/
def set (t : Timeouts) (name : String) (count : Nat) : Timeouts :=
  match name with
  | "connection_timeout" => { t with connection := Span.ofMillis count }
  | "connection_timeout_secs" => { t with connection := Span.ofSeconds count }
  | "handshake_timeout" => { t with handshake := Span.ofMillis count }
  | "subscribe_timeout" => { t with subscribe := Span.ofMillis count }
  | "subscribe_timeout_secs" => { t with subscribe := Span.ofSeconds count }
  | "unsubscribe_timeout" => { t with unsubscribe := Span.ofMillis count }
  | "heartbeat_interval" => { t with heartbeatInterval := Span.ofMillis count }
  | "heartbeat_interval_secs" => { t with heartbeatInterval := Span.ofSeconds count }
  | "pong_timeout" => { t with pong := Span.ofMillis count }
  | "pong_timeout_secs" => { t with pong := Span.ofSeconds count }
  | "token_poll_interval" => { t with tokenPoll := Span.ofMillis count }
  | "token_settle_delay" => { t with tokenSettle := Span.ofMillis count }
  | _ => t

end Timeouts

end LiveSync
