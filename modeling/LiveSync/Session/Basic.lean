import LiveSync.Cache.Sync
import LiveSync.Client
import LiveSync.Connection.Step
import LiveSync.Router
import LiveSync.TokenMonitor
import LiveSync.Transport.Memory

/-!
# Sessions

A session is one client at work: its connection, the commands on their way to it, the network and
the server behind it, the listeners, the cache and the token monitor, all on one clock.  The tasks
of a session are the connection, the monitor and the timers of the cache; those that can go on wait
in a queue and take their turns one after the other.
-/

namespace LiveSync

open LiveSync.Json

/-- Who listens to an event. -/
inductive Party where
  /-- The bridge to the cache. -/
  | bridge
  /-- Writes down what it is told. -/
  | recorder
  /-- Fails whenever it is called. -/
  | failing
  deriving DecidableEq, Repr

/-- Who takes a turn. -/
inductive Task where
  /-- The connection. -/
  | connection
  /-- The token monitor. -/
  | monitor
  /-- A timer of the cache. -/
  | burst (timer : Cache.BurstTimer)
  deriving DecidableEq

/-- A token monitor at work. -/
structure Watch where
  /-- Its state. -/
  monitor : TokenMonitor
  /-- Has it not come to its end? -/
  running : Bool := true
  /-- When its timer was armed, in the order in which all timers are armed. -/
  stamp : Nat := 0

/-- A socket that is being opened. -/
structure Dialling where
  /-- The address. -/
  url : String
  /-- The credential. -/
  token : String
  /-- When the transport gets to it. -/
  readyAt : Nat

/-- An event as a listener was told of it. -/
structure Told where
  /-- When. -/
  time : Nat
  /-- The name of the event. -/
  event : String
  /-- The payload. -/
  payload : Value

/-- One client at work. -/
structure Session where
  /-- The time of the timers. -/
  now : Nat := 0
  /-- The time of day, in seconds of the epoch. -/
  seconds : Nat
  /-- What the credential store holds. -/
  token : Option String
  /-- The connection. -/
  connection : Connection
  /-- The commands that it has not taken yet. -/
  inbox : List Command := []
  /-- What is between the client and the server. -/
  network : Transport.Network := {}
  /-- How long the transport waits before it opens a socket. -/
  openDelay : Nat := 0
  /-- The socket that is being opened. -/
  dialling : Option Dialling := none
  /-- The faults of the next frames that the client sends. -/
  sendFaults : List Fault := []
  /-- The token monitor, until it is told to stop. -/
  watch : Option Watch := none
  /-- The listeners. -/
  router : Router Party := {}
  /-- The registrations of the bridge. -/
  bridgeHandles : List Handle := []
  /-- The cache. -/
  cache : Option Cache.Sync := none
  /-- Is the client held by its owner? -/
  clientHeld : Bool := true
  /-- Can a command still follow? -/
  commandsOpen : Bool := true
  /-- The callers that wait for an answer; each of them keeps the client alive. -/
  waiting : List Ticket := []
  /-- How many callers there were. -/
  calls : Nat := 0
  /-- The tasks that can go on, in the order of their turns. -/
  ready : List Task := [.connection]
  /-- How many timers were armed so far. -/
  armed : Nat := 0
  /-- When the timer of the connection was armed, in the order in which all timers are. -/
  connectionStamp : Nat := 0
  /-- The events that the recorder ever listened to. -/
  recorded : List String := []
  /-- What the recorder was told. -/
  told : List Told := []
  /-- The answers that callers got. -/
  replies : List Reply := []

namespace Session

/-! ## Turns and answers -/

/-- A task can go on; it takes its turn after those that wait already. -/
def wake (s : Session) (t : Task) : Session :=
  if s.ready.contains t then s else { s with ready := s.ready ++ [t] }

/-- Give a caller its answer. -/
def reply (s : Session) (r : Reply) : Session :=
  { s with replies := s.replies ++ [r], waiting := s.waiting.filter (· ≠ r.1) }

/-! ## Listeners -/

/-- Tell one listener of an event. -/
def tell (event : String) (payload : Value) (s : Session) : Party → Session
  | .recorder => { s with told := s.told ++ [⟨s.now, event, payload⟩] }
  | .bridge =>
    { s with
      cache := s.cache.map fun c => c.handle s.now s.armed event payload
      armed := s.armed + 1 }
  | .failing => s

/-- Tell the listeners of an event.  The result is the number of those that did not fail. -/
def publish (s : Session) (event : String) (payload : Value) : Nat × Session :=
  let parties := s.router.recipients event
  (parties.countP (· ≠ .failing), parties.foldl (tell event payload) s)

/-! ## Commands -/

/-- Has the connection stopped for good? -/
def isStopped (s : Session) : Bool :=
  s.connection.stopped

/-- Send a command to the connection. -/
def enqueue (s : Session) (c : Command) : Session :=
  { s with inbox := s.inbox ++ [c] }.wake .connection

/-- The bridge goes, and with it its listeners. -/
def dropBridge (s : Session) : Session :=
  { s with
    router := s.bridgeHandles.foldl Router.release s.router
    bridgeHandles := []
    cache := s.cache.map Cache.Sync.dropBridge }

/-- Without an owner and without callers that wait, the client is gone and no command will
follow. -/
def releaseClient (s : Session) : Session :=
  if s.commandsOpen && !s.clientHeld && s.waiting.isEmpty then
    ({ s with commandsOpen := false }.dropBridge).wake .connection
  else s

end Session

end LiveSync
