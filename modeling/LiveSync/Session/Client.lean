import LiveSync.Session.Basic

/-!
# The client's side of a session

Building the client, the calls of its owner, and what the owner does to the credential store and to
the listeners.
-/

namespace LiveSync

open LiveSync.Json

namespace Session

/-! ## Building -/

/-- The events that the recorder listens to. -/
def recordedEvents : List String :=
  [EventName.connect, EventName.disconnect, EventName.connectError, EventName.reconnectAttempt,
    EventName.ping, EventName.pong, EventName.subscribeAck, EventName.unsubscribeAck,
    EventName.watchersChanged, EventName.entityCreated, EventName.entityUpdated,
    EventName.entityDeleted, EventName.commentAdded, EventName.reactionChanged,
    EventName.jobProgress, EventName.stateChanged, EventName.connectionError,
    EventName.subscriptionError]

/-- Register a listener for good. -/
def listen (party : Party) (s : Session) (event : String) : Session :=
  { s with router := (s.router.on event party).2 }

/-- Register the recorder. -/
def record (s : Session) (event : String) : Session :=
  { listen .recorder s event with recorded := event :: s.recorded }

/-- Attach the bridge: one listener for each rule. -/
def attachBridge (s : Session) (events : List String) : Session :=
  events.foldl (fun s event =>
    let (handle, router) := s.router.on event .bridge
    { s with router := router, bridgeHandles := s.bridgeHandles ++ [handle] }) s

/-- A client that was just built, with its cache and its listeners. -/
def new (config : Config) (token : Option String) (seconds : Nat) (cache : Option Cache.Sync)
    (failing recorded : List String) : Session :=
  let s : Session :=
    { seconds := seconds, token := token, connection := Connection.new config, cache := cache }
  let rules := ((cache.bind (·.bridge)).map (·.rules)).getD []
  let s := s.attachBridge (rules.map (·.1))
  let s := failing.foldl (listen .failing) s
  (recordedEvents ++ recorded).foldl record s

/-! ## Calls -/

/-- Send a command that nobody waits for. -/
def send (s : Session) (c : Command) : Except Fault Unit × Session :=
  if s.isStopped then (.error .stopped, s) else (.ok (), s.enqueue c)

/-- Make a call.  The result is the number of the caller. -/
def call (s : Session) (r : Request) : Ticket × Session :=
  let ticket := s.calls
  let s := { s with calls := ticket + 1 }
  match r.command ticket with
  | .error f => (ticket, s.reply (ticket, r.failed f))
  | .ok c =>
    if s.isStopped then (ticket, s.reply (ticket, r.failed .stopped))
    else (ticket, { s with waiting := s.waiting ++ [ticket] }.enqueue c)

/-- The owner drops the client. -/
def dropClient (s : Session) : Session :=
  { s with clientHeld := false }.releaseClient

/-! ## Listeners, credentials and the monitor -/

/-- Remove the recorder from an event.  The result tells whether it listened, unless it never
did. -/
def unrecord (s : Session) (event : String) : Option Bool × Session :=
  if s.recorded.contains event then
    let (found, router) := s.router.off event .recorder
    (some found, { s with router := router })
  else (none, s)

/-- Replace what the credential store holds. -/
def setToken (s : Session) (token : Option String) : Session :=
  { s with token := token }

/-- Start a token monitor; one that runs is stopped. -/
def startMonitor (s : Session) : Session :=
  let t := s.connection.config.timeouts
  { s with watch := some { monitor := TokenMonitor.start t.tokenPoll t.tokenSettle s.now } }.wake
    .monitor

/-- Stop the token monitor.  The result tells whether there was one. -/
def stopMonitor (s : Session) : Bool × Session :=
  (s.watch.isSome, { s with watch := none })

end Session

end LiveSync
