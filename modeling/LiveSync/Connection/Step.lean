import LiveSync.Connection.Turn

/-!
# The steps of the connection

`Connection.step` is the reaction of the connection to one input.  An input that does not fit the
state changes nothing.
-/

namespace LiveSync

open LiveSync.Json

namespace Turn

/-! ## Commands -/

/-- Start the first attempt.  Without a usable token nothing starts, and the reason is
published. -/
def beginConnect (t : Turn) : Turn :=
  match Credential.usable t.moment.token t.moment.seconds with
  | .error f => t.publishFault f
  | .ok _ =>
    ((t.mapSnapshot fun s => { s with attempt := 0 }).setRetry none).setState .connecting

/-- Stop for good: release what the server holds, fail every caller and remove every listener. -/
def tearDown (t : Turn) : Turn :=
  let t := t.dropAttempt
  let t :=
    if t.conn.socket.isSome then
      t.closeGracefully.publish EventName.disconnect
        (DisconnectReason.toValue { message := "Client shut down" })
    else t
  let t := t.stopHeartbeat
  let t := t.setRegistry (t.conn.registry.clear .cancelled)
  let t := ((t.setRetry none).setState .disconnected).effect .clearListeners
  { t with conn := { t.conn with stopped := true } }

/-- Tell how a subscription stands. -/
def tellStanding (t : Turn) (entity : String) (ticket : Ticket) : Turn :=
  t.answer ticket (.info (t.conn.registry.standing? entity))

/-- A command while there is no connection.  Subscriptions are queued as long as an attempt is
under way or planned. -/
def commandOffline (t : Turn) (c : Command) : Turn :=
  match c with
  | .connect =>
    match t.conn.state with
    | .disconnected | .failed => t.beginConnect
    | _ => t
  | .disconnect => if t.conn.state = .disconnected then t else t.goDisconnected
  | .emit _ _ ticket => t.answer ticket (.emitted (.error .notConnected))
  | .subscribe entity ticket =>
    if t.conn.state.isActive then
      t.setRegistry (t.conn.registry.subscribe entity ticket t.moment.now false).2
    else t.answer ticket (.subscribed (.error .notConnected))
  | .unsubscribe entity ticket =>
    t.setRegistry (t.conn.registry.unsubscribe entity ticket t.moment.now false).2
  | .info entity ticket => t.tellStanding entity ticket
  | .shutdown => t.tearDown

/-- Send an event for a caller.  A fault of the transport means that the connection is lost; any
other is the caller's alone. -/
def emitFor (t : Turn) (event : String) (payload : Value) (ticket : Ticket) : Turn :=
  let (outcome, t) := t.send event payload
  let t := t.answer ticket (.emitted outcome)
  match outcome with
  | .error (.transport _) => t.lose { message := "Send failed" } false
  | _ => t

/-- Change the registry and send the request that the change calls for. -/
def requestAfter (t : Turn) (change : Bool × List Reply × Registry) (operation : Operation)
    (entity : String) : Turn :=
  let t := t.setRegistry change.2
  if change.1 then t.request operation entity else t

/-- A command while there is a connection. -/
def commandConnected (t : Turn) (c : Command) : Turn :=
  match c with
  | .connect => t
  | .disconnect =>
    (t.closeGracefully.publish EventName.disconnect
      (DisconnectReason.toValue { message := "Client disconnected" })).goDisconnected
  | .emit event payload ticket => t.emitFor event payload ticket
  | .subscribe entity ticket =>
    t.requestAfter (t.conn.registry.subscribe entity ticket t.moment.now true) .subscribe entity
  | .unsubscribe entity ticket =>
    t.requestAfter (t.conn.registry.unsubscribe entity ticket t.moment.now true) .unsubscribe
      entity
  | .info entity ticket => t.tellStanding entity ticket
  | .shutdown => t.tearDown

/-! ## Attempts -/

/-- An attempt begins: without a usable token it is abandoned. -/
def beginAttempt (t : Turn) : Turn :=
  match Credential.usable t.moment.token t.moment.seconds with
  | .error f => (t.publishFault f).goDisconnected
  | .ok token => { t with conn := { t.conn with attempt := some (.ready token) } }

/-- Ask the transport for a socket. -/
def dial (t : Turn) (token : String) : Turn :=
  let timeout := t.conn.config.timeouts.connection
  let deadline := if Span.isUnbounded timeout then none else some (t.moment.now + timeout)
  { t with conn := { t.conn with attempt := some (.opening deadline) } }.effect
    (.dial t.conn.config.url token)

/-- There is a socket: wait for the handshake on it. -/
def awaitHandshake (t : Turn) (socket : SocketNumber) : Turn :=
  let timeout := t.conn.config.timeouts.handshake
  let wait := if Span.isUnbounded timeout then Span.farFuture else timeout
  { t with conn := { t.conn with attempt := some (.handshaking socket (t.moment.now + wait)) } }

/-- The payload that announces a connection. -/
def connectNotice (socketId : Option String) : Value :=
  .ofPairs [("socketId", .ofOption .string socketId)]

/-- Ask for the subscription to one entity again, if the connection is still there. -/
def requestAgain (t : Turn) (entity : String) : Turn :=
  if t.conn.socket.isSome then t.request .subscribe entity else t

/-- The handshake is complete: there is a connection.  Every subscription that waits goes out. -/
def establish (t : Turn) (socket : SocketNumber) (socketId : Option String) : Turn :=
  let c := t.conn
  let t := { t with conn := { c with
    socket := some socket
    attempt := none
    retryAt := none
    snapshot := { c.snapshot with socketId := socketId, attempt := 0 }
    dedup := c.dedup.clear
    heartbeat := c.heartbeat.start t.moment.now } }
  let t := (t.setState .connected).publish EventName.connect (connectNotice socketId)
  let (entities, registry) := t.conn.registry.reissue t.moment.now
  entities.foldl requestAgain (t.setRegistry ([], registry))

/-- What an item from the socket means for the handshake. -/
inductive Verdict where
  /-- Nothing: the handshake goes on. -/
  | goOn
  /-- The handshake is complete. -/
  | established (socketId : Option String)
  /-- The handshake failed. -/
  | failed (f : Fault)
  deriving DecidableEq

/-- The text in a field of a payload, or another text. -/
def textField (payload : Value) (field default : String) : String :=
  (payload.getString? field).getD default

/-- Judge an item from the socket: only `connect`, `connect_error`, the end of the connection and
a fault decide. -/
def judge (item : Except Fault Incoming) : Verdict :=
  match item with
  | .error f => .failed f
  | .ok (.closed reason) =>
    if DisconnectReason.endsSession reason.message then
      .failed (.authentication ("Server refused the session: " ++ reason.text))
    else .failed (.transport ("Connection closed during handshake: " ++ reason.text))
  | .ok (.text frame) =>
    match Frame.decode frame with
    | .error _ => .goOn
    | .ok e =>
      if e.event = EventName.connect then .established (Payload.socketId? e.data)
      else if e.event = EventName.connectError then
        .failed (.authentication (textField e.data "message" "Connection refused by server"))
      else .goOn

/-- The server said something before the handshake was complete. -/
def shakeHands (t : Turn) (socket : SocketNumber) (item : Except Fault Incoming) : Turn :=
  match judge item with
  | .goOn => t
  | .established socketId => t.establish socket socketId
  | .failed f => t.attemptFailed f

/-! ## Frames of an established connection -/

/-- The payload that announces a failed subscription request. -/
def subscriptionNotice (entity : String) (operation : Operation) (message : String) : Value :=
  .ofPairs [("entityId", .string entity), ("operation", .string operation.name),
    ("message", .string message)]

/-- Answer the ping of the server.  If that fails nothing follows from it. -/
def onPing (t : Turn) (payload : Value) : Turn :=
  (t.send EventName.pong payload).2

/-- Take an answer to a heartbeat. -/
def onPong (t : Turn) (payload : Value) : Turn :=
  let (accepted, heartbeat) := t.conn.heartbeat.onPong payload t.moment.now
  let t := { t with conn := { t.conn with heartbeat := heartbeat } }
  if accepted then
    (t.mapSnapshot fun s => { s with pongAt := heartbeat.lastAck }).publishSnapshot
  else t

/-- The server acknowledged a subscription, or refused it if the payload has an `error`. -/
def onSubscribeAck (t : Turn) (payload : Value) : Turn :=
  match Payload.entityId? payload with
  | none => t
  | some entity =>
    match payload.getString? "error" with
    | some why =>
      (t.setRegistry (t.conn.registry.reject entity why).2).publish EventName.subscriptionError
        (subscriptionNotice entity .subscribe why)
    | none =>
      let watchers := (Payload.watchers? payload).getD []
      t.setRegistry (t.conn.registry.acknowledge entity watchers).2

/-- The server released a subscription. -/
def onUnsubscribeAck (t : Turn) (payload : Value) : Turn :=
  match Payload.entityId? payload with
  | none => t
  | some entity => t.setRegistry (t.conn.registry.release entity).2

/-- The server reported the watchers of an entity. -/
def onWatchersChanged (t : Turn) (payload : Value) : Turn :=
  match Payload.entityId? payload, Payload.watchers? payload with
  | some entity, some watchers =>
    t.setRegistry ([], (t.conn.registry.setWatchers entity watchers).2)
  | _, _ => t

/-- The server assigned a socket id. -/
def onConnect (t : Turn) (payload : Value) : Turn :=
  match Payload.socketId? payload with
  | none => t
  | some id => (t.mapSnapshot fun s => { s with socketId := some id }).publishSnapshot

/-- What an event means for the connection itself. -/
def absorb (t : Turn) (event : String) (payload : Value) : Turn :=
  if event = EventName.ping then t.onPing payload
  else if event = EventName.pong then t.onPong payload
  else if event = EventName.subscribeAck then t.onSubscribeAck payload
  else if event = EventName.unsubscribeAck then t.onUnsubscribeAck payload
  else if event = EventName.watchersChanged then t.onWatchersChanged payload
  else if event = EventName.connect then t.onConnect payload
  else t

/-- Tell listeners of an event from the server, unless it is a repetition. -/
def route (t : Turn) (event : String) (payload : Value) : Turn :=
  let (held, dedup) := t.conn.dedup.offer event payload t.moment.now
  let t := { t with conn := { t.conn with dedup := dedup } }
  if held then t else t.publish event payload

/-- An event from the server.  `connect_error` and `disconnect` end the connection; all else is
absorbed and then routed. -/
def onEvent (t : Turn) (event : String) (payload : Value) : Turn :=
  if event = EventName.connectError then
    (t.publish EventName.connectError payload).lose
      { message := textField payload "message" "connect_error" } true
  else if event = EventName.disconnect then
    let message := textField payload "reason" "server disconnect"
    t.lose { message := message } (DisconnectReason.endsSession message)
  else (t.absorb event payload).route event payload

/-- A text frame; what is no frame of the protocol is ignored. -/
def onFrame (t : Turn) (frame : String) : Turn :=
  match Frame.decode frame with
  | .error _ => t
  | .ok e => t.onEvent e.event (t.conn.normalizer.inbound e.data)

/-- The socket of the connection delivered something, or failed. -/
def receive (t : Turn) (item : Except Fault Incoming) : Turn :=
  match item with
  | .ok (.text frame) => t.onFrame frame
  | .ok (.closed reason) => t.lose reason (DisconnectReason.endsSession reason.message)
  | .error f => (t.publishFault f).lose { message := f.message } false

/-! ## Timers -/

/-- Do what the heartbeat asks for. -/
def beat (t : Turn) : Turn :=
  let (action, heartbeat) := t.conn.heartbeat.poll t.moment.now
  let t := { t with conn := { t.conn with heartbeat := heartbeat } }
  match action with
  | .idle => t
  | .ping seq =>
    let t := (t.mapSnapshot fun s => { s with pingAt := heartbeat.lastSent }).publishSnapshot
    match t.send EventName.ping (Heartbeat.pingPayload seq) with
    | (.ok (), t) => t
    | (.error f, t) => t.lose { message := "Failed to send heartbeat: " ++ f.message } false
  | .expired =>
    (t.publishError "Heartbeat timeout: server unresponsive" true).lose
      { message := "heartbeat timeout" } false

/-- Announce a request that was not acknowledged in time. -/
def announceOverdue (t : Turn) (e : String × Operation) : Turn :=
  t.publish EventName.subscriptionError (subscriptionNotice e.1 e.2 "Acknowledgement timed out")

/-- Drop the requests that were not acknowledged in time. -/
def expireRequests (t : Turn) : Turn :=
  let (overdue, change) := t.conn.registry.expire t.moment.now
  overdue.foldl announceOverdue (t.setRegistry change)

/-! ## The reaction to an input -/

/-- React to an input while there is no connection and no attempt at one. -/
def stepIdle (t : Turn) (i : Input) : Turn :=
  match i with
  | .command c => t.commandOffline c
  | .commandsClosed => t.tearDown
  | _ => t

/-- React to an input while the next attempt is put off. -/
def stepBackoff (t : Turn) (i : Input) : Turn :=
  match i with
  | .command c => t.commandOffline c
  | .commandsClosed => t.tearDown
  | .retryDue => t.setRetry none
  | _ => t

/-- React to an input while an attempt is under way or due. -/
def stepAttempt (t : Turn) (i : Input) : Turn :=
  match i, t.conn.attempt with
  | .attempt, none => t.beginAttempt
  | _, none => t
  | .command c, some _ => t.commandOffline c
  | .commandsClosed, some _ => t.tearDown
  | .dial, some (.ready token) => t.dial token
  | .opened (.ok socket), some (.opening _) => t.awaitHandshake socket
  | .opened (.error f), some (.opening _) => t.attemptFailed f
  | .openTimedOut, some (.opening _) =>
    t.attemptFailed
      (.timeout ("Connection timeout (" ++ Span.text t.conn.config.timeouts.connection ++ ")"))
  | .received item, some (.handshaking socket _) => t.shakeHands socket item
  | .handshakeTimedOut, some (.handshaking _ _) =>
    t.attemptFailed
      (.timeout ("Handshake timeout (" ++ Span.text t.conn.config.timeouts.handshake ++ ")"))
  | _, _ => t

/-- React to an input while there is a connection. -/
def stepConnected (t : Turn) (i : Input) : Turn :=
  match i with
  | .command c => t.commandConnected c
  | .commandsClosed => t.tearDown
  | .received item => t.receive item
  | .heartbeatDue => t.beat
  | .acknowledgementDue => t.expireRequests
  | _ => t

/-- React to an input. -/
def step (t : Turn) (i : Input) : Turn :=
  if t.conn.stopped then t
  else
    match t.conn.state with
    | .disconnected | .failed => t.stepIdle i
    | .connected => t.stepConnected i
    | .connecting | .reconnecting =>
      if t.conn.retryAt.isSome then t.stepBackoff i else t.stepAttempt i

end Turn

namespace Connection

/-- The reaction of the connection to an input: its next state and the effects, in order. -/
def step (c : Connection) (m : Moment) (i : Input) : Connection × List Effect :=
  let t := Turn.step { conn := c, moment := m } i
  (t.conn, t.effects)

/-- The reactions to several inputs, one after the other. -/
def run (c : Connection) : List (Moment × Input) → Connection × List Effect
  | [] => (c, [])
  | (m, i) :: rest =>
    let (c, effects) := c.step m i
    let (c, later) := c.run rest
    (c, effects ++ later)

end Connection

end LiveSync
