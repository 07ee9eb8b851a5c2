import LiveSync.Connection.Basic

/-!
# Turns of the connection

A turn is the reaction to one input while it is under way: the state so far, the moment, and the
effects so far in their order.  This file has the steps of which reactions are made: publishing,
sending, changing the state, losing the connection and retrying.
-/

namespace LiveSync

open LiveSync.Json

/-- A reaction that is under way. -/
structure Turn where
  /-- The state so far. -/
  conn : Connection
  /-- The circumstances. -/
  moment : Moment
  /-- The effects so far, in order. -/
  effects : List Effect := []
  /-- How many frames were written so far, or failed to be. -/
  sends : Nat := 0

namespace Turn

/-! ## Effects -/

/-- Add an effect. -/
def effect (t : Turn) (e : Effect) : Turn :=
  { t with effects := t.effects ++ [e] }

/-- Tell listeners of an event. -/
def publish (t : Turn) (event : String) (payload : Value) : Turn :=
  t.effect (.publish event payload)

/-- Give a caller its answer. -/
def answer (t : Turn) (ticket : Ticket) (answer : Answer) : Turn :=
  t.effect (.reply ticket answer)

/-- Give callers their answers. -/
def answerAll (t : Turn) (replies : List Reply) : Turn :=
  { t with effects := t.effects ++ replies.map fun r => .reply r.1 r.2 }

/-- Let callers read the present snapshot. -/
def publishSnapshot (t : Turn) : Turn :=
  { t with conn := { t.conn with published := t.conn.snapshot } }.effect (.snapshot t.conn.snapshot)

/-- Change the snapshot without letting callers read it yet. -/
def mapSnapshot (t : Turn) (f : Snapshot → Snapshot) : Turn :=
  { t with conn := { t.conn with snapshot := f t.conn.snapshot } }

/-- Replace the registry and give the answers that go with it. -/
def setRegistry (t : Turn) (change : List Reply × Registry) : Turn :=
  { t with conn := { t.conn with registry := change.2 } }.answerAll change.1

/-- Publish an error of the connection. -/
def publishError (t : Turn) (message : String) (recoverable : Bool) : Turn :=
  t.publish EventName.connectionError (ConnectionError.toValue ⟨message, recoverable⟩)

/-- Publish a fault as an error of the connection. -/
def publishFault (t : Turn) (f : Fault) : Turn :=
  t.publishError f.message f.isRecoverable

/-! ## Sending -/

/-- Send an event, with its payload in the case of the wire. -/
def send (t : Turn) (event : String) (payload : Value) : Except Fault Unit × Turn :=
  match t.conn.socket with
  | none => (.error .notConnected, t)
  | some socket =>
    let envelope : Envelope := ⟨event, t.conn.normalizer.outbound payload⟩
    let fault := t.moment.sendFault t.sends
    let t := { t with sends := t.sends + 1 }.effect (.frame socket envelope fault)
    match fault with
    | none => (.ok (), t)
    | some f => (.error f, t)

/-! ## Changing the state -/

/-- The payload that announces a change of state. -/
def stateChange (state previous : ConnectionState) : Value :=
  .ofPairs [("state", .string state.name), ("previousState", .string previous.name)]

/-- Enter a state: callers can read it before listeners are told.  Nothing happens if it is the
present state. -/
def setState (t : Turn) (state : ConnectionState) : Turn :=
  let previous := t.conn.state
  if previous = state then t
  else
    let forget (s : Snapshot) : Snapshot :=
      { s with state := state, socketId := if state = .connected then s.socketId else none }
    ((t.mapSnapshot forget).publishSnapshot).publish EventName.stateChanged
      (stateChange state previous)

/-- Stop the heartbeat. -/
def stopHeartbeat (t : Turn) : Turn :=
  { t with conn := { t.conn with heartbeat := t.conn.heartbeat.stop } }

/-- Let every subscription wait for the next connection. -/
def demoteAll (t : Turn) : Turn :=
  t.setRegistry t.conn.registry.demoteAll

/-- Give up the attempt that is under way, and close its socket. -/
def dropAttempt (t : Turn) : Turn :=
  let t' := { t with conn := { t.conn with attempt := none } }
  match t.conn.attempt with
  | some (.handshaking socket _) => t'.effect (.close socket)
  | _ => t'

/-- Close the socket of the connection. -/
def closeSocket (t : Turn) : Turn :=
  match t.conn.socket with
  | none => t
  | some socket => { t with conn := { t.conn with socket := none } }.effect (.close socket)

/-- Set the instant of the next attempt. -/
def setRetry (t : Turn) (at? : Option Nat) : Turn :=
  { t with conn := { t.conn with retryAt := at? } }

/-- Be disconnected: nothing runs and nothing is planned, and callers that wait to be subscribed
are told that there is no connection. -/
def goDisconnected (t : Turn) : Turn :=
  let t := t.stopHeartbeat.demoteAll
  let t := t.setRegistry (t.conn.registry.failSubscribers .notConnected)
  (((t.dropAttempt).closeSocket).setRetry none).setState .disconnected

/-! ## Retrying -/

/-- The payload that announces a retry. -/
def retryNotice (attempt delayMs : Nat) : Value :=
  .ofPairs [("attempt", .ofNat attempt), ("delayMs", .ofNat delayMs)]

/-- Give up: the retries are used up. -/
def fail (t : Turn) (limit : Nat) : Turn :=
  let t := t.setRetry none
  let t := t.setRegistry (t.conn.registry.failSubscribers .notConnected)
  (t.setState .failed).publishError s!"Max reconnection attempts ({limit}) reached" false

/-- Plan the next attempt, unless reconnecting is off or the retries are used up. -/
def scheduleRetry (t : Turn) : Turn :=
  let options := t.conn.config.options
  let attempt := t.conn.snapshot.attempt
  if !options.autoReconnect then t.goDisconnected
  else
    match options.maxReconnectAttempts.filter (· ≤ attempt) with
    | some limit => t.fail limit
    | none =>
      let delay := options.retryDelayMs attempt t.moment.draw
      let t := t.mapSnapshot fun s => { s with attempt := attempt + 1 }
      let t := t.setRetry (some (t.moment.now + Span.ofMillis delay))
      let t := if t.conn.state = .reconnecting then t.publishSnapshot else t.setState .reconnecting
      t.publish EventName.reconnectAttempt (retryNotice (attempt + 1) delay)

/-- The connection is lost.  With `ended` the server will not take the credential again, so that
no retry follows. -/
def lose (t : Turn) (reason : DisconnectReason) (ended : Bool) : Turn :=
  let t := t.stopHeartbeat.demoteAll.closeSocket
  let t := t.publish EventName.disconnect reason.toValue
  if ended then
    (t.publishError ("Session ended by server: " ++ reason.message) false).goDisconnected
  else t.scheduleRetry

/-- An attempt failed. -/
def attemptFailed (t : Turn) (f : Fault) : Turn :=
  let t := t.dropAttempt.publishFault f
  if f.isRecoverable then t.scheduleRetry else t.goDisconnected

/-- Send a request of the subscription protocol; if that fails the connection is lost. -/
def request (t : Turn) (operation : Operation) (entity : String) : Turn :=
  match t.send operation.name (Payload.ofEntity entity) with
  | (.ok (), t) => t
  | (.error f, t) =>
    let message := "Failed to send " ++ operation.name ++ " for '" ++ entity ++ "': " ++ f.message
    t.lose { message := message } false

/-- Release what the server holds for this client, as far as that can be sent, and close the
socket. -/
def closeGracefully (t : Turn) : Turn :=
  let release (t : Turn) (entity : String) : Turn :=
    (t.send EventName.unsubscribe (Payload.ofEntity entity)).2
  (t.conn.registry.activeEntities.foldl release t).closeSocket

end Turn

end LiveSync
