import LiveSync.Clock
import LiveSync.Json.Value

/-!
# Heartbeat

While a heartbeat runs it asks for a ping every interval and waits for the answer.  It keeps no
timer: its owner sleeps until `nextDeadline` and then calls `poll`.  At most one ping is
outstanding, and an answer that is missing for the pong timeout means that the peer is gone.
-/

namespace LiveSync

open LiveSync.Json

/-- A ping whose answer is awaited. -/
structure Ping where
  /-- The number of the ping. -/
  seq : Nat
  /-- When the answer is overdue. -/
  deadline : Nat
  deriving DecidableEq

/-- What the owner of a heartbeat has to do. -/
inductive HeartbeatAction where
  /-- Nothing. -/
  | idle
  /-- Send the ping of that number. -/
  | ping (seq : Nat)
  /-- Give the connection up: no answer came in time. -/
  | expired
  deriving DecidableEq

/-- The liveness probe of one connection task. -/
structure Heartbeat where
  /-- The time between two pings; zero turns the probe off. -/
  interval : Nat
  /-- The time an answer may take; zero means that answers do not matter. -/
  pongTimeout : Nat
  /-- Is the probe running? -/
  running : Bool
  /-- When the next ping is due. -/
  nextPing : Option Nat
  /-- The ping whose answer is awaited. -/
  outstanding : Option Ping
  /-- The number of the last ping. -/
  seq : Nat
  /-- When the last ping was sent. -/
  lastSent : Option Nat
  /-- When the last ping that was answered got its answer. -/
  lastAck : Option Nat
  deriving DecidableEq

namespace Heartbeat

/-- A heartbeat that does not run yet. -/
def new (interval pongTimeout : Nat) : Heartbeat :=
  ⟨interval, pongTimeout, false, none, none, 0, none, none⟩

/-- Can the heartbeat run at all? -/
def isEnabled (h : Heartbeat) : Bool :=
  h.interval ≠ 0

/-- Start over: the first ping is due one interval from now. -/
def start (h : Heartbeat) (now : Nat) : Heartbeat :=
  if h.isEnabled then
    { h with running := true, outstanding := none, nextPing := some (now + h.interval) }
  else h

/-- Stop, and forget the ping that is outstanding. -/
def stop (h : Heartbeat) : Heartbeat :=
  { h with running := false, nextPing := none, outstanding := none }

/-- The earliest instant at which there is something to do. -/
def nextDeadline (h : Heartbeat) : Option Nat :=
  if h.running then Instant.earliest h.nextPing (h.outstanding.map (·.deadline)) else none

/-- The payload of a ping. -/
def pingPayload (seq : Nat) : Value :=
  .ofPairs [("seq", .ofNat seq)]

/-- The ping that is outstanding once a ping was sent. -/
def awaited (h : Heartbeat) (now : Nat) : Option Ping :=
  if h.pongTimeout = 0 then none else some ⟨h.seq + 1, now + h.pongTimeout⟩

/-- Do what is due now. -/
def poll (h : Heartbeat) (now : Nat) : HeartbeatAction × Heartbeat :=
  if !h.running then (.idle, h)
  else if h.outstanding.any (fun p => decide (p.deadline ≤ now)) then (.expired, h.stop)
  else if h.nextPing.any (fun due => decide (due ≤ now)) then
    let h := { h with nextPing := some (now + h.interval) }
    -- while an answer is missing its deadline governs, and no other ping is sent
    if h.outstanding.isSome then (.idle, h)
    else (.ping (h.seq + 1),
      { h with seq := h.seq + 1, lastSent := some now, outstanding := h.awaited now })
  else (.idle, h)

/-- The ping that an answer names; an answer that names none answers whatever is outstanding. -/
def answers (p : Ping) (payload : Value) : Bool :=
  match (payload.get? "seq").bind Value.asNat? with
  | some seq => seq = p.seq
  | none => true

/-- Take an answer.  The result is `true` if it answers the outstanding ping. -/
def onPong (h : Heartbeat) (payload : Value) (now : Nat) : Bool × Heartbeat :=
  match h.outstanding with
  | none => (false, h)
  | some p =>
    if answers p payload then (true, { h with outstanding := none, lastAck := some now })
    else (false, h)

end Heartbeat

end LiveSync
