import LiveSync.Clock
import LiveSync.Credential

/-!
# The token monitor

The monitor looks at the credential store at regular intervals and asks for a connection when a new
usable token is there, and for its end when there is none any more.  A new token is left to settle
first and then read again.  A poll that is late by more than the tolerance moves the following ones.
-/

namespace LiveSync

/-- What the monitor asks for. -/
inductive MonitorRequest where
  /-- Connect. -/
  | connect
  /-- Disconnect. -/
  | disconnect
  deriving DecidableEq, Repr

/-- The state of a token monitor. -/
structure TokenMonitor where
  /-- The time between two polls. -/
  period : Nat
  /-- How long a new token settles. -/
  settleDelay : Nat
  /-- The token that was adopted last. -/
  current : Option String := none
  /-- When the next poll is due. -/
  nextPoll : Nat
  /-- When the new token has settled, if one was seen. -/
  settledAt : Option Nat := none
  deriving DecidableEq, Repr

namespace TokenMonitor

/-- What is found when the credential store is read: its token, and the time of day in seconds. -/
structure Reading where
  /-- The token. -/
  token : Option String
  /-- The time of day. -/
  seconds : Nat
  deriving DecidableEq, Repr

/-- The usable token that is found, if there is one. -/
def Reading.usable? (r : Reading) : Option String :=
  (Credential.usable r.token r.seconds).toOption

/-- The shortest time between two polls. -/
def shortestPeriod : Nat := Span.ofMillis 10

/-- How late a poll may be without moving those that follow. -/
def tolerance : Nat := Span.ofMillis 5

/-- A monitor that starts now, with a poll at once. -/
def start (period settleDelay : Nat) (now : Nat) : TokenMonitor :=
  { period := max period shortestPeriod, settleDelay := settleDelay, nextPoll := now }

/-- When the monitor has something to do. -/
def due (m : TokenMonitor) : Nat :=
  m.settledAt.getD m.nextPoll

/-- Adopt the token that is there after settling; if it is gone nothing happens. -/
def adopt (m : TokenMonitor) (checked : Reading) : Option MonitorRequest × TokenMonitor :=
  let m := { m with settledAt := none }
  match checked.usable? with
  | some t => (some .connect, { m with current := some t })
  | none => (none, m)

/-- Look at the credential store.  Without a delay it is read again at once. -/
def look (m : TokenMonitor) (now : Nat) (seen checked : Reading) :
    Option MonitorRequest × TokenMonitor :=
  let found := seen.usable?
  if found = m.current then (none, m)
  else if found.isNone then (some .disconnect, { m with current := none })
  else if m.settleDelay = 0 then m.adopt checked
  else (none, { m with settledAt := some (now + m.settleDelay) })

/-- The poll after one that is taken now. -/
def pollAfter (m : TokenMonitor) (now : Nat) : Nat :=
  if m.nextPoll + tolerance < now then now + m.period else m.nextPoll + m.period

/-- Do what is due now.  The credential store is read for a poll, and once more when a new token
has settled. -/
def poll (m : TokenMonitor) (now : Nat) (seen checked : Reading) :
    Option MonitorRequest × TokenMonitor :=
  match m.settledAt with
  | some due => if due ≤ now then m.adopt checked else (none, m)
  | none =>
    if m.nextPoll ≤ now then { m with nextPoll := m.pollAfter now }.look now seen checked
    else (none, m)

end TokenMonitor

end LiveSync
