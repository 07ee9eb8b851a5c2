import LiveSync.Session.Basic

/-!
# Running a session

A turn of the connection takes its inputs one at a time until there is none left, in a fixed order
of preference, and carries out the effects of each.  `Session.settle` runs turns until no task can
go on, and `Session.advance` moves the clock from timer to timer.  Timers that are due at the same
instant go off in the order in which they were armed.
-/

namespace LiveSync

open LiveSync.Json

namespace Session

/-! ## Effects -/

/-- The socket on which the connection sends. -/
def socket? (s : Session) : Option SocketNumber :=
  s.connection.socket.or
    (match s.connection.attempt with
    | some (.handshaking socket _) => some socket
    | _ => none)

/-- What befalls a frame that is sent after `count` others: a fault that was planned, or else that
of the network. -/
def sendFault (s : Session) (count : Nat) : Option Fault :=
  match s.sendFaults[count]? with
  | some f => some f
  | none => s.socket?.bind s.network.sendFault?

/-- The circumstances now.  No delay is moved by chance. -/
def moment (s : Session) : Moment :=
  { now := s.now, seconds := s.seconds, token := s.token, sendFault := s.sendFault, draw := 0.0 }

/-- Write a frame, or use up the fault that befell it. -/
def writeFrame (s : Session) (socket : SocketNumber) (e : Envelope) (f : Option Fault) : Session :=
  let s := { s with sendFaults := s.sendFaults.drop 1 }
  match f with
  | some _ => s
  | none => { s with network := (s.network.send socket (Frame.encode e)).2 }

/-- Carry an effect of the connection out. -/
def carryOut (s : Session) : Effect → Session
  | .snapshot _ => s
  | .publish event payload => (s.publish event payload).2
  | .frame socket envelope f => s.writeFrame socket envelope f
  | .reply ticket answer => s.reply (ticket, answer)
  | .dial url token => { s with dialling := some ⟨url, token, s.now + s.openDelay⟩ }
  | .close socket => { s with network := s.network.dropSocket socket }
  | .clearListeners => { s with router := s.router.clear }

/-- The commands that the connection will not take any more get their answers. -/
def abandonInbox (s : Session) : Session :=
  (s.inbox.filterMap Command.abandoned).foldl reply { s with inbox := [] }

/-- Let the connection react to an input. -/
def react (s : Session) (i : Input) : Session :=
  let (c, effects) := s.connection.step s.moment i
  let s := effects.foldl carryOut { s with connection := c }
  if c.stopped then s.abandonInbox else s

/-! ## Inputs -/

/-- Is an instant due, if there is one? -/
def isDue (s : Session) (at? : Option Nat) : Bool :=
  at?.any fun t => decide (t ≤ s.now)

/-- The next command, or the news that none will follow. -/
def takeCommand (s : Session) : Option (Input × Session) :=
  match s.inbox with
  | c :: rest => some (.command c, { s with inbox := rest })
  | [] => if s.commandsOpen then none else some (.commandsClosed, s)

/-- What the socket has for the client. -/
def takeIncoming (s : Session) (socket : SocketNumber) : Option (Input × Session) :=
  (s.network.receive? socket).map fun (item, network) =>
    (.received item, { s with network := network })

/-- The socket that the transport has opened by now, or its fault. -/
def takeOpened (s : Session) : Option (Input × Session) :=
  match s.dialling with
  | none => none
  | some d =>
    if d.readyAt ≤ s.now then
      let (outcome, network) := s.network.open_ d.url d.token
      some (.opened outcome, { s with dialling := none, network := network })
    else none

/-- An input that is there once an instant has come. -/
def takeTimer (s : Session) (at? : Option Nat) (i : Input) : Option (Input × Session) :=
  if s.isDue at? then some (i, s) else none

/-- The next input of an attempt that is under way. -/
def takeOfAttempt (s : Session) : Attempt → Option (Input × Session)
  | .ready _ => some (.dial, s)
  | .opening deadline => s.takeOpened <|> s.takeTimer deadline .openTimedOut
  | .handshaking socket deadline =>
    s.takeIncoming socket <|> s.takeTimer (some deadline) .handshakeTimedOut

/-- The next input of the connection, in the order in which it prefers them. -/
def nextInput? (s : Session) : Option (Input × Session) :=
  let c := s.connection
  if c.stopped then none
  else
    match c.state with
    | .disconnected | .failed => s.takeCommand
    | .connected =>
      s.takeTimer c.heartbeat.nextDeadline .heartbeatDue <|> s.takeCommand
        <|> c.socket.bind s.takeIncoming
        <|> s.takeTimer c.registry.nextDeadline .acknowledgementDue
    | .connecting | .reconnecting =>
      if c.retryAt.isSome then s.takeCommand <|> s.takeTimer c.retryAt .retryDue
      else
        match c.attempt with
        | none => some (.attempt, s)
        | some a => s.takeCommand <|> s.takeOfAttempt a

/-- Does an input leave the timers of the connection as they are?  That is so for commands during
an attempt. -/
def keepsTimers (s : Session) : Input → Bool
  | .command _ => s.connection.attempt.isSome
  | _ => false

/-! ## Turns -/

/-- Let the connection react to its inputs until there is none left.  `stamp` is the place of the
timers that it arms, and `turns` bounds the number of inputs. -/
def runInputs (stamp : Nat) : (turns : Nat) → Session → Session
  | 0, s => s
  | turns + 1, s =>
    match s.nextInput? with
    | none => s
    | some (i, s') =>
      let armed := if s.keepsTimers i then s'.connectionStamp else stamp
      runInputs stamp turns { s'.react i with connectionStamp := armed }

/-- How many things a task may do at one instant. -/
def turnLimit : Nat := 1000000

/-- A turn of the connection. -/
def runConnection (s : Session) : Session :=
  (runInputs s.armed turnLimit { s with armed := s.armed + 1 }).releaseClient

/-- Send what the monitor asks for.  If that cannot be sent the monitor comes to its end. -/
def obey (s : Session) (w : Watch) (r : MonitorRequest) : Watch × Session :=
  if s.commandsOpen && !s.isStopped then
    match r with
    | .connect => (w, s.enqueue .connect)
    | .disconnect => (w, s.enqueue .disconnect)
  else ({ w with running := false }, s)

/-- What is found in the credential store now. -/
def reading (s : Session) : TokenMonitor.Reading :=
  ⟨s.token, s.seconds⟩

/-- Let the monitor do what is due; `turns` bounds the number of its actions. -/
def runWatch (stamp : Nat) : (turns : Nat) → Watch → Session → Session
  | 0, w, s => { s with watch := some w }
  | turns + 1, w, s =>
    if w.running && decide (w.monitor.due ≤ s.now) then
      let (request, monitor) := w.monitor.poll s.now s.reading s.reading
      let w := { w with monitor := monitor, stamp := stamp }
      match request with
      | none => runWatch stamp turns w s
      | some r =>
        let (w, s) := s.obey w r
        runWatch stamp turns w s
    else { s with watch := some w }

/-- A turn of the monitor. -/
def runMonitor (s : Session) : Session :=
  match s.watch with
  | none => s
  | some w => runWatch s.armed turnLimit w { s with armed := s.armed + 1 }

/-- A timer of the cache goes off. -/
def runBurst (s : Session) (timer : Cache.BurstTimer) : Session :=
  { s with cache := s.cache.map fun c => c.fire s.now timer }

/-- A turn of a task. -/
def runTask (s : Session) : Task → Session
  | .connection => s.runConnection
  | .monitor => s.runMonitor
  | .burst timer => s.runBurst timer

/-- Let the tasks take their turns until none can go on; `turns` bounds their number. -/
def runReady : (turns : Nat) → Session → Session
  | 0, s => s
  | turns + 1, s =>
    match s.ready with
    | [] => s
    | t :: rest => runReady turns ({ s with ready := rest }.runTask t)

/-- Do everything that can be done now. -/
def settle (s : Session) : Session :=
  runReady turnLimit s

/-! ## Timers -/

/-- A timer that is armed. -/
structure Timer where
  /-- When it goes off. -/
  due : Nat
  /-- Its place in the order in which all timers were armed. -/
  stamp : Nat
  /-- The task that it wakes. -/
  task : Task

/-- When the connection has something to do by itself. -/
def connectionDue? (s : Session) : Option Nat :=
  let c := s.connection
  if c.stopped then none
  else if c.retryAt.isSome then c.retryAt
  else
    match c.attempt with
    | some (.opening deadline) =>
      Instant.earliest (s.dialling.map (·.readyAt)) deadline
    | some (.handshaking _ deadline) => some deadline
    | some (.ready _) => none
    | none =>
      if c.state = .connected then
        Instant.earliest c.heartbeat.nextDeadline c.registry.nextDeadline
      else none

/-- The timers that are armed. -/
def timers (s : Session) : List Timer :=
  (s.connectionDue?.map fun t => ⟨t, s.connectionStamp, .connection⟩).toList
    ++ ((s.watch.filter (·.running)).map fun w => ⟨w.monitor.due, w.stamp, .monitor⟩).toList
    ++ ((s.cache.map (·.timers)).getD []).map fun t => ⟨t.due, t.order, .burst t⟩

/-- The earliest instant after now at which a timer goes off. -/
def nextDue? (s : Session) (now : Nat) : Option Nat :=
  ((s.timers.map (·.due)).filter (now < ·)).min?

/-- Insert a timer behind those that were armed before it. -/
def insertTimer (t : Timer) : List Timer → List Timer
  | [] => [t]
  | u :: rest => if t.stamp < u.stamp then t :: u :: rest else u :: insertTimer t rest

/-- The timers that are due go off. -/
def fireDue (s : Session) : Session :=
  let due := s.timers.filter fun t => t.due ≤ s.now
  (due.foldr insertTimer []).foldl (fun s t => s.wake t.task) s

/-- Move the clock from timer to timer up to a deadline. -/
def advanceFrom (deadline now : Nat) (s : Session) : Session :=
  match s.nextDue? now with
  | none => { s with now := deadline }
  | some due =>
    if _h : now < due ∧ due ≤ deadline then
      advanceFrom deadline due ({ s with now := due }.fireDue.settle)
    else { s with now := deadline }
termination_by deadline - now
decreasing_by omega

/-- Let the clock run. -/
def advance (s : Session) (span : Nat) : Session :=
  advanceFrom (s.now + span) s.now s

end Session

end LiveSync
