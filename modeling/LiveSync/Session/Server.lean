import LiveSync.Session.Basic

/-!
# The server's side of a session

What the server and the network do.  Whatever reaches the client wakes its connection.
-/

namespace LiveSync

namespace Session

/-- The next socket that the client opens fails. -/
def refuse (s : Session) (f : Fault) : Session :=
  { s with network := { s.network with refusals := s.network.refusals ++ [f] } }

/-- The next frame that the client sends fails. -/
def failSend (s : Session) (f : Fault) : Session :=
  { s with sendFaults := s.sendFaults ++ [f] }

/-- The transport waits before it opens a socket. -/
def delayOpening (s : Session) (span : Nat) : Session :=
  { s with openDelay := span }

/-- Accept a socket that waits.  The result has the number of the connection. -/
def accept (s : Session) : Option (Nat × Transport.Link) × Session :=
  match s.network.accept? with
  | none => (none, s)
  | some (n, link, network) => (some (n, link), { s with network := network })

/-- The socket of a connection that the server still holds; without a number it is the newest
connection. -/
def held? (s : Session) (connection : Option Nat) : Option SocketNumber :=
  s.network.heldConnection? (connection.getD (s.network.accepted.length - 1))

/-- Send something to the client.  The result is `false` if the client has hung up. -/
def push (s : Session) (socket : SocketNumber) (item : Incoming) : Bool × Session :=
  let (taken, network) := s.network.push socket item
  (taken, { s with network := network }.wake .connection)

/-- The network between the client and a connection vanishes. -/
def dropConnection (s : Session) (socket : SocketNumber) : Session :=
  { s with network := s.network.dropConnection socket }.wake .connection

/-- The server goes: no socket can be opened any more. -/
def dropServer (s : Session) : Session :=
  { s with network := s.network.dropServer }.wake .connection

/-- The connections that the server holds, by number, each with its socket. -/
def heldConnections (s : Session) : List (Nat × SocketNumber) :=
  (s.network.accepted.zipIdx.map fun (socket, n) => (n, socket)).filter fun c =>
    (s.network.link? c.2).any (·.serverHeld)

/-- The connections whose client side is open. -/
def openConnections (s : Session) : List Nat :=
  (s.heldConnections.filter fun c => (s.network.link? c.2).any (·.clientOpen)).map (·.1)

/-- Read what the client has sent on one connection. -/
def drainOne (done : List (Nat × Envelope) × Session) (c : Nat × SocketNumber) :
    List (Nat × Envelope) × Session :=
  let (envelopes, network) := done.2.network.drain c.2
  (done.1 ++ envelopes.map fun e => (c.1, e), { done.2 with network := network })

/-- Read what the client has sent, by connection. -/
def drain (s : Session) : List (Nat × Envelope) × Session :=
  s.heldConnections.foldl drainOne ([], s)

/-! ## The record -/

/-- Forget what was recorded. -/
def forgetRecord (s : Session) : Session :=
  { s with told := [], replies := [], cache := s.cache.map Cache.Sync.forgetChanges }

end Session

end LiveSync
