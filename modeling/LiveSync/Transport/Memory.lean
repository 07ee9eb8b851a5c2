import LiveSync.Connection.Basic

/-!
# The in-memory transport

A network of pairs of halves: the client opens sockets, the server accepts them as connections, and
each half reads what the other one wrote, in order.  A half that is dropped or closed is seen by the
other one only after what was still on its way.

Sockets are numbered in the order in which they were opened, connections in the order in which they
were accepted.
-/

namespace LiveSync.Transport

/-- A socket and its connection. -/
structure Link where
  /-- The address that was opened. -/
  url : String
  /-- The credential that was presented. -/
  token : String
  /-- What the client has not read yet. -/
  toClient : List Incoming := []
  /-- What the server has not read yet. -/
  toServer : List String := []
  /-- Does the client still hold its half? -/
  clientHeld : Bool := true
  /-- Does the client still take what the server sends? -/
  clientOpen : Bool := true
  /-- Does the server still hold its half? -/
  serverHeld : Bool := true

/-- Everything between the client and the server. -/
structure Network where
  /-- The pairs, by socket number. -/
  links : List Link := []
  /-- The sockets that were not accepted yet, oldest first. -/
  backlog : List SocketNumber := []
  /-- The sockets of the accepted connections. -/
  accepted : List SocketNumber := []
  /-- The faults of the next openings. -/
  refusals : List Fault := []
  /-- How often a socket was asked for. -/
  opens : Nat := 0
  /-- Does the server still accept connections? -/
  serverHeld : Bool := true
  /-- Can the client still open sockets? -/
  clientHeld : Bool := true

namespace Network

/-- The pair of a socket. -/
def link? (n : Network) (socket : SocketNumber) : Option Link :=
  n.links[socket]?

/-- Change the pair of a socket. -/
def modify (n : Network) (socket : SocketNumber) (f : Link → Link) : Network :=
  { n with links := n.links.modify socket f }

/-- The socket of a connection. -/
def socketOf? (n : Network) (connection : Nat) : Option SocketNumber :=
  n.accepted[connection]?

/-- The socket of a number, if the client still holds it. -/
def heldSocket? (n : Network) (socket : SocketNumber) : Option SocketNumber :=
  if (n.link? socket).any (·.clientHeld) then some socket else none

/-- The socket of a connection, if the server still holds the connection. -/
def heldConnection? (n : Network) (connection : Nat) : Option SocketNumber :=
  (n.socketOf? connection).filter fun socket => (n.link? socket).any (·.serverHeld)

/-! ## The client's side -/

/-- Open a socket: the oldest refusal counts first, then whether there is a server. -/
def open_ (n : Network) (url token : String) : Except Fault SocketNumber × Network :=
  let n := { n with opens := n.opens + 1 }
  match n.refusals with
  | f :: rest => (.error f, { n with refusals := rest })
  | [] =>
    if n.serverHeld then
      (.ok n.links.length,
        { n with
          links := n.links ++ [{ url := url, token := token }]
          backlog := n.backlog ++ [n.links.length] })
    else (.error (.transport "Connection refused"), n)

/-- The fault of sending on a socket, if the server no longer holds its half. -/
def sendFault? (n : Network) (socket : SocketNumber) : Option Fault :=
  if (n.link? socket).any (·.serverHeld) then none
  else some (.transport "Peer went away")

/-- Send a text on a socket. -/
def send (n : Network) (socket : SocketNumber) (text : String) : Except Fault Unit × Network :=
  match n.sendFault? socket with
  | some f => (.error f, n)
  | none => (.ok (), n.modify socket fun l => { l with toServer := l.toServer ++ [text] })

/-- Read from a socket: none while nothing is there and something may still come. -/
def receive? (n : Network) (socket : SocketNumber) :
    Option (Except Fault Incoming × Network) :=
  match n.link? socket with
  | none => none
  | some l =>
    match l.toClient with
    | item :: rest => some (.ok item, n.modify socket fun l => { l with toClient := rest })
    | [] =>
      if l.serverHeld && l.clientOpen then none
      else some (.error (.transport "Connection reset"), n)

/-- Close a socket: the client takes nothing more. -/
def close (n : Network) (socket : SocketNumber) : Network :=
  n.modify socket fun l => { l with clientOpen := false }

/-- Drop a socket. -/
def dropSocket (n : Network) (socket : SocketNumber) : Network :=
  n.modify socket fun l => { l with clientOpen := false, clientHeld := false }

/-! ## The server's side -/

/-- Accept the oldest socket that waits.  The result has the number of the connection. -/
def accept? (n : Network) : Option (Nat × Link × Network) :=
  match n.backlog with
  | [] => none
  | socket :: rest =>
    (n.link? socket).map fun l =>
      (n.accepted.length, l, { n with backlog := rest, accepted := n.accepted ++ [socket] })

/-- Drop the server: sockets that wait lose their peer, and nothing can be opened any more. -/
def dropServer (n : Network) : Network :=
  let n := n.backlog.foldl (fun n s => n.modify s fun l => { l with serverHeld := false }) n
  { n with serverHeld := false, backlog := [] }

/-- Send something to the client.  The result is `false` if the client takes nothing more. -/
def push (n : Network) (socket : SocketNumber) (item : Incoming) : Bool × Network :=
  if (n.link? socket).any (·.clientOpen) then
    (true, n.modify socket fun l => { l with toClient := l.toClient ++ [item] })
  else (false, n)

/-- Drop the server's half of a pair. -/
def dropConnection (n : Network) (socket : SocketNumber) : Network :=
  n.modify socket fun l => { l with serverHeld := false }

/-- What reading gives when nothing may be waited for. -/
inductive Reading (α : Type) where
  /-- Nothing is there yet. -/
  | pending
  /-- Nothing will come any more. -/
  | ended
  /-- Something was there. -/
  | got (a : α)

/-- Read the next text from the client. -/
def takeText (n : Network) (socket : SocketNumber) : Reading String × Network :=
  match n.link? socket with
  | none => (.ended, n)
  | some l =>
    match l.toServer with
    | text :: rest => (.got text, n.modify socket fun l => { l with toServer := rest })
    | [] => (if l.clientHeld then .pending else .ended, n)

/-- Read texts until one of them is an envelope. -/
def nextEnvelope : List String → Option (Envelope × List String)
  | [] => none
  | text :: rest =>
    match Envelope.parse? text with
    | some e => some (e, rest)
    | none => nextEnvelope rest

/-- Read the next envelope from the client; texts that are none are skipped. -/
def takeEnvelope (n : Network) (socket : SocketNumber) : Reading Envelope × Network :=
  match n.link? socket with
  | none => (.ended, n)
  | some l =>
    match nextEnvelope l.toServer with
    | some (e, rest) => (.got e, n.modify socket fun l => { l with toServer := rest })
    | none =>
      (if l.clientHeld then .pending else .ended,
        n.modify socket fun l => { l with toServer := [] })

/-- Read all envelopes that are there. -/
def drain (n : Network) (socket : SocketNumber) : List Envelope × Network :=
  match n.link? socket with
  | none => ([], n)
  | some l =>
    (l.toServer.filterMap Envelope.parse?, n.modify socket fun l => { l with toServer := [] })

end Network

end LiveSync.Transport
