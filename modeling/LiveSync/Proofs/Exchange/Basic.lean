import LiveSync.Connection.Step

/-!
# A connection and its server

One established connection, the server at the other end, and the two wires between them.  The
server takes the subscription requests in order and answers each by a ruling; both wires keep
their order.  The connection is the machine itself, and what it writes is read off its effects.

* `Exchange` — the connection, what is under way, and what the server holds.
* `Exchange.Step` — a call, a decision of the server, the delivery of a ruling, or a timeout.
* `Exchange.Reachable` — what comes of a completed handshake.
-/

namespace LiveSync

open LiveSync.Json

/-- Every frame that is written at this moment gets through to the wire. -/
def Moment.Faultless (m : Moment) : Prop :=
  ∀ n, m.sendFault n = none

/-- A subscription request on the wire. -/
structure SubscriptionRequest where
  /-- What is asked for. -/
  operation : Operation
  /-- The entity. -/
  entity : String
  deriving DecidableEq

namespace SubscriptionRequest

/-- Read a request: the name of the event, and the only field of its payload. -/
def ofEnvelope? (e : Envelope) : Option SubscriptionRequest :=
  match e.data with
  | .object [(_, .string entity)] =>
    if e.event = EventName.subscribe then some ⟨.subscribe, entity⟩
    else if e.event = EventName.unsubscribe then some ⟨.unsubscribe, entity⟩
    else none
  | _ => none

/-- The request that an effect puts on the wire, if it does. -/
def ofEffect? : Effect → Option SubscriptionRequest
  | .frame _ e none => ofEnvelope? e
  | _ => none

end SubscriptionRequest

/-- The server's answer to a request. -/
inductive Ruling where
  /-- The entity is subscribed to. -/
  | accepted (entity : String)
  /-- The subscription is refused. -/
  | refused (entity why : String)
  /-- The entity is released. -/
  | released (entity : String)
  deriving DecidableEq

namespace Ruling

/-- The answers that a request may get. -/
inductive Answers : SubscriptionRequest → Ruling → Prop where
  | accepted (id : String) : Answers ⟨.subscribe, id⟩ (.accepted id)
  | refused (id why : String) : Answers ⟨.subscribe, id⟩ (.refused id why)
  | released (id : String) : Answers ⟨.unsubscribe, id⟩ (.released id)

/-- What the server holds after a ruling. -/
def apply (held : List String) : Ruling → List String
  | accepted id => id :: held
  | refused _ _ => held
  | released id => held.filter (· ≠ id)

/-- The name of the event that carries a ruling. -/
def event : Ruling → String
  | accepted _ | refused _ _ => EventName.subscribeAck
  | released _ => EventName.unsubscribeAck

/-- The entity of a ruling. -/
def entity : Ruling → String
  | accepted id | refused id _ | released id => id

/-- The reason that a ruling gives. -/
def why? : Ruling → Option String
  | refused _ why => some why
  | accepted _ | released _ => none

/-- The text frame carries the ruling to a connection: its payload names the entity, and the
reason if there is one. -/
def Carries (c : Connection) (frame : String) (v : Ruling) : Prop :=
  ∃ e, Frame.decode frame = .ok e ∧ e.event = v.event ∧
    (c.normalizer.inbound e.data).get? "entityId" = some (.string v.entity) ∧
    (c.normalizer.inbound e.data).getString? "error" = v.why?

end Ruling

/-- A connection on one socket, and the server behind it. -/
structure Exchange where
  /-- The connection. -/
  conn : Connection
  /-- The requests under way to the server, the oldest first. -/
  toServer : List SubscriptionRequest
  /-- What the server holds for this socket. -/
  held : List String
  /-- The rulings under way to the connection, the oldest first. -/
  toClient : List Ruling
  /-- The entities whose latest acceptance arrived while a release of them was still under way;
  only read in statements. -/
  overtaken : List String

namespace Exchange

/-- The release of an entity was asked for, and the connection does not know yet that it came. -/
def Releasing (x : Exchange) (id : String) : Prop :=
  ⟨.unsubscribe, id⟩ ∈ x.toServer ∨ .released id ∈ x.toClient

instance (x : Exchange) (id : String) : Decidable (x.Releasing id) :=
  inferInstanceAs (Decidable (_ ∨ _))

/-- The connection reacts to an input, and its requests go out. -/
def react (x : Exchange) (m : Moment) (i : Input) : Exchange :=
  let (c, effects) := x.conn.step m i
  { x with conn := c, toServer := x.toServer ++ effects.filterMap SubscriptionRequest.ofEffect? }

/-- The server answers the oldest request. -/
def serve (x : Exchange) (v : Ruling) : Exchange :=
  { x with
    toServer := x.toServer.tail
    held := v.apply x.held
    toClient := x.toClient ++ [v] }

/-- The oldest ruling leaves the wire. -/
def advance (x : Exchange) : Exchange :=
  { x with toClient := x.toClient.tail }

/-- The oldest ruling leaves the wire; an acceptance is overtaken if a release is still under
way. -/
def arrive (x : Exchange) (v : Ruling) : Exchange :=
  match v with
  | .accepted id =>
    if x.advance.Releasing id then { x.advance with overtaken := id :: x.overtaken }
    else { x.advance with overtaken := x.overtaken.filter (· ≠ id) }
  | .refused _ _ | .released _ => x.advance

/-- The oldest ruling arrives in a frame, and the connection reacts. -/
def deliver (x : Exchange) (m : Moment) (frame : String) (v : Ruling) : Exchange :=
  (x.arrive v).react m (.received (.ok (.text frame)))

/-- What can happen next. -/
inductive Step : Exchange → Exchange → Prop where
  /-- A caller wants to be subscribed. -/
  | subscribe (x : Exchange) (m : Moment) (id : String) (ticket : Ticket) (hm : m.Faultless) :
      Step x (x.react m (.command (.subscribe id ticket)))
  /-- A caller wants a subscription released. -/
  | unsubscribe (x : Exchange) (m : Moment) (id : String) (ticket : Ticket) (hm : m.Faultless) :
      Step x (x.react m (.command (.unsubscribe id ticket)))
  /-- The server decides on the oldest request. -/
  | serve (x : Exchange) (r : SubscriptionRequest) (v : Ruling) (hr : x.toServer.head? = some r)
      (hv : v.Answers r) : Step x (x.serve v)
  /-- The oldest ruling arrives. -/
  | deliver (x : Exchange) (m : Moment) (frame : String) (v : Ruling) (hm : m.Faultless)
      (hv : x.toClient.head? = some v) (hf : v.Carries x.conn frame) :
      Step x (x.deliver m frame v)
  /-- Acknowledgements that are overdue are given up. -/
  | expire (x : Exchange) (m : Moment) (hm : m.Faultless) :
      Step x (x.react m .acknowledgementDue)

/-- A handshake is complete: the server holds nothing yet, and the subscriptions that waited are
on their way. -/
def ofHandshake (c : Connection) (m : Moment) (item : Except Fault Incoming) : Exchange :=
  let (c', effects) := c.step m (.received item)
  { conn := c'
    toServer := effects.filterMap SubscriptionRequest.ofEffect?
    held := []
    toClient := []
    overtaken := [] }

/-- What can come of any connection that completed a handshake. -/
inductive Reachable : Exchange → Prop where
  /-- Some run led to a handshake, and the server completed it. -/
  | start (config : Config) (inputs : List (Moment × Input)) (m : Moment)
      (item : Except Fault Incoming) (socketId : Option String) (socket : SocketNumber)
      (deadline : Nat) (hm : m.Faultless)
      (ha : ((Connection.new config).run inputs).1.attempt = some (.handshaking socket deadline))
      (hj : Turn.judge item = .established socketId) :
      Reachable (ofHandshake ((Connection.new config).run inputs).1 m item)
  /-- One more thing happened. -/
  | step {x y : Exchange} (hx : Reachable x) (h : Step x y) : Reachable y

/-- No request and no ruling is under way. -/
def Quiet (x : Exchange) : Prop :=
  x.toServer = [] ∧ x.toClient = []

end Exchange
end LiveSync
