import LiveSync.Proofs.Connection.Steps
import LiveSync.Proofs.Exchange.Basic
import LiveSync.Proofs.Registry.Active

/-!
# One turn of an established connection

What each step of an exchange does to the connection: how the registry changes, which requests go
out, and that the connection stays.

* `Settles` — the state stays, no request goes out, and only some may become active.
* `step_subscribe`, `step_unsubscribe` — the registry takes the call, and a request goes out when
  the registry asks for one.
* `step_ruling` — only an acceptance can make its entity active, and nothing goes out.
* `step_expire` — nobody becomes active, and nothing goes out.
* `step_handshake` — every subscription waits for its acknowledgement.
-/

namespace LiveSync

open LiveSync.Json

namespace Turn

/-- The requests that the turn has put on the wire so far. -/
def requests (t : Turn) : List SubscriptionRequest :=
  t.effects.filterMap SubscriptionRequest.ofEffect?

/-- Only traffic carries requests. -/
theorem requests_eq (t : Turn) :
    t.requests = t.traffic.filterMap SubscriptionRequest.ofEffect? := by
  unfold requests traffic sift
  rw [List.filterMap_filter]
  congr 1
  funext e
  cases e <;> rfl

theorem requests_setRegistry (t : Turn) (change : List Reply × Registry) :
    (t.setRegistry change).requests = t.requests := by
  simp [requests_eq]

/-- A payload with one field has one field on the wire. -/
theorem ofEnvelope?_outbound (n : Payload.Normalizer) (operation : Operation) (id : String) :
    SubscriptionRequest.ofEnvelope? ⟨operation.name, n.outbound (Payload.ofEntity id)⟩ =
      some ⟨operation, id⟩ := by
  have hpayload : ∃ key, n.outbound (Payload.ofEntity id) = .object [(key, .string id)] := by
    show ∃ key, Value.object (n.transformFields n.wire [("entityId", .string id)] []) = _
    unfold Payload.Normalizer.transformFields
    split
    · exact ⟨"entityId", rfl⟩
    · exact ⟨_, rfl⟩
  obtain ⟨key, hkey⟩ := hpayload
  rw [hkey]
  cases operation <;> rfl

/-! ## Requests -/

section

variable {t : Turn} {socket : SocketNumber} (hm : t.moment.Faultless)
include hm

/-- A request that nothing befalls is written, and nothing else happens. -/
theorem request_faultless (hs : t.conn.socket = some socket) (operation : Operation)
    (id : String) :
    (t.request operation id).conn = t.conn ∧ (t.request operation id).moment = t.moment ∧
      (t.request operation id).requests = t.requests ++ [⟨operation, id⟩] := by
  have hrequest : t.request operation id = { t with sends := t.sends + 1 }.effect
      (.frame socket ⟨operation.name, t.conn.normalizer.outbound (Payload.ofEntity id)⟩ none) := by
    unfold request
    rw [send_of_socket hs, hm]
  have hframe : SubscriptionRequest.ofEffect? (.frame socket
      ⟨operation.name, t.conn.normalizer.outbound (Payload.ofEntity id)⟩ none) =
      some ⟨operation, id⟩ := ofEnvelope?_outbound ..
  rw [hrequest]
  refine ⟨rfl, rfl, ?_⟩
  show (t.effects ++ [_]).filterMap SubscriptionRequest.ofEffect? = _
  rw [List.filterMap_append, List.filterMap_cons_some hframe, List.filterMap_nil]
  rfl

theorem requestAfter_faultless (hs : t.conn.socket = some socket)
    (change : Bool × List Reply × Registry) (operation : Operation) (id : String) :
    (t.requestAfter change operation id).conn = { t.conn with registry := change.2.2 } ∧
      (t.requestAfter change operation id).requests =
        t.requests ++ if change.1 then [⟨operation, id⟩] else [] := by
  unfold requestAfter
  dsimp only
  split
  · obtain ⟨hconn, -, hsent⟩ := request_faultless (t := t.setRegistry change.2) hm hs operation id
    exact ⟨hconn, by rw [hsent, requests_setRegistry]⟩
  · exact ⟨rfl, by rw [requests_setRegistry, List.append_nil]⟩

/-- Asking for the subscriptions again leaves the connection alone. -/
theorem requestAgain_foldl_faultless (hs : t.conn.socket = some socket) (entities : List String) :
    (entities.foldl requestAgain t).conn = t.conn := by
  induction entities generalizing t with
  | nil => rfl
  | cons entity rest ih =>
    have hagain : t.requestAgain entity = t.request .subscribe entity := by
      unfold requestAgain
      rw [if_pos (by rw [hs]; rfl)]
    obtain ⟨hconn, hmoment, -⟩ := request_faultless hm hs .subscribe entity
    rw [List.foldl_cons, hagain, ih (by rwa [hmoment]) (by rwa [hconn]), hconn]

end

/-! ## Rulings and timeouts -/

/-- From one point of a turn to a later one the state stays, no request goes out, and nobody
becomes active but those who may. -/
structure Settles (t t' : Turn) (may : String → Prop) : Prop where
  /-- The state stays. -/
  state : t'.conn.state = t.conn.state
  /-- No request goes out. -/
  requests : t'.requests = t.requests
  /-- Who is active was active before, or may be. -/
  active : ∀ id, t'.conn.registry.IsActive id → may id ∨ t.conn.registry.IsActive id

/-- What writes nothing and leaves the registry alone settles whatever may be settled. -/
theorem Settles.of_same {t t' : Turn} (hstate : t'.conn.state = t.conn.state)
    (htraffic : t'.traffic = t.traffic) (hregistry : t'.conn.registry = t.conn.registry)
    (may : String → Prop) : Settles t t' may where
  state := hstate
  requests := by rw [requests_eq, htraffic, ← requests_eq]
  active := fun id ha => Or.inr (hregistry ▸ ha)

theorem Settles.trans {t t' t'' : Turn} {may : String → Prop} (h : Settles t t' may)
    (h' : Settles t' t'' may) : Settles t t'' may where
  state := h'.state.trans h.state
  requests := h'.requests.trans h.requests
  active := fun id ha => (h'.active id ha).elim Or.inl (h.active id)

/-- A new registry in which nobody is active but those who may. -/
theorem settles_setRegistry (t : Turn) {change : List Reply × Registry} {may : String → Prop}
    (ha : ∀ id, change.2.IsActive id → may id ∨ t.conn.registry.IsActive id) :
    Settles t (t.setRegistry change) may :=
  ⟨rfl, requests_setRegistry .., ha⟩

theorem settles_publish (t : Turn) (event : String) (payload : Value) (may : String → Prop) :
    Settles t (t.publish event payload) may := by
  refine Settles.of_same ?_ (by simp) ?_ may <;> rfl

section

variable {t : Turn} (h : t.conn.registry.Ascending)
include h

/-- An acknowledgement settles what it carries. -/
theorem settles_onSubscribeAck {payload : Value} {v : Ruling}
    (he : v.event = EventName.subscribeAck)
    (hid : payload.get? "entityId" = some (.string v.entity))
    (hwhy : payload.getString? "error" = v.why?) :
    Settles t (t.onSubscribeAck payload) fun id => v = .accepted id := by
  have hentity : Payload.entityId? payload = Payload.nonEmpty? v.entity := by
    simp [Payload.entityId?, hid, Value.asString?]
  unfold onSubscribeAck
  rw [hentity, hwhy]
  split
  · exact Settles.of_same rfl rfl rfl _
  · rename_i entity hne
    have heq : v.entity = entity := by
      unfold Payload.nonEmpty? at hne
      split at hne
      · exact absurd hne nofun
      · exact Option.some.inj hne
    cases v with
    | accepted id =>
      refine settles_setRegistry t fun other ha => ?_
      rcases Registry.isActive_of_apply h (x := .acknowledge entity _) ha with hactive | ⟨_, hx⟩
      · exact Or.inr hactive
      · obtain ⟨hid, -⟩ := Registry.Change.acknowledge.inj hx
        exact Or.inl (by rw [← hid, ← heq]; rfl)
    | refused id why =>
      refine (settles_setRegistry t fun other ha => ?_).trans (settles_publish ..)
      exact Or.inr ((Registry.isActive_of_apply h (x := .reject entity why) ha).resolve_right nofun)
    | released id =>
      exact absurd he (show EventName.unsubscribeAck ≠ EventName.subscribeAck by decide)

/-- An acknowledged release makes nobody active. -/
theorem settles_onUnsubscribeAck (payload : Value) (may : String → Prop) :
    Settles t (t.onUnsubscribeAck payload) may := by
  unfold onUnsubscribeAck
  split
  · exact Settles.of_same rfl rfl rfl may
  · rename_i entity _
    refine settles_setRegistry t fun _ ha => Or.inr ?_
    exact (Registry.isActive_of_apply h (x := .release entity) ha).resolve_right nofun

/-- A ruling is absorbed as the acknowledgement that it is. -/
theorem settles_absorb {payload : Value} {v : Ruling}
    (hid : payload.get? "entityId" = some (.string v.entity))
    (hwhy : payload.getString? "error" = v.why?) :
    Settles t (t.absorb v.event payload) fun id => v = .accepted id := by
  cases v with
  | accepted id => exact settles_onSubscribeAck h rfl hid hwhy
  | refused id why => exact settles_onSubscribeAck h rfl hid hwhy
  | released id => exact settles_onUnsubscribeAck h payload _

/-- A timeout makes nobody active. -/
theorem settles_expireRequests (may : String → Prop) : Settles t t.expireRequests may := by
  obtain ⟨hconn, htraffic⟩ := expireRequests_eq t
  constructor
  case state => rw [hconn]; rfl
  case requests => rw [requests_eq, htraffic, ← requests_eq]
  case active =>
    intro id ha
    rw [hconn] at ha
    exact Or.inr ((Registry.isActive_of_apply h (x := .expire t.moment.now) ha).resolve_right nofun)

end

/-- Routing an event tells listeners, and that is all. -/
theorem settles_route (t : Turn) (event : String) (payload : Value) (may : String → Prop) :
    Settles t (t.route event payload) may := by
  let offered : Turn := { t with conn := { t.conn with
    dedup := (t.conn.dedup.offer event payload t.moment.now).2 } }
  have hoffered : Settles t offered may := by
    refine Settles.of_same ?_ ?_ ?_ may <;> rfl
  unfold route
  dsimp only
  split
  · exact hoffered
  · exact hoffered.trans (settles_publish ..)

end Turn

namespace Connection

open Turn

variable {c : Connection} (h : c.Ready) (hc : c.state = .connected)
include h hc

/-- A call that changes the registry, and sends a request if the change calls for one. -/
theorem step_call {m : Moment} (hm : m.Faultless) {i : Input}
    {change : Bool × List Reply × Registry} {operation : Operation} {id : String}
    (hstep : Turn.step { conn := c, moment := m } i =
      Turn.requestAfter { conn := c, moment := m } change operation id) :
    (c.step m i).1 = { c with registry := change.2.2 } ∧
      (c.step m i).2.filterMap SubscriptionRequest.ofEffect? =
        if change.1 then [⟨operation, id⟩] else [] := by
  obtain ⟨socket, hs⟩ := Option.isSome_iff_exists.1 (h.socket.2 hc)
  obtain ⟨hconn, hrequests⟩ := requestAfter_faultless (t := { conn := c, moment := m }) hm hs
    change operation id
  rw [← hstep] at hconn hrequests
  exact ⟨hconn, hrequests⟩

/-- A call to subscribe. -/
theorem step_subscribe {m : Moment} (hm : m.Faultless) (id : String) (ticket : Ticket) :
    let change := c.registry.subscribe id ticket m.now true
    (c.step m (.command (.subscribe id ticket))).1 = { c with registry := change.2.2 } ∧
      (c.step m (.command (.subscribe id ticket))).2.filterMap SubscriptionRequest.ofEffect? =
        if change.1 then [⟨.subscribe, id⟩] else [] :=
  step_call h hc hm (step_connected h hc _)

/-- A call to unsubscribe. -/
theorem step_unsubscribe {m : Moment} (hm : m.Faultless) (id : String) (ticket : Ticket) :
    let change := c.registry.unsubscribe id ticket m.now true
    (c.step m (.command (.unsubscribe id ticket))).1 = { c with registry := change.2.2 } ∧
      (c.step m (.command (.unsubscribe id ticket))).2.filterMap SubscriptionRequest.ofEffect? =
        if change.1 then [⟨.unsubscribe, id⟩] else [] :=
  step_call h hc hm (step_connected h hc _)

/-- The delivery of a ruling. -/
theorem step_ruling (m : Moment) {frame : String} {v : Ruling} (hf : v.Carries c frame) :
    let after := c.step m (.received (.ok (.text frame)))
    after.1.state = .connected ∧ after.2.filterMap SubscriptionRequest.ofEffect? = [] ∧
      ∀ id, after.1.registry.IsActive id → v = .accepted id ∨ c.registry.IsActive id := by
  obtain ⟨e, hdecode, hevent, hid, hwhy⟩ := hf
  let t : Turn := { conn := c, moment := m }
  let payload := c.normalizer.inbound e.data
  have hack : v.event = EventName.subscribeAck ∨ v.event = EventName.unsubscribeAck := by
    cases v <;> simp [Ruling.event]
  have hend : v.event ≠ EventName.connectError ∧ v.event ≠ EventName.disconnect := by
    rcases hack with ha | ha <;> rw [ha] <;> decide
  have hstep : t.step (.received (.ok (.text frame))) =
      (t.absorb v.event payload).route v.event payload := by
    rw [step_received h hc]
    show t.onFrame frame = _
    unfold onFrame
    rw [hdecode]
    show t.onEvent e.event payload = _
    unfold onEvent
    rw [hevent, if_neg hend.1, if_neg hend.2]
  have hsettles := (settles_absorb (t := t) h.ascending hid hwhy).trans
    (settles_route (t.absorb v.event payload) v.event payload _)
  rw [← hstep] at hsettles
  exact ⟨hsettles.state.trans hc, hsettles.requests, hsettles.active⟩

/-- A timeout. -/
theorem step_expire (m : Moment) :
    let after := c.step m .acknowledgementDue
    after.1.state = .connected ∧ after.2.filterMap SubscriptionRequest.ofEffect? = [] ∧
      ∀ id, after.1.registry.IsActive id → c.registry.IsActive id := by
  let t : Turn := { conn := c, moment := m }
  have hstep : t.step .acknowledgementDue = t.expireRequests := step_connected h hc _
  have hsettles := settles_expireRequests (t := t) h.ascending fun _ => False
  rw [← hstep] at hsettles
  exact ⟨hsettles.state.trans hc, hsettles.requests,
    fun id ha => (hsettles.active id ha).resolve_left not_false⟩

omit hc in
/-- A completed handshake. -/
theorem step_handshake {m : Moment} (hm : m.Faultless) {item : Except Fault Incoming}
    {socketId : Option String} {socket : SocketNumber} {deadline : Nat}
    (ha : c.attempt = some (.handshaking socket deadline))
    (hj : Turn.judge item = .established socketId) :
    (c.step m (.received item)).1 = c.established socket socketId m.now := by
  let t : Turn := { conn := c, moment := m }
  have hstep : t.step (.received item) = t.establish socket socketId := by
    rw [step_attempt h ha]
    unfold stepAttempt
    rw [ha]
    show t.shakeHands socket item = _
    unfold shakeHands
    rw [hj]
  obtain ⟨t', hconn, -, hmoment, heq⟩ := establish_eq t socket socketId
  show (t.step (.received item)).conn = _
  rw [hstep, heq, requestAgain_foldl_faultless (by rwa [hmoment])
    (by rw [hconn]; exact socket_established ..), hconn]

end Connection

end LiveSync
