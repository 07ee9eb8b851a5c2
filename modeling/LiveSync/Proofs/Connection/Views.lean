import LiveSync.Connection.Step

/-!
# What the parts of a turn do

A turn is made of small steps: publish, answer, send, change the state, and so on.  Each of them is
described here by two views, so that no later proof has to open it again:

* `conn` — the state of the connection after the step;
* `sift` — the effects of a kind that the turn has had so far, whatever kind it is.

A kind that matters by itself is `traffic`, what the turn has sent so far: the frames it wrote, or
failed to write, and the sockets it asked for.
-/

namespace LiveSync

open LiveSync.Json

-- A kind lists all its cases and is reducible, so that simp can tell which steps leave it alone.
/-- Does the effect reach the network: a frame on a socket, or the wish for a socket? -/
@[simp, reducible] def Effect.isTraffic : Effect → Bool
  | .frame .. | .dial .. => true
  | .reply .. | .publish .. | .snapshot _ | .close _ | .clearListeners => false

/-- Answers, as effects. -/
def replyEffects (replies : List Reply) : List Effect :=
  replies.map fun r => .reply r.1 r.2

section

variable {p : Effect → Bool} {replies : List Reply}

/-- A kind of effects has all answers, -/
@[simp] theorem filter_replyEffects_self (h : ∀ ticket a, p (.reply ticket a) = true) :
    (replyEffects replies).filter p = replyEffects replies := by
  refine List.filter_eq_self.2 fun e he => ?_
  obtain ⟨r, -, rfl⟩ := List.mem_map.1 he
  exact h ..

/-- or it has none of them. -/
@[simp] theorem filter_replyEffects_nil (h : ∀ ticket a, p (.reply ticket a) = false) :
    (replyEffects replies).filter p = [] := by
  refine List.filter_eq_nil_iff.2 fun e he => ?_
  obtain ⟨r, -, rfl⟩ := List.mem_map.1 he
  rw [h]
  exact Bool.false_ne_true

end

namespace Connection

/-- Enter a state, and let callers read it; nothing happens if it is the present one. -/
def entered (c : Connection) (s : ConnectionState) : Connection :=
  if c.state = s then c
  else
    let snapshot := { c.snapshot with
      state := s, socketId := if s = .connected then c.snapshot.socketId else none }
    { c with snapshot := snapshot, published := snapshot }

/-- Everything stopped and nothing planned. -/
def withdrawn (c : Connection) : Connection :=
  { c with
    heartbeat := c.heartbeat.stop
    registry := (c.registry.demoteAll.2.failSubscribers .notConnected).2
    attempt := none
    socket := none
    retryAt := none }.entered .disconnected

/-- The retries used up. -/
def givenUp (c : Connection) : Connection :=
  { c with
    retryAt := none
    registry := (c.registry.failSubscribers .notConnected).2 }.entered .failed

/-- One more retry, planned for an instant. -/
def putOff (c : Connection) (due : Nat) : Connection :=
  let snapshot := { c.snapshot with
    state := .reconnecting
    socketId := if c.state = .reconnecting then c.snapshot.socketId else none
    attempt := c.snapshot.attempt + 1 }
  { c with retryAt := some due, snapshot := snapshot, published := snapshot }

/-- The connection gone, and nothing decided yet about what follows. -/
def severed (c : Connection) : Connection :=
  { c with
    heartbeat := c.heartbeat.stop
    registry := c.registry.demoteAll.2
    socket := none }

/-- Everything stopped for good. -/
def tornDown (c : Connection) : Connection :=
  { Connection.entered { c with
      attempt := none
      socket := none
      heartbeat := c.heartbeat.stop
      registry := (c.registry.clear .cancelled).2
      retryAt := none } .disconnected with stopped := true }

/-- A connection on a socket, with every subscription that waited on its way. -/
def established (c : Connection) (socket : SocketNumber) (socketId : Option String) (now : Nat) :
    Connection :=
  { Connection.entered { c with
      socket := some socket
      attempt := none
      retryAt := none
      snapshot := { c.snapshot with socketId := socketId, attempt := 0 }
      dedup := c.dedup.clear
      heartbeat := c.heartbeat.start now } .connected with registry := (c.registry.reissue now).2 }

/-! ## What entering a state leaves alone -/

section

variable (c : Connection) (s : ConnectionState)

@[simp] theorem state_entered : (c.entered s).state = s := by
  unfold entered
  split
  · assumption
  · rfl

@[simp] theorem config_entered : (c.entered s).config = c.config := by
  unfold entered; split <;> rfl

@[simp] theorem normalizer_entered : (c.entered s).normalizer = c.normalizer := by
  unfold entered; split <;> rfl

@[simp] theorem heartbeat_entered : (c.entered s).heartbeat = c.heartbeat := by
  unfold entered; split <;> rfl

@[simp] theorem registry_entered : (c.entered s).registry = c.registry := by
  unfold entered; split <;> rfl

@[simp] theorem socket_entered : (c.entered s).socket = c.socket := by
  unfold entered; split <;> rfl

@[simp] theorem retryAt_entered : (c.entered s).retryAt = c.retryAt := by
  unfold entered; split <;> rfl

@[simp] theorem attempt_entered : (c.entered s).attempt = c.attempt := by
  unfold entered; split <;> rfl

@[simp] theorem stopped_entered : (c.entered s).stopped = c.stopped := by
  unfold entered; split <;> rfl

end

/-! ## An established connection -/

section

variable (c : Connection) (socket : SocketNumber) (socketId : Option String) (now : Nat)

@[simp] theorem state_established : (c.established socket socketId now).state = .connected :=
  state_entered _ _

@[simp] theorem config_established : (c.established socket socketId now).config = c.config :=
  config_entered _ _

@[simp] theorem normalizer_established :
    (c.established socket socketId now).normalizer = c.normalizer :=
  normalizer_entered _ _

@[simp] theorem heartbeat_established :
    (c.established socket socketId now).heartbeat = c.heartbeat.start now :=
  heartbeat_entered _ _

@[simp] theorem registry_established :
    (c.established socket socketId now).registry = (c.registry.reissue now).2 := rfl

@[simp] theorem socket_established : (c.established socket socketId now).socket = some socket :=
  socket_entered _ _

@[simp] theorem retryAt_established : (c.established socket socketId now).retryAt = none :=
  retryAt_entered _ _

@[simp] theorem attempt_established : (c.established socket socketId now).attempt = none :=
  attempt_entered _ _

@[simp] theorem stopped_established :
    (c.established socket socketId now).stopped = c.stopped :=
  stopped_entered _ _

end

end Connection

namespace Turn

/-- The effects of a kind, among the effects so far. -/
def sift (p : Effect → Bool) (t : Turn) : List Effect :=
  t.effects.filter p

/-- The frames and the wishes for a socket among the effects so far. -/
abbrev traffic (t : Turn) : List Effect :=
  t.sift Effect.isTraffic

/-! ## Effects -/

@[simp] theorem conn_effect (t : Turn) (e : Effect) : (t.effect e).conn = t.conn := rfl

@[simp] theorem conn_publish (t : Turn) (event : String) (payload : Value) :
    (t.publish event payload).conn = t.conn := rfl

@[simp] theorem conn_publishSnapshot (t : Turn) :
    t.publishSnapshot.conn = { t.conn with published := t.conn.snapshot } := rfl

@[simp] theorem conn_mapSnapshot (t : Turn) (f : Snapshot → Snapshot) :
    (t.mapSnapshot f).conn = { t.conn with snapshot := f t.conn.snapshot } := rfl

@[simp] theorem conn_setRegistry (t : Turn) (change : List Reply × Registry) :
    (t.setRegistry change).conn = { t.conn with registry := change.2 } := rfl

@[simp] theorem conn_publishError (t : Turn) (message : String) (recoverable : Bool) :
    (t.publishError message recoverable).conn = t.conn := rfl

@[simp] theorem conn_publishFault (t : Turn) (f : Fault) : (t.publishFault f).conn = t.conn := rfl

section

variable {p : Effect → Bool} (t : Turn)

@[simp] theorem sift_mk (c : Connection) : sift p { t with conn := c } = t.sift p := rfl

@[simp] theorem sift_sent (n : Nat) : sift p { t with sends := n } = t.sift p := rfl

@[simp] theorem sift_effect (e : Effect) :
    (t.effect e).sift p = t.sift p ++ if p e then [e] else [] := by
  by_cases h : p e = true <;> simp [sift, effect, h]

@[simp] theorem sift_publish (event : String) (payload : Value) :
    (t.publish event payload).sift p =
      t.sift p ++ if p (.publish event payload) then [.publish event payload] else [] :=
  sift_effect ..

@[simp] theorem sift_answer (ticket : Ticket) (a : Answer) :
    (t.answer ticket a).sift p =
      t.sift p ++ if p (.reply ticket a) then [.reply ticket a] else [] :=
  sift_effect ..

@[simp] theorem sift_answerAll (replies : List Reply) :
    (t.answerAll replies).sift p = t.sift p ++ (replyEffects replies).filter p :=
  List.filter_append ..

@[simp] theorem sift_publishSnapshot :
    t.publishSnapshot.sift p =
      t.sift p ++ if p (.snapshot t.conn.snapshot) then [.snapshot t.conn.snapshot] else [] :=
  sift_effect ..

@[simp] theorem sift_mapSnapshot (f : Snapshot → Snapshot) :
    (t.mapSnapshot f).sift p = t.sift p := rfl

@[simp] theorem sift_setRegistry (change : List Reply × Registry) :
    (t.setRegistry change).sift p = t.sift p ++ (replyEffects change.1).filter p :=
  sift_answerAll ..

@[simp] theorem sift_publishError (message : String) (recoverable : Bool) :
    (t.publishError message recoverable).sift p = (t.publish EventName.connectionError
      (ConnectionError.toValue ⟨message, recoverable⟩)).sift p := rfl

@[simp] theorem sift_publishFault (f : Fault) :
    (t.publishFault f).sift p = (t.publishError f.message f.isRecoverable).sift p := rfl

@[simp] theorem sift_stopHeartbeat : t.stopHeartbeat.sift p = t.sift p := rfl

@[simp] theorem sift_demoteAll :
    t.demoteAll.sift p = t.sift p ++ (replyEffects t.conn.registry.demoteAll.1).filter p :=
  sift_setRegistry ..

@[simp] theorem sift_setRetry (at? : Option Nat) : (t.setRetry at?).sift p = t.sift p := rfl

end

/-! ## Sending -/

/-- On a socket, sending writes one frame, and its fault is what befalls it. -/
theorem send_of_socket {t : Turn} {socket : SocketNumber} (h : t.conn.socket = some socket)
    (event : String) (payload : Value) :
    t.send event payload =
      let fault := t.moment.sendFault t.sends
      let frame := Effect.frame socket ⟨event, t.conn.normalizer.outbound payload⟩ fault
      (match fault with | none => .ok () | some f => .error f,
        { t with sends := t.sends + 1 }.effect frame) := by
  unfold send
  rw [h]
  dsimp only
  cases t.moment.sendFault t.sends <;> rfl

theorem send_of_no_socket {t : Turn} (h : t.conn.socket = none) (event : String)
    (payload : Value) : t.send event payload = (.error .notConnected, t) := by
  unfold send
  rw [h]

@[simp] theorem conn_send (t : Turn) (event : String) (payload : Value) :
    (t.send event payload).2.conn = t.conn := by
  cases h : t.conn.socket with
  | none => rw [send_of_no_socket h]
  | some socket => rw [send_of_socket h]; rfl

/-! ## Changing the state -/

@[simp] theorem conn_setState (t : Turn) (s : ConnectionState) :
    (t.setState s).conn = t.conn.entered s := by
  unfold setState Connection.entered
  by_cases h : t.conn.state = s <;> simp [h]

@[simp] theorem conn_stopHeartbeat (t : Turn) :
    t.stopHeartbeat.conn = { t.conn with heartbeat := t.conn.heartbeat.stop } := rfl

@[simp] theorem conn_demoteAll (t : Turn) :
    t.demoteAll.conn = { t.conn with registry := t.conn.registry.demoteAll.2 } := rfl

@[simp] theorem conn_dropAttempt (t : Turn) :
    t.dropAttempt.conn = { t.conn with attempt := none } := by
  unfold dropAttempt
  split <;> rfl

@[simp] theorem conn_closeSocket (t : Turn) :
    t.closeSocket.conn = { t.conn with socket := none } := by
  unfold closeSocket
  split
  · rename_i h
    rw [← h]
  · rfl

@[simp] theorem conn_setRetry (t : Turn) (at? : Option Nat) :
    (t.setRetry at?).conn = { t.conn with retryAt := at? } := rfl

section

variable {p : Effect → Bool} (t : Turn)

/-- On a socket, sending adds its frame. -/
theorem sift_send {socket : SocketNumber} (h : t.conn.socket = some socket) (event : String)
    (payload : Value) :
    let frame := Effect.frame socket ⟨event, t.conn.normalizer.outbound payload⟩
      (t.moment.sendFault t.sends)
    (t.send event payload).2.sift p = t.sift p ++ if p frame then [frame] else [] := by
  rw [send_of_socket h]
  exact sift_effect ..

/-- A kind of effects without frames does not have what sending adds. -/
@[simp] theorem sift_send_frameless
    (h : ∀ socket envelope fault, p (.frame socket envelope fault) = false) (event : String)
    (payload : Value) : (t.send event payload).2.sift p = t.sift p := by
  cases hs : t.conn.socket with
  | none => rw [send_of_no_socket hs]
  | some socket => rw [sift_send t hs, h]; simp

@[simp] theorem sift_dropAttempt (h : ∀ socket, p (.close socket) = false) :
    t.dropAttempt.sift p = t.sift p := by
  unfold dropAttempt
  split <;> simp [h]

@[simp] theorem sift_closeSocket (h : ∀ socket, p (.close socket) = false) :
    t.closeSocket.sift p = t.sift p := by
  unfold closeSocket
  split <;> simp [h]

/-- A kind of effects that nobody is told does not have what entering a state adds. -/
@[simp] theorem sift_setState (hs : ∀ shown, p (.snapshot shown) = false)
    (hp : ∀ event payload, p (.publish event payload) = false) (s : ConnectionState) :
    (t.setState s).sift p = t.sift p := by
  unfold setState
  by_cases h : t.conn.state = s <;> simp [h, hs, hp]

/-- Nor does it have what an event of the server is passed on with. -/
@[simp] theorem sift_route (hp : ∀ event payload, p (.publish event payload) = false)
    (event : String) (payload : Value) : (t.route event payload).sift p = t.sift p := by
  unfold route
  dsimp only
  split
  · rfl
  · simp [hp]

end

@[simp] theorem conn_goDisconnected (t : Turn) : t.goDisconnected.conn = t.conn.withdrawn := by
  simp [goDisconnected, Connection.withdrawn]

@[simp] theorem traffic_goDisconnected (t : Turn) : t.goDisconnected.traffic = t.traffic := by
  simp [goDisconnected]

/-! ## Retrying -/

@[simp] theorem conn_fail (t : Turn) (limit : Nat) : (t.fail limit).conn = t.conn.givenUp := by
  simp [fail, Connection.givenUp]

@[simp] theorem traffic_fail (t : Turn) (limit : Nat) : (t.fail limit).traffic = t.traffic := by
  simp [fail]

theorem scheduleRetry_off {t : Turn} (h : t.conn.config.options.autoReconnect = false) :
    t.scheduleRetry = t.goDisconnected := by
  unfold scheduleRetry
  simp only [h, Bool.not_false, if_true]

theorem scheduleRetry_spent {t : Turn} {limit : Nat}
    (h : t.conn.config.options.autoReconnect = true)
    (hl : t.conn.config.options.maxReconnectAttempts.filter (· ≤ t.conn.snapshot.attempt) =
      some limit) : t.scheduleRetry = t.fail limit := by
  unfold scheduleRetry
  simp only [h, Bool.not_true, Bool.false_eq_true, if_false, hl]

theorem conn_scheduleRetry_due {t : Turn} (h : t.conn.config.options.autoReconnect = true)
    (hl : t.conn.config.options.maxReconnectAttempts.filter (· ≤ t.conn.snapshot.attempt) =
      none) : ∃ due, t.scheduleRetry.conn = t.conn.putOff due := by
  refine ⟨t.moment.now + Span.ofMillis
    (t.conn.config.options.retryDelayMs t.conn.snapshot.attempt t.moment.draw), ?_⟩
  unfold scheduleRetry
  simp only [h, Bool.not_true, Bool.false_eq_true, if_false, hl, conn_publish]
  by_cases hs : t.conn.snapshot.state = .reconnecting
  · have hs' : t.conn.state = .reconnecting := hs
    simp [Connection.putOff, Connection.state, hs]
    rfl
  · simp [Connection.putOff, Connection.entered, Connection.state, hs]
    rfl

/-- **What a retry comes to.**  Without reconnecting the connection is withdrawn; with the retries
used up it is given up; else one more retry is planned. -/
theorem conn_scheduleRetry (t : Turn) :
    let options := t.conn.config.options
    (options.autoReconnect = false ∧ t.scheduleRetry.conn = t.conn.withdrawn) ∨
    (options.autoReconnect = true ∧
      (∃ limit, options.maxReconnectAttempts = some limit ∧ limit ≤ t.conn.snapshot.attempt) ∧
      t.scheduleRetry.conn = t.conn.givenUp) ∨
    (options.autoReconnect = true ∧
      (∀ limit, options.maxReconnectAttempts = some limit → t.conn.snapshot.attempt < limit) ∧
      ∃ due, t.scheduleRetry.conn = t.conn.putOff due) := by
  dsimp only
  cases ha : t.conn.config.options.autoReconnect with
  | false => exact Or.inl ⟨rfl, by rw [scheduleRetry_off ha, conn_goDisconnected]⟩
  | true =>
    cases hl : t.conn.config.options.maxReconnectAttempts.filter
        (· ≤ t.conn.snapshot.attempt) with
    | some limit =>
      obtain ⟨hm, hle⟩ := Option.filter_eq_some_iff.1 hl
      refine Or.inr (Or.inl ⟨rfl, ⟨limit, hm, by simpa using hle⟩, ?_⟩)
      rw [scheduleRetry_spent ha hl, conn_fail]
    | none =>
      refine Or.inr (Or.inr ⟨rfl, fun limit hm => ?_, conn_scheduleRetry_due ha hl⟩)
      rw [hm, Option.filter_eq_none_iff] at hl
      simpa using hl limit rfl

@[simp] theorem traffic_scheduleRetry (t : Turn) : t.scheduleRetry.traffic = t.traffic := by
  unfold scheduleRetry
  by_cases ha : t.conn.config.options.autoReconnect = true
  · simp only [ha, Bool.not_true, Bool.false_eq_true, if_false]
    split
    · exact traffic_fail ..
    · split <;> simp
  · simp [ha]

/-- Losing a connection severs it; then it is withdrawn if the session ended, and else retried. -/
theorem lose_eq (t : Turn) (reason : DisconnectReason) (ended : Bool) :
    ∃ t' : Turn, t'.conn = t.conn.severed ∧ t'.traffic = t.traffic ∧
      t.lose reason ended = if ended then t'.goDisconnected else t'.scheduleRetry := by
  let cut := (t.stopHeartbeat.demoteAll.closeSocket).publish EventName.disconnect reason.toValue
  have hconn : cut.conn = t.conn.severed := by simp [cut, Connection.severed]
  have htraffic : cut.traffic = t.traffic := by simp [cut]
  cases ended with
  | false => exact ⟨cut, hconn, htraffic, rfl⟩
  | true =>
    refine ⟨cut.publishError ("Session ended by server: " ++ reason.message) false, hconn, ?_, rfl⟩
    simpa using htraffic

/-- A failed attempt is dropped; then the connection is retried or withdrawn. -/
theorem attemptFailed_eq (t : Turn) (f : Fault) :
    ∃ t' : Turn, t'.conn = { t.conn with attempt := none } ∧ t'.traffic = t.traffic ∧
      t.attemptFailed f = if f.isRecoverable then t'.scheduleRetry else t'.goDisconnected :=
  ⟨t.dropAttempt.publishFault f, by simp, by simp, rfl⟩

/-! ## Requests and the end of a connection -/

/-- A request that could not be sent costs the connection; else nothing follows from it. -/
theorem request_eq (t : Turn) (operation : Operation) (entity : String) :
    let sent := t.send operation.name (Payload.ofEntity entity)
    (sent.1 = .ok () ∧ t.request operation entity = sent.2) ∨
    ∃ reason, t.request operation entity = sent.2.lose reason false := by
  dsimp only
  unfold request
  split
  · rename_i t' h
    rw [h]
    exact Or.inl ⟨rfl, rfl⟩
  · rename_i f t' h
    rw [h]
    exact Or.inr ⟨_, rfl⟩

@[simp] theorem conn_closeGracefully (t : Turn) :
    t.closeGracefully.conn = { t.conn with socket := none } := by
  have hfold : ∀ (entities : List String) (t : Turn),
      (entities.foldl (fun t entity =>
        (t.send EventName.unsubscribe (Payload.ofEntity entity)).2) t).conn = t.conn := by
    intro entities
    induction entities with
    | nil => exact fun _ => rfl
    | cons entity rest ih => intro t; rw [List.foldl_cons, ih, conn_send]
  unfold closeGracefully
  rw [conn_closeSocket, hfold]

/-- Tearing down stops everything and drops every subscription. -/
theorem conn_tearDown (t : Turn) :
    t.tearDown.conn = t.conn.tornDown := by
  unfold tearDown Connection.tornDown
  cases hs : t.conn.socket with
  | none => simp [hs]
  | some socket => simp [hs]

/-- Tearing down writes what closing the connection writes, if there is one. -/
theorem traffic_tearDown (t : Turn) :
    t.tearDown.traffic =
      if t.conn.socket.isSome then t.dropAttempt.closeGracefully.traffic else t.traffic := by
  unfold tearDown
  by_cases h : t.conn.socket.isSome = true
  · simp [h]
  · simp [h]

/-! ## Timers -/

/-- The turn after the heartbeat was asked what to do. -/
def polled (t : Turn) : Turn :=
  { t with conn := { t.conn with heartbeat := (t.conn.heartbeat.poll t.moment.now).2 } }

/-- The turn after callers were told of a probe that goes out. -/
def probed (t : Turn) : Turn :=
  (t.polled.mapSnapshot fun s => { s with pingAt := t.polled.conn.heartbeat.lastSent
    }).publishSnapshot

/-- **What the heartbeat comes to.**  There is nothing to do; or a probe is sent, and a fault costs
the connection; or the peer was silent for too long, which costs it as well. -/
theorem beat_eq (t : Turn) :
    let action := (t.conn.heartbeat.poll t.moment.now).1
    (action = .idle ∧ t.beat = t.polled) ∨
    (∃ seq, action = .ping seq ∧
      (t.beat = (t.probed.send EventName.ping (Heartbeat.pingPayload seq)).2 ∨
        ∃ reason, t.beat =
          (t.probed.send EventName.ping (Heartbeat.pingPayload seq)).2.lose reason false)) ∨
    (action = .expired ∧ ∃ message reason,
      t.beat = (t.polled.publishError message true).lose reason false) := by
  dsimp only
  unfold beat probed polled
  generalize t.conn.heartbeat.poll t.moment.now = answer
  obtain ⟨action, heartbeat⟩ := answer
  cases action with
  | idle => exact Or.inl ⟨rfl, rfl⟩
  | expired => exact Or.inr (Or.inr ⟨rfl, _, _, rfl⟩)
  | ping seq =>
    refine Or.inr (Or.inl ⟨seq, rfl, ?_⟩)
    dsimp only
    split
    · rename_i h
      exact Or.inl (by rw [h])
    · rename_i h
      exact Or.inr ⟨_, by rw [h]⟩

/-- Requests that time out are dropped and announced; nothing is written. -/
theorem expireRequests_eq (t : Turn) :
    t.expireRequests.conn =
        { t.conn with registry := (t.conn.registry.expire t.moment.now).2.2 } ∧
      t.expireRequests.traffic = t.traffic := by
  have hfold : ∀ (overdue : List (String × Operation)) (t : Turn),
      (overdue.foldl announceOverdue t).conn = t.conn ∧
        (overdue.foldl announceOverdue t).traffic = t.traffic := by
    intro overdue
    induction overdue with
    | nil => exact fun _ => ⟨rfl, rfl⟩
    | cons e rest ih =>
      intro t
      obtain ⟨hconn, htraffic⟩ := ih (t.announceOverdue e)
      exact ⟨hconn, htraffic.trans (by simp [announceOverdue])⟩
  unfold expireRequests
  obtain ⟨hconn, htraffic⟩ := hfold (t.conn.registry.expire t.moment.now).1
    (t.setRegistry (t.conn.registry.expire t.moment.now).2)
  exact ⟨hconn, htraffic.trans (by simp)⟩

/-! ## The beginning of a connection -/

@[simp] theorem moment_setState (t : Turn) (s : ConnectionState) :
    (t.setState s).moment = t.moment := by
  unfold setState
  by_cases h : t.conn.state = s
  · simp [h]
  · simp [h]
    rfl

/-- The turn after a completed handshake, before any subscription is asked for. -/
def opened (t : Turn) (socket : SocketNumber) (socketId : Option String) : Turn :=
  let held : Turn := { t with conn := { t.conn with
    socket := some socket
    attempt := none
    retryAt := none
    snapshot := { t.conn.snapshot with socketId := socketId, attempt := 0 }
    dedup := t.conn.dedup.clear
    heartbeat := t.conn.heartbeat.start t.moment.now } }
  let told := (held.setState .connected).publish EventName.connect (connectNotice socketId)
  told.setRegistry ([], (t.conn.registry.reissue t.moment.now).2)

section

variable (t : Turn) (socket : SocketNumber) (socketId : Option String)

@[simp] theorem conn_opened :
    (t.opened socket socketId).conn = t.conn.established socket socketId t.moment.now := by
  simp [opened, Connection.established]

@[simp] theorem traffic_opened : (t.opened socket socketId).traffic = t.traffic := by
  simp [opened]

@[simp] theorem moment_opened : (t.opened socket socketId).moment = t.moment :=
  moment_setState ..

/-- A completed handshake opens the connection; then the subscriptions that waited are asked for
one by one. -/
theorem establish_opened : t.establish socket socketId =
    (t.conn.registry.reissue t.moment.now).1.foldl requestAgain (t.opened socket socketId) := by
  let held : Turn := { t with conn := { t.conn with
    socket := some socket
    attempt := none
    retryAt := none
    snapshot := { t.conn.snapshot with socketId := socketId, attempt := 0 }
    dedup := t.conn.dedup.clear
    heartbeat := t.conn.heartbeat.start t.moment.now } }
  let told := (held.setState .connected).publish EventName.connect (connectNotice socketId)
  have hmoment : told.moment = t.moment := moment_setState held .connected
  have hregistry : told.conn.registry = t.conn.registry := by simp [told, held]
  show (told.conn.registry.reissue told.moment.now).1.foldl requestAgain
    (told.setRegistry ([], (told.conn.registry.reissue told.moment.now).2)) = _
  rw [hregistry, hmoment]
  rfl

/-- What a completed handshake comes to. -/
theorem establish_eq :
    ∃ t' : Turn, t'.conn = t.conn.established socket socketId t.moment.now ∧
      t'.traffic = t.traffic ∧ t'.moment = t.moment ∧
      t.establish socket socketId =
        (t.conn.registry.reissue t.moment.now).1.foldl requestAgain t' :=
  ⟨t.opened socket socketId, by simp, by simp, by simp, establish_opened ..⟩

end

end Turn
end LiveSync
