import LiveSync.Proofs.Connection.Relay

/-!
# Holding repetitions back only filters what listeners see

Take two connections that differ in nothing but the filter for repeated events: for how long it
remembers, how much, and which events it may hold back.  Given the same inputs at the same moments
they do the same and become the same, apart from the filter.  The one difference that can be seen is
an event of the server which one of them passes on to listeners and the other holds back.

* `Connection.filtered` — a connection with other settings for repetitions and another filter.
* `setState_filtered`, `lose_filtered`, … — no part of a step looks at the filter, except that
  `establish` clears it and `route` asks it.
* `Connection.Parted` — effects that differ in one event of the server at most.
* `twin_step` — what one step does with another filter.
* `repetitions_only_withheld` — all of it, for every run of a connection that was just built.
-/

namespace LiveSync

open LiveSync.Json

/-- Only listed events are held back. -/
theorem DedupFilter.listed_of_offer {f : DedupFilter} {event : String} {payload : Value}
    {now : Nat} (h : (f.offer event payload now).1 = true) : event ∈ f.events := by
  by_cases hlisted : event ∈ f.events
  · exact hlisted
  · simp [offer, hlisted] at h

/-! ## Another filter -/

/-- What an options file says about repeated events. -/
structure RepetitionRule where
  /-- For how long a repeated event is held back, in milliseconds. -/
  windowMs : Nat
  /-- How many events are remembered for that. -/
  maxEntries : Nat
  /-- The events that may be held back. -/
  events : List String

/-- The same settings, except for repeated events. -/
def Config.withRule (c : Config) (r : RepetitionRule) : Config :=
  { c with options := { c.options with
      dedupWindowMs := r.windowMs
      dedupMaxEntries := r.maxEntries
      dedupEvents := r.events } }

/-- The same connection with other settings for repeated events and another filter. -/
def Connection.filtered (c : Connection) (r : RepetitionRule) (f : DedupFilter) : Connection :=
  { c with config := c.config.withRule r, dedup := f }

namespace Turn

/-- The same turn on a connection with another filter. -/
def filtered (t : Turn) (r : RepetitionRule) (f : DedupFilter) : Turn :=
  { t with conn := t.conn.filtered r f }

section

variable (t : Turn) (r : RepetitionRule) (f : DedupFilter)

/-! ## Small steps -/

@[simp] theorem publish_filtered (event : String) (payload : Value) :
    (t.filtered r f).publish event payload = (t.publish event payload).filtered r f := rfl

@[simp] theorem answer_filtered (ticket : Ticket) (a : Answer) :
    (t.filtered r f).answer ticket a = (t.answer ticket a).filtered r f := rfl

@[simp] theorem effect_filtered (e : Effect) :
    (t.filtered r f).effect e = (t.effect e).filtered r f := rfl

@[simp] theorem publishSnapshot_filtered :
    (t.filtered r f).publishSnapshot = t.publishSnapshot.filtered r f := rfl

@[simp] theorem mapSnapshot_filtered (g : Snapshot → Snapshot) :
    (t.filtered r f).mapSnapshot g = (t.mapSnapshot g).filtered r f := rfl

@[simp] theorem setRegistry_filtered (change : List Reply × Registry) :
    (t.filtered r f).setRegistry change = (t.setRegistry change).filtered r f := rfl

@[simp] theorem publishError_filtered (message : String) (recoverable : Bool) :
    (t.filtered r f).publishError message recoverable =
      (t.publishError message recoverable).filtered r f := rfl

@[simp] theorem publishFault_filtered (fault : Fault) :
    (t.filtered r f).publishFault fault = (t.publishFault fault).filtered r f := rfl

@[simp] theorem stopHeartbeat_filtered :
    (t.filtered r f).stopHeartbeat = t.stopHeartbeat.filtered r f := rfl

@[simp] theorem demoteAll_filtered : (t.filtered r f).demoteAll = t.demoteAll.filtered r f := rfl

@[simp] theorem setRetry_filtered (at? : Option Nat) :
    (t.filtered r f).setRetry at? = (t.setRetry at?).filtered r f := rfl

@[simp] theorem send_filtered (event : String) (payload : Value) :
    (t.filtered r f).send event payload =
      ((t.send event payload).1, (t.send event payload).2.filtered r f) := by
  cases h : t.conn.socket with
  | none =>
    have h' : (t.filtered r f).conn.socket = none := h
    rw [send_of_no_socket h, send_of_no_socket h']
  | some socket =>
    have h' : (t.filtered r f).conn.socket = some socket := h
    rw [send_of_socket h, send_of_socket h']
    rfl

@[simp] theorem setState_filtered (s : ConnectionState) :
    (t.filtered r f).setState s = (t.setState s).filtered r f := by
  by_cases h : t.conn.state = s
  · have h' : (t.filtered r f).conn.state = s := h
    simp [setState, h, h']
  · have h' : (t.filtered r f).conn.state ≠ s := h
    simp only [setState, h, h', if_false]
    rfl

@[simp] theorem dropAttempt_filtered :
    (t.filtered r f).dropAttempt = t.dropAttempt.filtered r f := by
  have h : (t.filtered r f).conn.attempt = t.conn.attempt := rfl
  simp only [dropAttempt, h]
  split <;> rfl

@[simp] theorem closeSocket_filtered :
    (t.filtered r f).closeSocket = t.closeSocket.filtered r f := by
  have h : (t.filtered r f).conn.socket = t.conn.socket := rfl
  simp only [closeSocket, h]
  split <;> rfl

/-! ## Losing a connection, an attempt or both -/

@[simp] theorem registry_filtered : (t.filtered r f).conn.registry = t.conn.registry := rfl

@[simp] theorem moment_filtered : (t.filtered r f).moment = t.moment := rfl

@[simp] theorem state_filtered : (t.filtered r f).conn.state = t.conn.state := rfl

@[simp] theorem goDisconnected_filtered :
    (t.filtered r f).goDisconnected = t.goDisconnected.filtered r f := by
  simp [goDisconnected]

@[simp] theorem fail_filtered (limit : Nat) :
    (t.filtered r f).fail limit = (t.fail limit).filtered r f := by
  simp [fail]

/-- The settings for repeated events do not decide on retries. -/
@[simp] theorem scheduleRetry_filtered :
    (t.filtered r f).scheduleRetry = t.scheduleRetry.filtered r f := by
  have hauto : (t.filtered r f).conn.config.options.autoReconnect =
      t.conn.config.options.autoReconnect := rfl
  have hlimit : (t.filtered r f).conn.config.options.maxReconnectAttempts =
      t.conn.config.options.maxReconnectAttempts := rfl
  have hdelay : (t.filtered r f).conn.config.options.retryDelayMs =
      t.conn.config.options.retryDelayMs := rfl
  have hcount : (t.filtered r f).conn.snapshot.attempt = t.conn.snapshot.attempt := rfl
  simp only [scheduleRetry, hauto, hlimit, hdelay, hcount, mapSnapshot_filtered,
    setRetry_filtered, moment_filtered, state_filtered, goDisconnected_filtered, fail_filtered,
    publishSnapshot_filtered, setState_filtered, ← apply_ite (filtered · r f)]
  split
  · rfl
  · split <;> rfl

@[simp] theorem lose_filtered (reason : DisconnectReason) (ended : Bool) :
    (t.filtered r f).lose reason ended = (t.lose reason ended).filtered r f := by
  cases ended <;> simp [lose]

@[simp] theorem attemptFailed_filtered (fault : Fault) :
    (t.filtered r f).attemptFailed fault = (t.attemptFailed fault).filtered r f := by
  by_cases h : fault.isRecoverable = true <;> simp [attemptFailed, h]

@[simp] theorem request_filtered (operation : Operation) (entity : String) :
    (t.filtered r f).request operation entity = (t.request operation entity).filtered r f := by
  simp only [request, send_filtered]
  generalize t.send operation.name (Payload.ofEntity entity) = sent
  obtain ⟨outcome, t'⟩ := sent
  cases outcome <;> simp

@[simp] theorem closeGracefully_filtered :
    (t.filtered r f).closeGracefully = t.closeGracefully.filtered r f := by
  simp only [closeGracefully, registry_filtered]
  rw [← closeSocket_filtered]
  congr 1
  generalize t.conn.registry.activeEntities = entities
  induction entities generalizing t with
  | nil => rfl
  | cons entity rest ih =>
    simp only [List.foldl_cons, send_filtered]
    exact ih _

@[simp] theorem tearDown_filtered : (t.filtered r f).tearDown = t.tearDown.filtered r f := by
  have hsocket : (t.dropAttempt.filtered r f).conn.socket = t.dropAttempt.conn.socket := rfl
  simp only [tearDown, dropAttempt_filtered, hsocket, closeGracefully_filtered, publish_filtered,
    ← apply_ite (filtered · r f), stopHeartbeat_filtered, registry_filtered,
    setRegistry_filtered, setRetry_filtered, setState_filtered, effect_filtered]
  rfl

/-! ## Commands -/

@[simp] theorem beginConnect_filtered :
    (t.filtered r f).beginConnect = t.beginConnect.filtered r f := by
  simp only [beginConnect, moment_filtered]
  split <;> simp

@[simp] theorem tellStanding_filtered (entity : String) (ticket : Ticket) :
    (t.filtered r f).tellStanding entity ticket = (t.tellStanding entity ticket).filtered r f :=
  rfl

@[simp] theorem commandOffline_filtered (c : Command) :
    (t.filtered r f).commandOffline c = (t.commandOffline c).filtered r f := by
  cases c with
  | connect =>
    simp only [commandOffline, state_filtered]
    split <;> simp
  | disconnect => by_cases h : t.conn.state = .disconnected <;> simp [commandOffline, h]
  | emit event payload ticket => rfl
  | subscribe entity ticket =>
    by_cases h : t.conn.state.isActive = true <;> simp [commandOffline, h]
  | unsubscribe entity ticket => rfl
  | info entity ticket => rfl
  | shutdown => exact tearDown_filtered t r f

@[simp] theorem emitFor_filtered (event : String) (payload : Value) (ticket : Ticket) :
    (t.filtered r f).emitFor event payload ticket =
      (t.emitFor event payload ticket).filtered r f := by
  simp only [emitFor, send_filtered, answer_filtered]
  split <;> simp

@[simp] theorem requestAfter_filtered (change : Bool × List Reply × Registry)
    (operation : Operation) (entity : String) :
    (t.filtered r f).requestAfter change operation entity =
      (t.requestAfter change operation entity).filtered r f := by
  simp only [requestAfter, setRegistry_filtered]
  split <;> simp

@[simp] theorem commandConnected_filtered (c : Command) :
    (t.filtered r f).commandConnected c = (t.commandConnected c).filtered r f := by
  cases c <;> simp [commandConnected]

/-! ## Attempts -/

@[simp] theorem beginAttempt_filtered :
    (t.filtered r f).beginAttempt = t.beginAttempt.filtered r f := by
  simp only [beginAttempt, moment_filtered]
  split
  · simp
  · rfl

@[simp] theorem requestAgain_filtered (entity : String) :
    (t.filtered r f).requestAgain entity = (t.requestAgain entity).filtered r f := by
  have hsocket : (t.filtered r f).conn.socket = t.conn.socket := rfl
  simp only [requestAgain, hsocket]
  split <;> simp

theorem foldl_requestAgain_filtered (entities : List String) :
    entities.foldl requestAgain (t.filtered r f) =
      (entities.foldl requestAgain t).filtered r f := by
  induction entities generalizing t with
  | nil => rfl
  | cons entity rest ih => simp [ih]

/-- A new connection starts with an empty filter. -/
theorem opened_filtered (socket : SocketNumber) (socketId : Option String) :
    (t.filtered r f).opened socket socketId = (t.opened socket socketId).filtered r f.clear := by
  let held : Turn := { t with conn := { t.conn with
    socket := some socket
    attempt := none
    retryAt := none
    snapshot := { t.conn.snapshot with socketId := socketId, attempt := 0 }
    dedup := t.conn.dedup.clear
    heartbeat := t.conn.heartbeat.start t.moment.now } }
  have hentered : (held.filtered r f.clear).setState .connected =
      (held.setState .connected).filtered r f.clear := setState_filtered ..
  show (((held.filtered r f.clear).setState .connected).publish ..).setRegistry _ = _
  rw [hentered]
  rfl

theorem establish_filtered (socket : SocketNumber) (socketId : Option String) :
    (t.filtered r f).establish socket socketId =
      (t.establish socket socketId).filtered r f.clear := by
  rw [establish_opened, establish_opened, opened_filtered, foldl_requestAgain_filtered]
  rfl

@[simp] theorem dial_filtered (token : String) :
    (t.filtered r f).dial token = (t.dial token).filtered r f := rfl

@[simp] theorem awaitHandshake_filtered (socket : SocketNumber) :
    (t.filtered r f).awaitHandshake socket = (t.awaitHandshake socket).filtered r f := rfl

/-! ## An established connection -/

@[simp] theorem onPing_filtered (payload : Value) :
    (t.filtered r f).onPing payload = (t.onPing payload).filtered r f := by
  simp [onPing]

@[simp] theorem onPong_filtered (payload : Value) :
    (t.filtered r f).onPong payload = (t.onPong payload).filtered r f := by
  have hbeat : (t.filtered r f).conn.heartbeat = t.conn.heartbeat := rfl
  simp only [onPong, hbeat, moment_filtered]
  split <;> rfl

@[simp] theorem onSubscribeAck_filtered (payload : Value) :
    (t.filtered r f).onSubscribeAck payload = (t.onSubscribeAck payload).filtered r f := by
  simp only [onSubscribeAck, registry_filtered]
  split
  · rfl
  · split <;> rfl

@[simp] theorem onUnsubscribeAck_filtered (payload : Value) :
    (t.filtered r f).onUnsubscribeAck payload = (t.onUnsubscribeAck payload).filtered r f := by
  simp only [onUnsubscribeAck, registry_filtered]
  split <;> rfl

@[simp] theorem onWatchersChanged_filtered (payload : Value) :
    (t.filtered r f).onWatchersChanged payload =
      (t.onWatchersChanged payload).filtered r f := by
  simp only [onWatchersChanged, registry_filtered]
  split <;> rfl

@[simp] theorem onConnect_filtered (payload : Value) :
    (t.filtered r f).onConnect payload = (t.onConnect payload).filtered r f := by
  simp only [onConnect]
  split <;> rfl

/-- Whatever an event means for the connection itself, the filter has no part in it. -/
@[simp] theorem absorb_filtered (event : String) (payload : Value) :
    (t.filtered r f).absorb event payload = (t.absorb event payload).filtered r f := by
  simp only [absorb, onPing_filtered, onPong_filtered, onSubscribeAck_filtered,
    onUnsubscribeAck_filtered, onWatchersChanged_filtered, onConnect_filtered,
    ← apply_ite (filtered · r f)]

/-! ## Timers -/

@[simp] theorem beat_filtered : (t.filtered r f).beat = t.beat.filtered r f := by
  have hbeat : (t.filtered r f).conn.heartbeat = t.conn.heartbeat := rfl
  simp only [beat, hbeat, moment_filtered]
  generalize t.conn.heartbeat.poll t.moment.now = answer
  obtain ⟨action, heartbeat⟩ := answer
  let polled : Turn := { t with conn := { t.conn with heartbeat := heartbeat } }
  cases action with
  | idle => rfl
  | ping seq =>
    let probed := (polled.mapSnapshot fun s =>
      { s with pingAt := heartbeat.lastSent }).publishSnapshot
    dsimp only
    erw [send_filtered probed r f EventName.ping (Heartbeat.pingPayload seq)]
    generalize probed.send EventName.ping (Heartbeat.pingPayload seq) = sent
    obtain ⟨outcome, t'⟩ := sent
    cases outcome with
    | ok => rfl
    | error => exact lose_filtered ..
  | expired => exact lose_filtered (polled.publishError _ _) r f _ _

@[simp] theorem expireRequests_filtered :
    (t.filtered r f).expireRequests = t.expireRequests.filtered r f := by
  simp only [expireRequests, registry_filtered, moment_filtered, setRegistry_filtered]
  generalize t.setRegistry (t.conn.registry.expire t.moment.now).2 = t'
  generalize (t.conn.registry.expire t.moment.now).1 = overdue
  induction overdue generalizing t' with
  | nil => rfl
  | cons e rest ih => exact ih (t'.announceOverdue e)

end

/-! ## Passing an event on -/

/-- Only here the filter is asked. -/
theorem route_filtered (t : Turn) (r : RepetitionRule) (f : DedupFilter) (event : String)
    (payload : Value) :
    ((t.filtered r f).route event payload).conn =
        (t.route event payload).conn.filtered r (f.offer event payload t.moment.now).2 ∧
      (t.route event payload).effects = t.effects ++
        (if (t.conn.dedup.offer event payload t.moment.now).1 then []
          else [.publish event payload]) ∧
      ((t.filtered r f).route event payload).effects = t.effects ++
        (if (f.offer event payload t.moment.now).1 then [] else [.publish event payload]) := by
  have heffects : ∀ t' : Turn, (t'.route event payload).effects = t'.effects ++
      (if (t'.conn.dedup.offer event payload t'.moment.now).1 then []
        else [.publish event payload]) := by
    intro t'
    simp only [route]
    split <;> simp [publish, effect]
  refine ⟨?_, heffects t, heffects (t.filtered r f)⟩
  simp only [conn_route]
  rfl

end Turn

/-! ## What one step does with another filter -/

namespace Connection

/-- The effects of a step with two filters.  They are the same, but for one event of the server at
most: one filter may pass it on that the other holds back, if it is listed for the other. -/
inductive Parted (c : Connection) (listed listed' : List String) (i : Input) :
    (effects effects' : List Effect) → Prop where
  /-- There is no difference. -/
  | alike (effects : List Effect) : Parted c listed listed' i effects effects
  /-- The first filter holds an event back. -/
  | heldBack {frame : String} {e : Envelope} {effects : List Effect}
      (hi : i = .received (.ok (.text frame))) (hdecode : Frame.decode frame = .ok e)
      (hlisted : e.event ∈ listed) :
      Parted c listed listed' i effects
        (effects ++ [.publish e.event (c.normalizer.inbound e.data)])
  /-- The second filter holds an event back. -/
  | heldBack' {frame : String} {e : Envelope} {effects : List Effect}
      (hi : i = .received (.ok (.text frame))) (hdecode : Frame.decode frame = .ok e)
      (hlisted : e.event ∈ listed') :
      Parted c listed listed' i
        (effects ++ [.publish e.event (c.normalizer.inbound e.data)]) effects

end Connection

namespace Turn

open Connection

/-- A turn has become another one with another filter, of the same events. -/
def Twin (c : Connection) (r : RepetitionRule) (f : DedupFilter) (i : Input) (t t' : Turn) : Prop :=
  ∃ f', f'.events = f.events ∧ t'.conn = t.conn.filtered r f' ∧
    c.Parted c.dedup.events f.events i t.effects t'.effects

section

variable {c : Connection} {r : RepetitionRule} {f : DedupFilter} {i : Input} {t t' : Turn}

theorem twin_of_eq (h : t' = t.filtered r f) : Twin c r f i t t' := by
  subst h
  exact ⟨f, rfl, rfl, .alike _⟩

/-- An event of the server reaches the filter with everything else done already. -/
theorem twin_route {frame : String} {e : Envelope} (hi : i = .received (.ok (.text frame)))
    (hdecode : Frame.decode frame = .ok e) (hevents : t.conn.dedup.events = c.dedup.events) :
    Twin c r f i (t.route e.event (c.normalizer.inbound e.data))
      ((t.filtered r f).route e.event (c.normalizer.inbound e.data)) := by
  obtain ⟨hconn, heffects, heffects'⟩ :=
    route_filtered t r f e.event (c.normalizer.inbound e.data)
  have hkept := DedupFilter.rules_offer f e.event (c.normalizer.inbound e.data) t.moment.now
  refine ⟨_, (Prod.mk.inj hkept).1, hconn, ?_⟩
  rw [heffects, heffects']
  by_cases hheld : (t.conn.dedup.offer e.event (c.normalizer.inbound e.data) t.moment.now).1 = true
  · have hlisted : e.event ∈ c.dedup.events := hevents ▸ DedupFilter.listed_of_offer hheld
    by_cases hheld' : (f.offer e.event (c.normalizer.inbound e.data) t.moment.now).1 = true
    · rw [if_pos hheld, if_pos hheld']
      exact .alike _
    · rw [if_pos hheld, if_neg hheld', List.append_nil]
      exact .heldBack hi hdecode hlisted
  · by_cases hheld' : (f.offer e.event (c.normalizer.inbound e.data) t.moment.now).1 = true
    · rw [if_neg hheld, if_pos hheld', List.append_nil]
      exact .heldBack' hi hdecode (DedupFilter.listed_of_offer hheld')
    · rw [if_neg hheld, if_neg hheld']
      exact .alike _

theorem twin_receive (t : Turn) (item : Except Fault Incoming) :
    Twin t.conn r f (.received item) (t.receive item) ((t.filtered r f).receive item) := by
  match item with
  | .error fault => exact twin_of_eq (by simp [receive])
  | .ok (.closed reason) => exact twin_of_eq (by simp [receive])
  | .ok (.text frame) =>
    have hnormalizer : (t.filtered r f).conn.normalizer = t.conn.normalizer := rfl
    simp only [receive, onFrame, hnormalizer]
    cases hdecode : Frame.decode frame with
    | error fault => exact twin_of_eq rfl
    | ok e =>
      simp only [onEvent]
      by_cases herror : e.event = EventName.connectError
      · rw [if_pos herror, if_pos herror]
        exact twin_of_eq (by simp)
      · rw [if_neg herror, if_neg herror]
        by_cases hend : e.event = EventName.disconnect
        · rw [if_pos hend, if_pos hend]
          exact twin_of_eq (by simp)
        · rw [if_neg hend, if_neg hend, absorb_filtered]
          have hcalm := calm_absorb t e.event (t.conn.normalizer.inbound e.data)
          exact twin_route rfl hdecode (congrArg DedupFilter.events hcalm.dedup)

theorem twin_stepConnected (t : Turn) (i : Input) :
    Twin t.conn r f i (t.stepConnected i) ((t.filtered r f).stepConnected i) := by
  cases i with
  | received item => exact twin_receive t item
  | _ => exact twin_of_eq (by simp [stepConnected])

theorem twin_shakeHands (socket : SocketNumber) (item : Except Fault Incoming) :
    Twin c r f i (t.shakeHands socket item) ((t.filtered r f).shakeHands socket item) := by
  simp only [shakeHands]
  split
  · exact twin_of_eq rfl
  · exact ⟨f.clear, rfl, congrArg conn (establish_filtered ..), by
      rw [establish_filtered]; exact .alike _⟩
  · exact twin_of_eq (by simp)

theorem twin_stepAttempt (t : Turn) (i : Input) :
    Twin c r f i (t.stepAttempt i) ((t.filtered r f).stepAttempt i) := by
  have hattempt : (t.filtered r f).conn.attempt = t.conn.attempt := rfl
  have htimeouts : (t.filtered r f).conn.config.timeouts = t.conn.config.timeouts := rfl
  simp only [stepAttempt, hattempt, htimeouts]
  split
  case h_9 => exact twin_shakeHands ..
  all_goals exact twin_of_eq (by simp)

/-- **One step with another filter.** -/
theorem twin_step (t : Turn) (i : Input) :
    Twin t.conn r f i (t.step i) ((t.filtered r f).step i) := by
  have hstopped : (t.filtered r f).conn.stopped = t.conn.stopped := rfl
  have hretry : (t.filtered r f).conn.retryAt = t.conn.retryAt := rfl
  have hidle : (t.filtered r f).stepIdle i = (t.stepIdle i).filtered r f := by
    cases i <;> simp [stepIdle]
  have hbackoff : (t.filtered r f).stepBackoff i = (t.stepBackoff i).filtered r f := by
    cases i <;> simp [stepBackoff]
  simp only [step, hstopped, state_filtered, hretry]
  by_cases hs : t.conn.stopped = true
  · rw [if_pos hs, if_pos hs]
    exact twin_of_eq rfl
  · rw [if_neg hs, if_neg hs]
    split
    · exact twin_of_eq hidle
    · exact twin_of_eq hidle
    · exact twin_stepConnected t i
    all_goals
      by_cases hr : t.conn.retryAt.isSome = true
      · rw [if_pos hr, if_pos hr]
        exact twin_of_eq hbackoff
      · rw [if_neg hr, if_neg hr]
        exact twin_stepAttempt t i

end
end Turn

/-! ## Whole runs -/

/-- Is the effect a publication of one of the given events? -/
def Effect.publishesOneOf (names : List String) : Effect → Bool
  | .publish event _ => names.contains event
  | _ => false

namespace Connection

/-- The effects, without the publications of the given events. -/
def apartFrom (names : List String) (effects : List Effect) : List Effect :=
  effects.filter fun e => !e.publishesOneOf names

section

variable {c : Connection} {r : RepetitionRule} {f : DedupFilter}

/-- What parts the effects of a step is a publication of a listed event. -/
theorem Parted.apartFrom_eq {listed listed' : List String} {i : Input}
    {effects effects' : List Effect} (h : c.Parted listed listed' i effects effects') :
    apartFrom (listed ++ listed') effects' = apartFrom (listed ++ listed') effects := by
  cases h with
  | alike => rfl
  | heldBack _ _ hlisted => simp [apartFrom, Effect.publishesOneOf, hlisted]
  | heldBack' _ _ hlisted => simp [apartFrom, Effect.publishesOneOf, hlisted]

theorem parted_step (m : Moment) (i : Input) :
    ∃ f', f'.events = f.events ∧ ((c.filtered r f).step m i).1 = (c.step m i).1.filtered r f' ∧
      c.Parted c.dedup.events f.events i (c.step m i).2 ((c.filtered r f).step m i).2 :=
  Turn.twin_step { conn := c, moment := m } i

/-- A whole run with another filter. -/
theorem filtered_run (h : c.Ready) (inputs : List (Moment × Input)) :
    ∃ f', f'.events = f.events ∧
      ((c.filtered r f).run inputs).1 = (c.run inputs).1.filtered r f' ∧
      apartFrom (c.dedup.events ++ f.events) ((c.filtered r f).run inputs).2 =
        apartFrom (c.dedup.events ++ f.events) (c.run inputs).2 := by
  induction inputs generalizing c f with
  | nil => exact ⟨f, rfl, rfl, rfl⟩
  | cons first rest ih =>
    obtain ⟨m, i⟩ := first
    obtain ⟨f₁, hevents₁, hstep, hparted⟩ := parted_step (c := c) (r := r) (f := f) m i
    obtain ⟨f₂, hevents₂, hrun, heffects⟩ := ih (f := f₁) (ready_step h m i)
    have hlisted : (c.step m i).1.dedup.events = c.dedup.events :=
      (Prod.mk.inj (rules_step h m i)).1
    rw [hlisted, hevents₁] at heffects
    refine ⟨f₂, hevents₂.trans hevents₁, ?_, ?_⟩
    · show (((c.filtered r f).step m i).1.run rest).1 = _
      rw [hstep, hrun]
      rfl
    · show apartFrom _ (((c.filtered r f).step m i).2 ++
        (((c.filtered r f).step m i).1.run rest).2) =
          apartFrom _ ((c.step m i).2 ++ ((c.step m i).1.run rest).2)
      have happend : ∀ names a b, apartFrom names (a ++ b) =
          apartFrom names a ++ apartFrom names b := fun _ _ _ => List.filter_append ..
      rw [hstep, happend, happend, heffects, hparted.apartFrom_eq]

end

/-- **Holding repetitions back only filters what listeners see.**  Take two connections whose
settings differ in nothing but what they say about repeated events, and any run.  Both become the
same, filters apart.  At every moment of the run both have the same effects, in the same order, but
for one event of the server at most, which one of them passes on last and the other holds back; the
event is listed for the one that does.  So over the whole run the same frames are written, the same
answers are given, the same snapshots are shown, and the same is published under all names that are
on neither list. -/
theorem repetitions_only_withheld (config : Config) (r : RepetitionRule) :
    (∀ inputs, ∃ f, ((Connection.new (config.withRule r)).run inputs).1 =
        ((Connection.new config).run inputs).1.filtered r f) ∧
    (∀ before m i, let c := ((Connection.new config).run before).1
      let c' := ((Connection.new (config.withRule r)).run before).1
      c.Parted config.options.dedupEvents r.events i (c.step m i).2 (c'.step m i).2) ∧
    ∀ inputs, apartFrom (config.options.dedupEvents ++ r.events)
        ((Connection.new (config.withRule r)).run inputs).2 =
      apartFrom (config.options.dedupEvents ++ r.events)
        ((Connection.new config).run inputs).2 := by
  let empty := DedupFilter.new (Span.ofMillis r.windowMs) r.maxEntries r.events
  have hnew : Connection.new (config.withRule r) = (Connection.new config).filtered r empty := rfl
  have hrun := filtered_run (r := r) (f := empty) (ready_new config)
  rw [hnew]
  refine ⟨fun inputs => ?_, fun before m i => ?_, fun inputs => ?_⟩
  · obtain ⟨f, -, hconn, -⟩ := hrun inputs
    exact ⟨f, hconn⟩
  · obtain ⟨f, hevents, hconn, -⟩ := hrun before
    have hlisted := (Prod.mk.inj (rules_run (ready_new config) before)).1
    obtain ⟨-, -, -, hparted⟩ := parted_step (r := r) (f := f)
      (c := ((Connection.new config).run before).1) m i
    rw [hevents, hlisted] at hparted
    simp only [hconn]
    exact hparted
  · obtain ⟨-, -, -, heffects⟩ := hrun inputs
    exact heffects

end Connection
end LiveSync
