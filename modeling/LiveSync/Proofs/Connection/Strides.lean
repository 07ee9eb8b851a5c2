import LiveSync.Proofs.Connection.Deeds
import LiveSync.Proofs.Connection.Signals

/-!
# What a step does to the pace of a connection

Every reaction is one of a few strides.  Each says how the pace goes on, what becomes of the memory
of repetitions, and which signals are given, in their order.  What holds of the retries, of the
states that are announced and of the events that are passed on is read off the strides.

* `Onward` — the pace stays, or a connection or an attempt is given up.
* `Stride` — the kinds of strides.
* `strides_stepConnected`, `strides_stepAttempt`, … — which stride each part of a step takes.
* `stride_step` — every step takes one.
-/

namespace LiveSync

open LiveSync.Json

/-- Either the pace stays, and nothing new is told; or a connection or an attempt is given up. -/
inductive Pace.Onward (options : Options) (p : Pace) : Pace → List Effect → Prop where
  /-- The pace stays. -/
  | stays {told : List Effect} (hplain : ∀ e ∈ told, p.Plain e) : Onward options p p told
  /-- A connection or an attempt is given up. -/
  | quits {after : Pace} {ahead told : List Effect} (hplain : ∀ e ∈ ahead, p.Plain e)
      (h : p.Sequel options after told) : Onward options p after (ahead ++ told)

namespace Connection

/-- What listeners are told of an event of the server: nothing if it is a repetition. -/
def relay (c : Connection) (m : Moment) (event : String) (payload : Value) : List Effect :=
  if (c.dedup.offer event payload m.now).1 then [] else [.publish event payload]

/-- A command to connect is carried out: what the connection is afterwards, and what is told. -/
structure Starts (c c' : Connection) (told : List Effect) : Prop where
  /-- The memory of repetitions stays. -/
  dedup : c'.dedup = c.dedup
  /-- The efforts start over. -/
  pace : c'.pace = ⟨.connecting, 0, none, none⟩
  /-- Nothing but the new state is told. -/
  enters : Pace.Enters { c.pace with count := 0 } .connecting told

/-- A completed handshake is carried out; the connection may be lost again at once. -/
structure Greets (c : Connection) (socketId : Option String) (c' : Connection)
    (told : List Effect) : Prop where
  /-- Nothing is remembered of an earlier connection. -/
  dedup : c'.dedup = c.dedup.clear
  /-- The new state and the connection are told, and what follows from asking for
  subscriptions. -/
  signals : ∃ entering rest,
    told = entering ++ .publish EventName.connect (Turn.connectNotice socketId) :: rest ∧
    Pace.Enters { c.pace with count := 0 } .connected entering ∧
    Pace.Onward c.config.options ⟨.connected, 0, none, none⟩ c'.pace rest

/-- An event of the server is passed on, unless it is a repetition. -/
structure Passes (c : Connection) (m : Moment) (event : String) (payload : Value)
    (c' : Connection) (told : List Effect) : Prop where
  /-- It was offered to the memory of repetitions. -/
  dedup : c'.dedup = (c.dedup.offer event payload m.now).2
  /-- The pace stays. -/
  pace : c'.pace = c.pace
  /-- It is told last. -/
  signals : ∃ ahead, told = ahead ++ c.relay m event payload ∧ ∀ e ∈ ahead, c.pace.Plain e

/-- A connection or an attempt is given up. -/
structure Abandons (c c' : Connection) (told : List Effect) : Prop where
  /-- The memory of repetitions stays. -/
  dedup : c'.dedup = c.dedup
  /-- What is told is plain until the sequel. -/
  signals : ∃ ahead sequel, told = ahead ++ sequel ∧ (∀ e ∈ ahead, c.pace.Plain e) ∧
    c.pace.Sequel c.config.options c'.pace sequel

/-- The kinds of strides: what comes in, the connection afterwards, and the signals. -/
inductive Stride (c : Connection) (m : Moment) : Input → Connection → List Effect → Prop where
  /-- The pace stays, and nothing new is told. -/
  | calm {i : Input} {c' : Connection} {told : List Effect} (hdedup : c'.dedup = c.dedup)
      (hpace : c'.pace = c.pace) (hplain : ∀ e ∈ told, c.pace.Plain e) : Stride c m i c' told
  /-- A connection or an attempt is given up; at rest nothing but withdrawing is left. -/
  | abandoned {i : Input} {c' : Connection} {told : List Effect} (h : c.Abandons c' told)
      (hrest : c.AtRest → c'.state = .disconnected) : Stride c m i c' told
  /-- An event of the server is passed on. -/
  | passed {frame : String} {e : Envelope} {c' : Connection} {told : List Effect}
      (hc : c.state = .connected) (hdecode : Frame.decode frame = .ok e)
      (h : c.Passes m e.event (c.normalizer.inbound e.data) c' told) :
      Stride c m (.received (.ok (.text frame))) c' told
  /-- The server refuses the connection, which is passed on; then it is given up. -/
  | refused {frame : String} {e : Envelope} {c' : Connection} {told : List Effect}
      (hc : c.state = .connected) (hdecode : Frame.decode frame = .ok e)
      (herror : e.event = EventName.connectError) (h : c.Abandons c' told) :
      Stride c m (.received (.ok (.text frame))) c'
        (.publish EventName.connectError (c.normalizer.inbound e.data) :: told)
  /-- A command to connect is taken up. -/
  | started {i : Input} {c' : Connection} {told : List Effect} (haccepts : c.Accepts m i)
      (h : c.Starts c' told) : Stride c m i c' told
  /-- The delay before a retry has passed. -/
  | waited {c' : Connection} (hdedup : c'.dedup = c.dedup)
      (hpace : c'.pace = { c.pace with retryAt := none }) : Stride c m .retryDue c' []
  /-- An attempt begins with a token. -/
  | begun {c' : Connection} {token : String} (hdue : c.AttemptDue) (hdedup : c'.dedup = c.dedup)
      (hpace : c'.pace = { c.pace with attempt := some (.ready token) }) :
      Stride c m .attempt c' []
  /-- The transport is asked for a socket. -/
  | dialled {c' : Connection} {token : String} {deadline : Option Nat}
      (hready : c.attempt = some (.ready token)) (hdedup : c'.dedup = c.dedup)
      (hpace : c'.pace = { c.pace with attempt := some (.opening deadline) }) :
      Stride c m .dial c' [.dial c.config.url token]
  /-- There is a socket. -/
  | opened {c' : Connection} {deadline : Option Nat} {socket : SocketNumber} {due : Nat}
      (hopening : c.attempt = some (.opening deadline)) (hdedup : c'.dedup = c.dedup)
      (hpace : c'.pace = { c.pace with attempt := some (.handshaking socket due) }) :
      Stride c m (.opened (.ok socket)) c' []
  /-- The handshake is complete. -/
  | greeted {item : Except Fault Incoming} {c' : Connection} {socket : SocketNumber}
      {deadline : Nat} {socketId : Option String} {told : List Effect}
      (hshaking : c.attempt = some (.handshaking socket deadline))
      (hjudge : Turn.judge item = .established socketId) (h : c.Greets socketId c' told) :
      Stride c m (.received item) c' told

end Connection

namespace Turn

open Connection

/-- From one point of a turn to a later one, what becomes of the connection and what is told are
as described. -/
structure Makes (t t' : Turn) (P : Connection → List Effect → Prop) : Prop where
  /-- What the connection was built with stays. -/
  setup : t'.conn.setup = t.conn.setup
  /-- The signals are as described. -/
  signals : ∃ told, t'.signals = t.signals ++ told ∧ P t'.conn told

/-- From one point of a turn to a later one, the connection takes a stride. -/
def Strides (t : Turn) (i : Input) (t' : Turn) : Prop :=
  Makes t t' (t.conn.Stride t.moment i)

section

variable {t t' : Turn} {i : Input}

theorem Makes.imp {P Q : Connection → List Effect → Prop} (h : Makes t t' P)
    (hpq : ∀ c told, P c told → Q c told) : Makes t t' Q := by
  obtain ⟨told, htold, hmade⟩ := h.signals
  exact ⟨h.setup, told, htold, hpq _ _ hmade⟩

theorem Calm.strides (h : Calm t t') (i : Input) : Strides t i t' := by
  obtain ⟨told, htold, hplain⟩ := h.signals
  exact ⟨h.setup, told, htold, .calm h.dedup h.pace hplain⟩

theorem Quits.makes (h : Quits t t') : Makes t t' t.conn.Abandons := by
  obtain ⟨ahead, told, htold, hplain, hsequel⟩ := h.signals
  exact ⟨h.setup, _, htold, h.dedup, ahead, told, rfl, hplain, hsequel⟩

theorem Quits.strides (h : Quits t t') (i : Input)
    (hrest : t.conn.AtRest → t'.conn.state = .disconnected) : Strides t i t' := by
  obtain ⟨told, htold, hmade⟩ := h.makes.signals
  exact ⟨h.setup, told, htold, .abandoned hmade hrest⟩

end

/-- Nothing but what is calm, or it quits. -/
def Proceeds (t t' : Turn) : Prop :=
  Calm t t' ∨ Quits t t'

theorem Proceeds.after {t t' t'' : Turn} (h : Calm t t') (h' : Proceeds t' t'') :
    Proceeds t t'' :=
  h'.imp h.trans (Quits.after h.toLevel)

theorem Proceeds.strides {t t' : Turn} (h : Proceeds t t') (hactive : t.conn.state.isActive = true)
    (i : Input) : Strides t i t' := by
  rcases h with h | h
  · exact h.strides i
  · exact h.strides i fun hr => absurd (hr.symm.trans hactive) Bool.false_ne_true

/-! ## Requests -/

section

variable {t : Turn} (ha : t.conn.attempt = none)
include ha

theorem proceeds_lose (reason : DisconnectReason) (ended : Bool) :
    Proceeds t (t.lose reason ended) :=
  Or.inr (quits_lose ha reason ended)

theorem proceeds_request (operation : Operation) (entity : String) :
    Proceeds t (t.request operation entity) := by
  have hsent := calm_send t operation.name (Payload.ofEntity entity)
  rcases request_eq t operation entity with ⟨-, heq⟩ | ⟨reason, heq⟩
  · rw [heq]
    exact Or.inl hsent
  · rw [heq]
    exact Proceeds.after hsent (proceeds_lose (hsent.attempt.trans ha) reason false)

theorem proceeds_requestAfter (change : Bool × List Reply × Registry) (operation : Operation)
    (entity : String) : Proceeds t (t.requestAfter change operation entity) := by
  have hset := calm_setRegistry t change.2
  unfold requestAfter
  dsimp only
  split
  · exact Proceeds.after hset (proceeds_request (hset.attempt.trans ha) operation entity)
  · exact Or.inl hset

theorem proceeds_emitFor (event : String) (payload : Value) (ticket : Ticket) :
    Proceeds t (t.emitFor event payload ticket) := by
  have hsent := calm_send t event payload
  unfold emitFor
  generalize t.send event payload = sent at hsent ⊢
  obtain ⟨outcome, t'⟩ := sent
  have hanswered := hsent.trans (calm_answer t' ticket (.emitted outcome))
  dsimp only
  split
  · exact Proceeds.after hanswered (proceeds_lose (hanswered.attempt.trans ha) _ false)
  · exact Or.inl hanswered

end

/-- What was given up is not connected. -/
theorem Quits.ne_connected {t t' : Turn} (h : Quits t t') : t'.conn.state ≠ .connected := by
  obtain ⟨_, _, _, _, hsequel⟩ := h.signals
  exact hsequel.ne_connected

/-- Subscriptions are asked for one by one until one of the requests meets a fault. -/
theorem proceeds_requestAgain_foldl {t : Turn} (h : t.conn.Ready)
    (hc : t.conn.state = .connected) (entities : List String) :
    Proceeds t (entities.foldl requestAgain t) := by
  induction entities generalizing t with
  | nil => exact Or.inl (Calm.refl t)
  | cons entity rest ih =>
    have hagain : t.requestAgain entity = t.request .subscribe entity :=
      if_pos (h.socket.2 hc)
    have hready := ready_request h hc .subscribe entity
    rw [List.foldl_cons, hagain]
    rcases proceeds_request (h.noAttempt hc) .subscribe entity with hcalm | hquits
    · exact Proceeds.after hcalm (ih hready (hcalm.state.trans hc))
    · rw [foldl_requestAgain_of_no_socket (hready.noSocket hquits.ne_connected)]
      exact Or.inr hquits

/-! ## Commands -/

/-- A command to connect, with a usable token. -/
theorem starts_beginConnect {t : Turn} (h : t.conn.Ready)
    (hs : t.conn.state = .disconnected ∨ t.conn.state = .failed) {token : String}
    (hu : Credential.usable t.moment.token t.moment.seconds = .ok token) :
    Makes t t.beginConnect t.conn.Starts := by
  let wiped := (t.mapSnapshot fun s => { s with attempt := 0 }).setRetry none
  have heq : t.beginConnect = wiped.setState .connecting := by
    unfold beginConnect
    rw [hu]
  have hattempt : t.conn.attempt = none := by
    cases ha : t.conn.attempt with
    | none => rfl
    | some a =>
      obtain ⟨hwaits, -⟩ := h.attempt (by rw [ha]; rfl)
      rcases hs with hs | hs <;> rw [hs] at hwaits <;> exact absurd hwaits (by decide)
  obtain ⟨told, htold, henters⟩ := signals_setState wiped .connecting
  rw [heq]
  refine ⟨?_, told, htold, ?_, ?_, henters.of_eq rfl rfl⟩
  · rw [conn_setState, setup_entered]
    rfl
  · rw [conn_setState, dedup_entered]
    rfl
  · rw [conn_setState, pace_entered]
    simp [pace, wiped, hattempt]

theorem strides_beginConnect {t : Turn} (h : t.conn.Ready) (hr : t.conn.stopped = false)
    (hs : t.conn.state = .disconnected ∨ t.conn.state = .failed) :
    Strides t (.command .connect) t.beginConnect := by
  cases hu : Credential.usable t.moment.token t.moment.seconds with
  | error f =>
    have heq : t.beginConnect = t.publishFault f := by
      unfold beginConnect
      rw [hu]
    rw [heq]
    exact (calm_publishError ..).strides _
  | ok token =>
    exact (starts_beginConnect h hs hu).imp fun _ _ => .started ⟨rfl, hs, hr, token, hu⟩

theorem strides_commandOffline {t : Turn} (h : t.conn.Ready) (hr : t.conn.stopped = false)
    (c : Command) : Strides t (.command c) (t.commandOffline c) := by
  cases c with
  | connect =>
    dsimp only [commandOffline]
    split
    · rename_i hs
      exact strides_beginConnect h hr (Or.inl hs)
    · rename_i hs
      exact strides_beginConnect h hr (Or.inr hs)
    · exact (Calm.refl t).strides _
  | disconnect =>
    dsimp only [commandOffline]
    split
    · exact (Calm.refl t).strides _
    · exact (quits_goDisconnected t).strides _ fun _ => state_goDisconnected t
  | emit event payload ticket => exact (calm_answer ..).strides _
  | subscribe entity ticket =>
    dsimp only [commandOffline]
    split
    · exact (calm_setRegistry ..).strides _
    · exact (calm_answer ..).strides _
  | unsubscribe entity ticket => exact (calm_setRegistry ..).strides _
  | info entity ticket => exact (calm_answer ..).strides _
  | shutdown => exact (quits_tearDown t).strides _ fun _ => state_tearDown t

theorem proceeds_commandConnected {t : Turn} (ha : t.conn.attempt = none) (c : Command) :
    Proceeds t (t.commandConnected c) := by
  cases c with
  | connect => exact Or.inl (Calm.refl t)
  | disconnect =>
    have hleft : Calm t (t.closeGracefully.publish EventName.disconnect
        (DisconnectReason.toValue { message := "Client disconnected" })) :=
      (calm_closeGracefully t).trans (calm_notice _ _ (by simp [Pace.notices]))
    exact Proceeds.after hleft (Or.inr (quits_goDisconnected _))
  | emit event payload ticket => exact proceeds_emitFor ha event payload ticket
  | subscribe entity ticket => exact proceeds_requestAfter ha _ _ _
  | unsubscribe entity ticket => exact proceeds_requestAfter ha _ _ _
  | info entity ticket => exact Or.inl (calm_answer ..)
  | shutdown => exact Or.inr (quits_tearDown t)

/-! ## Attempts -/

theorem strides_beginAttempt {t : Turn} (hdue : t.conn.AttemptDue) :
    Strides t .attempt t.beginAttempt := by
  unfold beginAttempt
  split
  · exact (Quits.after (calm_publishError ..).toLevel (quits_goDisconnected _)).strides _
      fun _ => state_goDisconnected _
  · exact ⟨rfl, [], (List.append_nil _).symm, .begun hdue rfl rfl⟩

theorem strides_dial {t : Turn} {token : String} (h : t.conn.attempt = some (.ready token)) :
    Strides t .dial (t.dial token) := by
  refine ⟨rfl, [.dial t.conn.config.url token], ?_, .dialled h rfl rfl⟩
  simp [dial]

theorem strides_awaitHandshake {t : Turn} {deadline : Option Nat}
    (h : t.conn.attempt = some (.opening deadline)) (socket : SocketNumber) :
    Strides t (.opened (.ok socket)) (t.awaitHandshake socket) :=
  ⟨rfl, [], (List.append_nil _).symm, .opened h rfl rfl⟩

theorem strides_attemptFailed {t : Turn} (hactive : t.conn.state.isActive = true) (f : Fault)
    (i : Input) : Strides t i (t.attemptFailed f) :=
  Proceeds.strides (Or.inr (quits_attemptFailed t f)) hactive i

/-- What a completed handshake tells before any subscription is asked for. -/
theorem signals_opened (t : Turn) (socket : SocketNumber) (socketId : Option String) :
    ∃ told, (t.opened socket socketId).signals =
        t.signals ++ (told ++ [.publish EventName.connect (connectNotice socketId)]) ∧
      Pace.Enters { t.conn.pace with count := 0 } .connected told := by
  let held : Turn := { t with conn := { t.conn with
    socket := some socket
    attempt := none
    retryAt := none
    snapshot := { t.conn.snapshot with socketId := socketId, attempt := 0 }
    dedup := t.conn.dedup.clear
    heartbeat := t.conn.heartbeat.start t.moment.now } }
  obtain ⟨told, htold, henters⟩ := signals_setState held .connected
  refine ⟨told, ?_, henters.of_eq rfl rfl⟩
  show (((held.setState .connected).publish EventName.connect _).setRegistry _).signals = _
  simp only [sift_setRegistry, sift_publish, htold]
  simp [held]

/-- A completed handshake. -/
theorem greets_establish {t : Turn} (h : t.conn.Ready) {socket : SocketNumber} {deadline : Nat}
    (ha : t.conn.attempt = some (.handshaking socket deadline)) (socketId : Option String) :
    Makes t (t.establish socket socketId) (t.conn.Greets socketId) := by
  let opened := t.opened socket socketId
  have hconn : opened.conn = t.conn.established socket socketId t.moment.now := conn_opened ..
  have hready : opened.conn.Ready := by
    rw [hconn]
    exact ready_established h (h.attempt (by rw [ha]; rfl)).1 socket socketId _
  have hsetup : opened.conn.setup = t.conn.setup := by
    rw [hconn]
    exact setup_entered _ _
  have hdedup : opened.conn.dedup = t.conn.dedup.clear := by
    rw [hconn]
    exact dedup_entered _ _
  have hpace : opened.conn.pace = ⟨.connected, 0, none, none⟩ := by
    rw [hconn, pace_established]
  have hconfig : opened.conn.config = t.conn.config := congrArg Prod.fst hsetup
  obtain ⟨told, htold, henters⟩ := signals_opened t socket socketId
  have hproceeds : Proceeds opened (t.establish socket socketId) := by
    rw [establish_opened]
    exact proceeds_requestAgain_foldl hready (by rw [hconn, state_established]) _
  have hrest : ∃ rest, (t.establish socket socketId).signals = opened.signals ++ rest ∧
      Pace.Onward t.conn.config.options ⟨.connected, 0, none, none⟩
        (t.establish socket socketId).conn.pace rest := by
    rcases hproceeds with hcalm | hquits
    · obtain ⟨rest, hrest, hplain⟩ := hcalm.signals
      rw [hpace] at hplain
      refine ⟨rest, hrest, ?_⟩
      rw [hcalm.pace, hpace]
      exact .stays hplain
    · obtain ⟨ahead, rest, hrest, hplain, hsequel⟩ := hquits.signals
      rw [hpace] at hplain hsequel
      rw [hconfig] at hsequel
      exact ⟨_, hrest, .quits hplain hsequel⟩
  obtain ⟨rest, hrest, honward⟩ := hrest
  have hsetup' : (t.establish socket socketId).conn.setup = opened.conn.setup :=
    hproceeds.elim (·.setup) (·.setup)
  have hdedup' : (t.establish socket socketId).conn.dedup = opened.conn.dedup :=
    hproceeds.elim (·.dedup) (·.dedup)
  have hsignals : (t.establish socket socketId).signals = t.signals ++
      (told ++ .publish EventName.connect (connectNotice socketId) :: rest) := by
    rw [hrest, htold]
    simp
  exact ⟨hsetup'.trans hsetup, _, hsignals, hdedup'.trans hdedup, told, rest, rfl, henters,
    honward⟩

theorem strides_shakeHands {t : Turn} (h : t.conn.Ready) {socket : SocketNumber} {deadline : Nat}
    (ha : t.conn.attempt = some (.handshaking socket deadline))
    (hactive : t.conn.state.isActive = true) (item : Except Fault Incoming) :
    Strides t (.received item) (t.shakeHands socket item) := by
  unfold shakeHands
  split
  · exact (Calm.refl t).strides _
  · rename_i socketId hj
    exact (greets_establish h ha socketId).imp fun _ _ => .greeted ha hj
  · exact strides_attemptFailed hactive _ _

theorem strides_stepAttempt {t : Turn} (h : t.conn.Ready)
    (hs : t.conn.state = .connecting ∨ t.conn.state = .reconnecting)
    (hretry : t.conn.retryAt = none) (i : Input) : Strides t i (t.stepAttempt i) := by
  have hactive : t.conn.state.isActive = true := by rcases hs with hs | hs <;> rw [hs] <;> rfl
  have hrunning : t.conn.stopped = false :=
    h.running (by rcases hs with hs | hs <;> rw [hs] <;> decide)
  unfold stepAttempt
  split
  · rename_i hnone
    exact strides_beginAttempt ⟨hs, hretry, hnone⟩
  · exact (Calm.refl t).strides _
  · exact strides_commandOffline h hrunning _
  · exact (quits_tearDown t).strides _ fun _ => state_tearDown t
  · rename_i hready
    exact strides_dial hready
  · rename_i hopening
    exact strides_awaitHandshake hopening _
  · exact strides_attemptFailed hactive _ _
  · exact strides_attemptFailed hactive _ _
  · rename_i hshaking
    exact strides_shakeHands h hshaking hactive _
  · exact strides_attemptFailed hactive _ _
  · exact (Calm.refl t).strides _

/-! ## Frames of an established connection -/

theorem calm_onPong (t : Turn) (payload : Value) : Calm t (t.onPong payload) := by
  have hbeat : ∀ heartbeat : Heartbeat,
      Calm t { t with conn := { t.conn with heartbeat := heartbeat } } :=
    fun _ => .of_silent rfl rfl rfl rfl rfl
  unfold onPong
  dsimp only
  split
  · exact (hbeat _).trans (calm_shown _ rfl rfl)
  · exact hbeat _

theorem calm_onSubscribeAck (t : Turn) (payload : Value) : Calm t (t.onSubscribeAck payload) := by
  unfold onSubscribeAck
  split
  · exact Calm.refl t
  · split
    · exact (calm_setRegistry ..).trans (calm_notice _ _ (by simp [Pace.notices]))
    · exact calm_setRegistry ..

theorem calm_onUnsubscribeAck (t : Turn) (payload : Value) :
    Calm t (t.onUnsubscribeAck payload) := by
  unfold onUnsubscribeAck
  split
  · exact Calm.refl t
  · exact calm_setRegistry ..

theorem calm_onWatchersChanged (t : Turn) (payload : Value) :
    Calm t (t.onWatchersChanged payload) := by
  unfold onWatchersChanged
  split
  · exact calm_setRegistry ..
  · exact Calm.refl t

theorem calm_onConnect (t : Turn) (payload : Value) : Calm t (t.onConnect payload) := by
  unfold onConnect
  split
  · exact Calm.refl t
  · exact calm_shown _ rfl rfl

/-- What an event means for the connection itself leaves its pace alone. -/
theorem calm_absorb (t : Turn) (event : String) (payload : Value) :
    Calm t (t.absorb event payload) := by
  unfold absorb
  split
  · exact calm_send ..
  split
  · exact calm_onPong ..
  split
  · exact calm_onSubscribeAck ..
  split
  · exact calm_onUnsubscribeAck ..
  split
  · exact calm_onWatchersChanged ..
  split
  · exact calm_onConnect ..
  · exact Calm.refl t

theorem signals_route (t : Turn) (event : String) (payload : Value) :
    (t.route event payload).signals = t.signals ++ t.conn.relay t.moment event payload := by
  unfold route relay
  dsimp only
  split
  · exact (List.append_nil _).symm
  · simp

@[simp] theorem conn_route (t : Turn) (event : String) (payload : Value) :
    (t.route event payload).conn =
      { t.conn with dedup := (t.conn.dedup.offer event payload t.moment.now).2 } := by
  unfold route
  dsimp only
  split <;> rfl

theorem relay_of_eq {c c' : Connection} (h : c'.dedup = c.dedup) (m : Moment) (event : String)
    (payload : Value) : c'.relay m event payload = c.relay m event payload := by
  unfold relay
  rw [h]

/-- An event that does not end the connection is absorbed and passed on. -/
theorem passes_onEvent (t : Turn) {event : String} (payload : Value)
    (herror : event ≠ EventName.connectError) (hend : event ≠ EventName.disconnect) :
    Makes t (t.onEvent event payload) (t.conn.Passes t.moment event payload) := by
  have heq : t.onEvent event payload = (t.absorb event payload).route event payload := by
    unfold onEvent
    rw [if_neg herror, if_neg hend]
  have hcalm := calm_absorb t event payload
  obtain ⟨ahead, hahead, hplain⟩ := hcalm.signals
  have hsignals : (t.onEvent event payload).signals =
      t.signals ++ (ahead ++ t.conn.relay t.moment event payload) := by
    rw [heq, signals_route, hahead, hcalm.moment, relay_of_eq hcalm.dedup, List.append_assoc]
  refine ⟨?_, _, hsignals, ?_, ?_, ahead, rfl, hplain⟩
  · rw [heq, conn_route]
    exact hcalm.setup
  · rw [heq, conn_route, hcalm.moment, hcalm.dedup]
  · rw [heq, conn_route]
    exact hcalm.pace

/-- The server disconnects. -/
theorem quits_onEvent {t : Turn} (ha : t.conn.attempt = none) (payload : Value) :
    Quits t (t.onEvent EventName.disconnect payload) := by
  unfold onEvent
  rw [if_neg (by decide), if_pos rfl]
  exact quits_lose ha _ _

/-- The server refuses the connection. -/
theorem refuses_onEvent {t : Turn} (ha : t.conn.attempt = none) (payload : Value) :
    Makes t (t.onEvent EventName.connectError payload) fun c' told =>
      ∃ rest, told = .publish EventName.connectError payload :: rest ∧ t.conn.Abandons c' rest := by
  let told := t.publish EventName.connectError payload
  have heq : t.onEvent EventName.connectError payload =
      told.lose { message := textField payload "message" "connect_error" } true := by
    unfold onEvent
    rw [if_pos rfl]
  have hattempt : told.conn.attempt = none := ha
  have hquits := quits_lose hattempt { message := textField payload "message" "connect_error" }
    true
  obtain ⟨rest, hrest, hmade⟩ := hquits.makes.signals
  rw [heq]
  refine ⟨hquits.setup, .publish EventName.connectError payload :: rest, ?_, rest, rfl, hmade⟩
  rw [hrest]
  simp [told]

theorem strides_onFrame {t : Turn} (h : t.conn.Ready) (hc : t.conn.state = .connected)
    (frame : String) : Strides t (.received (.ok (.text frame))) (t.onFrame frame) := by
  unfold onFrame
  split
  · exact (Calm.refl t).strides _
  · rename_i e hdecode
    by_cases herror : e.event = EventName.connectError
    · rw [herror]
      refine (refuses_onEvent (h.noAttempt hc) _).imp fun c' told hrefused => ?_
      obtain ⟨rest, rfl, hmade⟩ := hrefused
      exact .refused hc hdecode herror hmade
    · by_cases hend : e.event = EventName.disconnect
      · rw [hend]
        exact (quits_onEvent (h.noAttempt hc) _).strides _
          fun hr => absurd (hr.symm.trans (by rw [hc]; rfl)) Bool.false_ne_true
      · exact (passes_onEvent t _ herror hend).imp fun _ _ => .passed hc hdecode

theorem strides_receive {t : Turn} (h : t.conn.Ready) (hc : t.conn.state = .connected)
    (item : Except Fault Incoming) : Strides t (.received item) (t.receive item) := by
  have hactive : t.conn.state.isActive = true := by rw [hc]; rfl
  unfold receive
  split
  · exact strides_onFrame h hc _
  · exact (proceeds_lose (h.noAttempt hc) _ _).strides hactive _
  · rename_i f
    have htold : Calm t (t.publishFault f) := calm_publishError ..
    exact (Proceeds.after htold
      (proceeds_lose (htold.attempt.trans (h.noAttempt hc)) _ false)).strides hactive _

/-! ## Timers -/

theorem proceeds_beat {t : Turn} (ha : t.conn.attempt = none) : Proceeds t t.beat := by
  have hpolled : Calm t t.polled := .of_silent rfl rfl rfl rfl rfl
  have hprobed : Calm t t.probed := hpolled.trans (calm_shown _ rfl rfl)
  rcases beat_eq t with ⟨-, heq⟩ | ⟨seq, -, heq | ⟨reason, heq⟩⟩ | ⟨-, message, reason, heq⟩
  · exact Or.inl (heq ▸ hpolled)
  · exact Or.inl (heq ▸ hprobed.trans (calm_send ..))
  · have hsent := hprobed.trans (calm_send _ EventName.ping (Heartbeat.pingPayload seq))
    rw [heq]
    exact Proceeds.after hsent (proceeds_lose (hsent.attempt.trans ha) reason false)
  · have hexpired := hpolled.trans (calm_publishError _ message true)
    rw [heq]
    exact Proceeds.after hexpired (proceeds_lose (hexpired.attempt.trans ha) reason false)

theorem calm_expireRequests (t : Turn) : Calm t t.expireRequests := by
  have hannounced : ∀ (overdue : List (String × Operation)) (t : Turn),
      Calm t (overdue.foldl announceOverdue t) := by
    intro overdue
    induction overdue with
    | nil => exact Calm.refl
    | cons e rest ih => exact fun t => (calm_notice _ _ (by simp [Pace.notices])).trans (ih _)
  exact (calm_setRegistry ..).trans (hannounced _ _)

theorem strides_stepConnected {t : Turn} (h : t.conn.Ready) (hc : t.conn.state = .connected)
    (i : Input) : Strides t i (t.stepConnected i) := by
  have hactive : t.conn.state.isActive = true := by rw [hc]; rfl
  unfold stepConnected
  split
  · exact (proceeds_commandConnected (h.noAttempt hc) _).strides hactive _
  · exact (quits_tearDown t).strides _ fun _ => state_tearDown t
  · exact strides_receive h hc _
  · exact (proceeds_beat (h.noAttempt hc)).strides hactive _
  · exact (calm_expireRequests t).strides _
  · exact (Calm.refl t).strides _

/-! ## Every input -/

theorem strides_stepIdle {t : Turn} (h : t.conn.Ready) (hr : t.conn.stopped = false) (i : Input) :
    Strides t i (t.stepIdle i) := by
  unfold stepIdle
  split
  · exact strides_commandOffline h hr _
  · exact (quits_tearDown t).strides _ fun _ => state_tearDown t
  · exact (Calm.refl t).strides _

theorem strides_stepBackoff {t : Turn} (h : t.conn.Ready) (hr : t.conn.stopped = false)
    (i : Input) : Strides t i (t.stepBackoff i) := by
  unfold stepBackoff
  split
  · exact strides_commandOffline h hr _
  · exact (quits_tearDown t).strides _ fun _ => state_tearDown t
  · exact ⟨rfl, [], (List.append_nil _).symm, .waited rfl rfl⟩
  · exact (Calm.refl t).strides _

/-- **Every step takes a stride.** -/
theorem strides_step {t : Turn} (h : t.conn.Ready) (i : Input) : Strides t i (t.step i) := by
  by_cases hr : t.conn.stopped = true
  · unfold step
    rw [if_pos hr]
    exact (Calm.refl t).strides _
  · have hrunning : t.conn.stopped = false := by simpa using hr
    have hwaiting : t.conn.state = .connecting ∨ t.conn.state = .reconnecting →
        Strides t i (t.step i) := by
      intro hs
      by_cases hretry : t.conn.retryAt = none
      · rw [step_waiting hrunning hs hretry]
        exact strides_stepAttempt h hs hretry i
      · rw [step_backoff hrunning hs hretry]
        exact strides_stepBackoff h hrunning i
    have hidle : t.conn.state.isActive = false → Strides t i (t.step i) := by
      intro hs
      rw [step_idle hrunning hs]
      exact strides_stepIdle h hrunning i
    cases hs : t.conn.state with
    | disconnected => exact hidle (by rw [hs]; rfl)
    | connecting => exact hwaiting (Or.inl hs)
    | connected =>
      rw [step_connected h hs]
      exact strides_stepConnected h hs i
    | reconnecting => exact hwaiting (Or.inr hs)
    | failed => exact hidle (by rw [hs]; rfl)

end Turn

namespace Connection

/-- The signals among effects. -/
def signals (effects : List Effect) : List Effect :=
  effects.filter Effect.isSignal

/-- What the turn of a step makes, the step makes. -/
theorem made_step {c : Connection} {m : Moment} {i : Input}
    {P : Connection → List Effect → Prop}
    (h : Turn.Makes { conn := c, moment := m } (Turn.step { conn := c, moment := m } i) P) :
    P (c.step m i).1 (signals (c.step m i).2) := by
  obtain ⟨told, htold, hmade⟩ := h.signals
  have htold' : signals (c.step m i).2 = told := htold
  rw [htold']
  exact hmade

theorem starts_step {c : Connection} (h : c.Ready) {m : Moment} {i : Input}
    (ha : c.Accepts m i) : c.Starts (c.step m i).1 (signals (c.step m i).2) := by
  obtain ⟨rfl, hs, hr, token, hu⟩ := ha
  let t : Turn := { conn := c, moment := m }
  refine made_step ?_
  have hstep : t.step (.command .connect) = t.beginConnect := by
    rw [Turn.step_idle (t := t) hr (by rcases hs with hs | hs <;> simp [t, hs] <;> rfl)]
    show t.commandOffline .connect = _
    unfold Turn.commandOffline
    rcases hs with hs | hs <;> simp [t, hs]
  rw [show Turn.step { conn := c, moment := m } (.command .connect) = _ from hstep]
  exact Turn.starts_beginConnect (t := t) h hs hu

theorem greets_step {c : Connection} (h : c.Ready) (m : Moment) {socket : SocketNumber}
    {deadline : Nat} (ha : c.attempt = some (.handshaking socket deadline))
    {item : Except Fault Incoming} {socketId : Option String}
    (hj : Turn.judge item = .established socketId) :
    c.Greets socketId (c.step m (.received item)).1
      (signals (c.step m (.received item)).2) := by
  let t : Turn := { conn := c, moment := m }
  refine made_step ?_
  have hstep : t.step (.received item) = t.establish socket socketId := by
    rw [Turn.step_attempt (t := t) h ha]
    unfold Turn.stepAttempt
    rw [show t.conn.attempt = _ from ha]
    show t.shakeHands socket item = _
    unfold Turn.shakeHands
    rw [hj]
  rw [show Turn.step { conn := c, moment := m } (.received item) = _ from hstep]
  exact Turn.greets_establish (t := t) h ha socketId

/-- What is no frame of the protocol is ignored. -/
theorem step_malformed {c : Connection} (h : c.Ready) (hc : c.state = .connected) (m : Moment)
    {frame : String} {f : Fault} (hdecode : Frame.decode frame = .error f) :
    c.step m (.received (.ok (.text frame))) = (c, []) := by
  let t : Turn := { conn := c, moment := m }
  have hstep : t.step (.received (.ok (.text frame))) = t := by
    rw [Turn.step_received (t := t) h hc]
    unfold Turn.receive Turn.onFrame
    simp only [hdecode]
  show ((t.step _).conn, (t.step _).effects) = _
  rw [hstep]

section

variable {c : Connection} (h : c.Ready) (hc : c.state = .connected) (m : Moment) {frame : String}
  {e : Envelope} (hdecode : Frame.decode frame = .ok e)
include h hc hdecode

theorem step_text : Turn.step { conn := c, moment := m } (.received (.ok (.text frame))) =
    Turn.onEvent { conn := c, moment := m } e.event (c.normalizer.inbound e.data) := by
  rw [Turn.step_received (t := { conn := c, moment := m }) h hc, Turn.receive_text _ hdecode]

theorem passes_step (herror : e.event ≠ EventName.connectError)
    (hend : e.event ≠ EventName.disconnect) :
    c.Passes m e.event (c.normalizer.inbound e.data)
      (c.step m (.received (.ok (.text frame)))).1
      (signals (c.step m (.received (.ok (.text frame)))).2) := by
  refine made_step ?_
  rw [step_text h hc m hdecode]
  exact Turn.passes_onEvent _ _ herror hend

theorem abandons_step (hend : e.event = EventName.disconnect) :
    c.Abandons (c.step m (.received (.ok (.text frame)))).1
      (signals (c.step m (.received (.ok (.text frame)))).2) := by
  refine made_step ?_
  rw [step_text h hc m hdecode, hend]
  exact (Turn.quits_onEvent (h.noAttempt hc) _).makes

theorem refuses_step (herror : e.event = EventName.connectError) :
    ∃ rest, signals (c.step m (.received (.ok (.text frame)))).2 =
        .publish EventName.connectError (c.normalizer.inbound e.data) :: rest ∧
      c.Abandons (c.step m (.received (.ok (.text frame)))).1 rest := by
  refine made_step (P := fun c' told => ∃ rest,
    told = .publish EventName.connectError (c.normalizer.inbound e.data) :: rest ∧
      c.Abandons c' rest) ?_
  rw [step_text h hc m hdecode, herror]
  exact Turn.refuses_onEvent (h.noAttempt hc) _

end

/-- The stride of a step. -/
theorem stride_step {c : Connection} (h : c.Ready) (m : Moment) (i : Input) :
    c.Stride m i (c.step m i).1 (signals (c.step m i).2) :=
  made_step (Turn.strides_step (t := { conn := c, moment := m }) h i)

theorem setup_step {c : Connection} (h : c.Ready) (m : Moment) (i : Input) :
    (c.step m i).1.setup = c.setup :=
  (Turn.strides_step (t := { conn := c, moment := m }) h i).setup

theorem config_step {c : Connection} (h : c.Ready) (m : Moment) (i : Input) :
    (c.step m i).1.config = c.config :=
  congrArg Prod.fst (setup_step h m i)

/-- What a connection was built with never changes. -/
theorem setup_run {c : Connection} (h : c.Ready) (inputs : List (Moment × Input)) :
    (c.run inputs).1.setup = c.setup := by
  induction inputs generalizing c with
  | nil => rfl
  | cons first rest ih => exact (ih (ready_step h first.1 first.2)).trans (setup_step h _ _)

end Connection
end LiveSync
