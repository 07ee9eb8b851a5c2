import LiveSync.Proofs.Connection.Reaction
import LiveSync.Proofs.Registry.Deadlines

/-!
# The timers of a connection

A step touches the heartbeat by its calls alone, and the registry by its changes, and it makes all
of them at the time of the step.  So what holds of rows of calls and of histories of changes holds
of every connection, and a step never sets a timer that goes off at once.

* `Beats` — calls of a heartbeat at one time.
* `beats_step`, `calls_run` — a step and a run make calls of the heartbeat.
* `Reaction.timely` — a reaction changes the registry at its own time.
* `heartbeat_ahead_run`, `registry_ahead_run` — what was not due is not due later at that time.
* `heartbeat_ahead_beat`, `registry_ahead_expire` — a timer that went off is not due any more.
-/

namespace LiveSync

open LiveSync.Json

/-! ## Calls at one time -/

namespace Heartbeat

/-- From one heartbeat to a later one there were only calls at one time. -/
def Beats (now : Nat) (h h' : Heartbeat) : Prop :=
  ∃ calls : List (Nat × Call), (∀ x ∈ calls, x.1 = now) ∧ h' = (h.run calls).2

namespace Beats

variable {now : Nat} {h h' h'' : Heartbeat}

theorem refl (now : Nat) (h : Heartbeat) : Beats now h h :=
  ⟨[], nofun, rfl⟩

theorem trans (a : Beats now h h') (b : Beats now h' h'') : Beats now h h'' := by
  obtain ⟨earlier, hearlier, rfl⟩ := a
  obtain ⟨later, hlater, rfl⟩ := b
  refine ⟨earlier ++ later, fun x hx => ?_, by rw [run_append]⟩
  exact (List.mem_append.1 hx).elim (hearlier x) (hlater x)

theorem call (now : Nat) (h : Heartbeat) (c : Call) : Beats now h (h.call now c).2 :=
  ⟨[(now, c)], by simp, rfl⟩

theorem sound (hs : h.Sound) (b : Beats now h h') : h'.Sound := by
  obtain ⟨calls, -, rfl⟩ := b
  exact hs.run calls

/-- What is not due is not due after calls at that time either. -/
theorem ahead (hs : h.Sound) (ha : h.Ahead now) (b : Beats now h h') : h'.Ahead now := by
  obtain ⟨calls, hnow, rfl⟩ := b
  induction calls generalizing h with
  | nil => exact ha
  | cons first rest ih =>
    obtain ⟨time, c⟩ := first
    obtain ⟨rfl, hrest⟩ := List.forall_mem_cons.1 hnow
    have hfirst := comes_call h time c
    exact ih (hs.comes hfirst) (hs.ahead_comes ha hfirst) hrest

end Beats
end Heartbeat

namespace Turn

open Connection Heartbeat

/-! ## Losing a connection, an attempt or both -/

section

variable (now : Nat) (t : Turn)

theorem beats_withdrawn (c : Connection) : Beats now c.heartbeat c.withdrawn.heartbeat := by
  have hstop : c.withdrawn.heartbeat = c.heartbeat.stop := heartbeat_entered ..
  rw [hstop]
  exact .call now c.heartbeat .stop

theorem beats_goDisconnected : Beats now t.conn.heartbeat t.goDisconnected.conn.heartbeat := by
  rw [conn_goDisconnected]
  exact beats_withdrawn now t.conn

theorem beats_scheduleRetry : Beats now t.conn.heartbeat t.scheduleRetry.conn.heartbeat := by
  rcases conn_scheduleRetry t with ⟨-, hc⟩ | ⟨-, -, hc⟩ | ⟨-, -, due, hc⟩
  · rw [hc]
    exact beats_withdrawn now t.conn
  · have hkept : t.conn.givenUp.heartbeat = t.conn.heartbeat := heartbeat_entered ..
    rw [hc, hkept]
    exact .refl now _
  · rw [hc]
    exact .refl now _

theorem beats_lose (reason : DisconnectReason) (ended : Bool) :
    Beats now t.conn.heartbeat (t.lose reason ended).conn.heartbeat := by
  obtain ⟨t', hconn, -, heq⟩ := lose_eq t reason ended
  have hstopped : Beats now t.conn.heartbeat t'.conn.heartbeat := by
    rw [hconn]
    exact .call now t.conn.heartbeat .stop
  rw [heq]
  cases ended with
  | true => exact hstopped.trans (beats_goDisconnected now t')
  | false => exact hstopped.trans (beats_scheduleRetry now t')

theorem beats_attemptFailed (f : Fault) :
    Beats now t.conn.heartbeat (t.attemptFailed f).conn.heartbeat := by
  obtain ⟨t', hconn, -, heq⟩ := attemptFailed_eq t f
  have hkept : t'.conn.heartbeat = t.conn.heartbeat := by rw [hconn]
  rw [heq, ← hkept]
  cases f.isRecoverable with
  | true => exact beats_scheduleRetry now t'
  | false => exact beats_goDisconnected now t'

theorem beats_tearDown : Beats now t.conn.heartbeat t.tearDown.conn.heartbeat := by
  have hstop : t.conn.tornDown.heartbeat = t.conn.heartbeat.stop := heartbeat_entered ..
  rw [conn_tearDown, hstop]
  exact .call now t.conn.heartbeat .stop

theorem beats_request (operation : Operation) (entity : String) :
    Beats now t.conn.heartbeat (t.request operation entity).conn.heartbeat := by
  have hsent := conn_send t operation.name (Payload.ofEntity entity)
  rcases request_eq t operation entity with ⟨-, heq⟩ | ⟨reason, heq⟩
  · rw [heq, hsent]
    exact .refl now _
  · rw [heq, ← hsent]
    exact beats_lose now _ reason false

/-! ## Commands -/

theorem beats_beginConnect : Beats now t.conn.heartbeat t.beginConnect.conn.heartbeat := by
  unfold beginConnect
  split
  · exact .refl now _
  · rw [conn_setState, heartbeat_entered]
    exact .refl now _

theorem beats_commandOffline (c : Command) :
    Beats now t.conn.heartbeat (t.commandOffline c).conn.heartbeat := by
  cases c with
  | connect =>
    dsimp only [commandOffline]
    split
    · exact beats_beginConnect now t
    · exact beats_beginConnect now t
    · exact .refl now _
  | disconnect =>
    dsimp only [commandOffline]
    split
    · exact .refl now _
    · exact beats_goDisconnected now t
  | emit event payload ticket => exact .refl now _
  | subscribe entity ticket =>
    dsimp only [commandOffline]
    split <;> exact .refl now _
  | unsubscribe entity ticket => exact .refl now _
  | info entity ticket => exact .refl now _
  | shutdown => exact beats_tearDown now t

theorem beats_emitFor (event : String) (payload : Value) (ticket : Ticket) :
    Beats now t.conn.heartbeat (t.emitFor event payload ticket).conn.heartbeat := by
  have hconn := conn_send t event payload
  unfold emitFor
  generalize t.send event payload = sent at hconn ⊢
  obtain ⟨outcome, sent⟩ := sent
  rw [← hconn]
  dsimp only
  split
  · exact beats_lose now (sent.answer ticket _) _ false
  · exact .refl now _

theorem beats_requestAfter (change : Bool × List Reply × Registry) (operation : Operation)
    (entity : String) :
    Beats now t.conn.heartbeat (t.requestAfter change operation entity).conn.heartbeat := by
  unfold requestAfter
  dsimp only
  split
  · exact beats_request now (t.setRegistry change.2) operation entity
  · exact .refl now _

theorem beats_commandConnected (c : Command) :
    Beats now t.conn.heartbeat (t.commandConnected c).conn.heartbeat := by
  cases c with
  | connect => exact .refl now _
  | disconnect =>
    have hclosed : t.closeGracefully.conn.heartbeat = t.conn.heartbeat := by
      rw [conn_closeGracefully]
    rw [← hclosed]
    exact beats_goDisconnected now (t.closeGracefully.publish EventName.disconnect _)
  | emit event payload ticket => exact beats_emitFor now t event payload ticket
  | subscribe entity ticket => exact beats_requestAfter now t _ _ entity
  | unsubscribe entity ticket => exact beats_requestAfter now t _ _ entity
  | info entity ticket => exact .refl now _
  | shutdown => exact beats_tearDown now t

/-! ## Attempts -/

theorem beats_beginAttempt : Beats now t.conn.heartbeat t.beginAttempt.conn.heartbeat := by
  unfold beginAttempt
  split
  · exact beats_goDisconnected now (t.publishFault _)
  · exact .refl now _

theorem beats_requestAgain_foldl (entities : List String) :
    Beats now t.conn.heartbeat (entities.foldl requestAgain t).conn.heartbeat := by
  induction entities generalizing t with
  | nil => exact .refl now _
  | cons entity rest ih =>
    have hfirst : Beats now t.conn.heartbeat (t.requestAgain entity).conn.heartbeat := by
      unfold requestAgain
      split
      · exact beats_request now t .subscribe entity
      · exact .refl now _
    exact hfirst.trans (ih (t.requestAgain entity))

end

section

variable (t : Turn)

theorem beats_establish (socket : SocketNumber) (socketId : Option String) :
    Beats t.moment.now t.conn.heartbeat (t.establish socket socketId).conn.heartbeat := by
  obtain ⟨t', hconn, -, -, heq⟩ := establish_eq t socket socketId
  have hstarted : Beats t.moment.now t.conn.heartbeat t'.conn.heartbeat := by
    rw [hconn, heartbeat_established]
    exact .call t.moment.now t.conn.heartbeat .start
  rw [heq]
  exact hstarted.trans (beats_requestAgain_foldl _ t' _)

theorem beats_shakeHands (socket : SocketNumber) (item : Except Fault Incoming) :
    Beats t.moment.now t.conn.heartbeat (t.shakeHands socket item).conn.heartbeat := by
  unfold shakeHands
  split
  · exact .refl _ _
  · exact beats_establish t socket _
  · exact beats_attemptFailed _ t _

/-! ## Frames of an established connection -/

theorem beats_onPong (payload : Value) :
    Beats t.moment.now t.conn.heartbeat (t.onPong payload).conn.heartbeat := by
  have hcall := Beats.call t.moment.now t.conn.heartbeat (.pong payload)
  unfold onPong
  dsimp only
  split
  · exact hcall
  · exact hcall

theorem beats_absorb (event : String) (payload : Value) :
    Beats t.moment.now t.conn.heartbeat (t.absorb event payload).conn.heartbeat := by
  unfold absorb
  split
  · unfold onPing
    rw [conn_send]
    exact .refl _ _
  split
  · exact beats_onPong t payload
  split
  · unfold onSubscribeAck
    split
    · exact .refl _ _
    · split <;> exact .refl _ _
  split
  · unfold onUnsubscribeAck
    split <;> exact .refl _ _
  split
  · unfold onWatchersChanged
    split <;> exact .refl _ _
  split
  · unfold onConnect
    split <;> exact .refl _ _
  · exact .refl _ _

theorem beats_onEvent (event : String) (payload : Value) :
    Beats t.moment.now t.conn.heartbeat (t.onEvent event payload).conn.heartbeat := by
  have hroute : ∀ t' : Turn, (t'.route event payload).conn.heartbeat = t'.conn.heartbeat := by
    intro t'
    unfold route
    dsimp only
    split <;> rfl
  unfold onEvent
  split
  · exact beats_lose _ (t.publish EventName.connectError payload) _ true
  split
  · dsimp only
    exact beats_lose _ t _ _
  · rw [hroute]
    exact beats_absorb t event payload

theorem beats_receive (item : Except Fault Incoming) :
    Beats t.moment.now t.conn.heartbeat (t.receive item).conn.heartbeat := by
  unfold receive
  split
  · unfold onFrame
    split
    · exact .refl _ _
    · exact beats_onEvent t _ _
  · exact beats_lose _ t _ _
  · exact beats_lose _ (t.publishFault _) _ false

/-! ## Timers -/

/-- Once the heartbeat was polled, it can only be stopped. -/
theorem beats_polled :
    Beats t.moment.now t.polled.conn.heartbeat t.beat.conn.heartbeat := by
  have hsent : ∀ seq, (t.probed.send EventName.ping (Heartbeat.pingPayload seq)).2.conn.heartbeat =
      t.polled.conn.heartbeat := by
    intro seq
    rw [conn_send]
    rfl
  rcases beat_eq t with ⟨-, heq⟩ | ⟨seq, -, heq | ⟨reason, heq⟩⟩ | ⟨-, message, reason, heq⟩
  · rw [heq]
    exact .refl _ _
  · rw [heq, hsent]
    exact .refl _ _
  · rw [heq, ← hsent seq]
    exact beats_lose _ _ reason false
  · rw [heq]
    exact beats_lose _ (t.polled.publishError message true) reason false

theorem beats_beat : Beats t.moment.now t.conn.heartbeat t.beat.conn.heartbeat :=
  (Beats.call t.moment.now t.conn.heartbeat .poll).trans (beats_polled t)

/-! ## Every input -/

theorem beats_stepConnected (i : Input) :
    Beats t.moment.now t.conn.heartbeat (t.stepConnected i).conn.heartbeat := by
  unfold stepConnected
  split
  · exact beats_commandConnected _ t _
  · exact beats_tearDown _ t
  · exact beats_receive t _
  · exact beats_beat t
  · rw [(expireRequests_eq t).1]
    exact .refl _ _
  · exact .refl _ _

theorem beats_stepIdle (i : Input) :
    Beats t.moment.now t.conn.heartbeat (t.stepIdle i).conn.heartbeat := by
  unfold stepIdle
  split
  · exact beats_commandOffline _ t _
  · exact beats_tearDown _ t
  · exact .refl _ _

theorem beats_stepBackoff (i : Input) :
    Beats t.moment.now t.conn.heartbeat (t.stepBackoff i).conn.heartbeat := by
  unfold stepBackoff
  split
  · exact beats_commandOffline _ t _
  · exact beats_tearDown _ t
  · exact .refl _ _
  · exact .refl _ _

theorem beats_stepAttempt (i : Input) :
    Beats t.moment.now t.conn.heartbeat (t.stepAttempt i).conn.heartbeat := by
  unfold stepAttempt
  split
  · exact beats_beginAttempt _ t
  · exact .refl _ _
  · exact beats_commandOffline _ t _
  · exact beats_tearDown _ t
  · exact .refl _ _
  · exact .refl _ _
  · exact beats_attemptFailed _ t _
  · exact beats_attemptFailed _ t _
  · exact beats_shakeHands t _ _
  · exact beats_attemptFailed _ t _
  · exact .refl _ _

theorem beats_step (i : Input) :
    Beats t.moment.now t.conn.heartbeat (t.step i).conn.heartbeat := by
  unfold step
  split
  · exact .refl _ _
  split
  · exact beats_stepIdle t i
  · exact beats_stepIdle t i
  · exact beats_stepConnected t i
  · split
    · exact beats_stepBackoff t i
    · exact beats_stepAttempt t i
  · split
    · exact beats_stepBackoff t i
    · exact beats_stepAttempt t i

end

end Turn

namespace Connection

/-! ## The heartbeat of a connection -/

/-- **A step makes calls of the heartbeat**, all at the time of the step. -/
theorem beats_step (c : Connection) (m : Moment) (i : Input) :
    Heartbeat.Beats m.now c.heartbeat (c.step m i).1.heartbeat :=
  Turn.beats_step { conn := c, moment := m } i

/-- The heartbeat of a connection is what calls make of it, at the times of the inputs. -/
theorem calls_run (c : Connection) (inputs : List (Moment × Input)) :
    ∃ calls : List (Nat × Heartbeat.Call), (∀ x ∈ calls, ∃ y ∈ inputs, x.1 = y.1.now) ∧
      (c.run inputs).1.heartbeat = (c.heartbeat.run calls).2 := by
  induction inputs generalizing c with
  | nil => exact ⟨[], nofun, rfl⟩
  | cons first rest ih =>
    obtain ⟨m, i⟩ := first
    obtain ⟨now, hnow, hstep⟩ := beats_step c m i
    obtain ⟨later, hlater, hrest⟩ := ih (c.step m i).1
    refine ⟨now ++ later, fun x hx => ?_, ?_⟩
    · rcases List.mem_append.1 hx with hx | hx
      · exact ⟨(m, i), List.mem_cons_self, hnow x hx⟩
      · obtain ⟨y, hy, heq⟩ := hlater x hx
        exact ⟨y, List.mem_cons_of_mem _ hy, heq⟩
    · rw [Heartbeat.run_append, ← hstep, ← hrest]
      rfl

theorem sound_heartbeat_run (config : Config) (inputs : List (Moment × Input)) :
    ((Connection.new config).run inputs).1.heartbeat.Sound := by
  obtain ⟨calls, -, heq⟩ := calls_run (Connection.new config) inputs
  rw [heq]
  exact (Heartbeat.sound_new _ _).run calls

theorem heartbeat_ahead_run {c : Connection} (hs : c.heartbeat.Sound) {now : Nat}
    (ha : c.heartbeat.Ahead now) {inputs : List (Moment × Input)}
    (hnow : ∀ x ∈ inputs, x.1.now = now) : (c.run inputs).1.heartbeat.Ahead now := by
  obtain ⟨calls, htimes, heq⟩ := calls_run c inputs
  refine Heartbeat.Beats.ahead hs ha ⟨calls, fun x hx => ?_, heq⟩
  obtain ⟨y, hy, hxy⟩ := htimes x hx
  exact hxy.trans (hnow y hy)

/-- **When the heartbeat did what was due**, nothing is due any more. -/
theorem heartbeat_ahead_beat {c : Connection} (h : c.Ready) (hs : c.heartbeat.Sound) (m : Moment) :
    (c.step m .heartbeatDue).1.heartbeat.Ahead m.now := by
  let t : Turn := { conn := c, moment := m }
  by_cases hc : c.state = .connected
  · have hpolled : t.polled.conn.heartbeat.Ahead m.now :=
      hs.ahead_polls (Heartbeat.polls_poll c.heartbeat m.now)
    have hpolledSound : t.polled.conn.heartbeat.Sound :=
      hs.comes (Heartbeat.comes_call c.heartbeat m.now .poll)
    have hbeat : (c.step m .heartbeatDue).1 = t.beat.conn :=
      congrArg Turn.conn (Turn.step_connected (t := t) h hc .heartbeatDue)
    rw [hbeat]
    exact (Turn.beats_polled t).ahead hpolledSound hpolled
  · have hstill : c.heartbeat.Ahead m.now :=
      Heartbeat.ahead_iff.2 fun hr => absurd (h.still hc) (by simp [hr])
    exact (beats_step c m .heartbeatDue).ahead hs hstill

end Connection

/-! ## The registry of a connection -/

/-- The deed is done at a time, unless no time matters to it. -/
def Deed.At (now : Nat) : Deed → Prop
  | .change x => x.At now
  | .message _ => True

theorem Registry.ahead_perform {r : Registry} {now : Nat} (h : r.Ahead now) {deeds : List Deed}
    (hat : ∀ d ∈ deeds, d.At now) : (r.perform deeds).2.Ahead now := by
  induction deeds generalizing r with
  | nil => exact h
  | cons d rest ih =>
    obtain ⟨hfirst, hrest⟩ := List.forall_mem_cons.1 hat
    cases d with
    | change x => exact ih (ahead_apply h hfirst) hrest
    | message e => exact ih h hrest

theorem Moment.Calls.timely {m : Moment} {connected : Bool} {i : Input} {x : Registry.Change}
    {operation : Operation} {id : String} (h : m.Calls connected i x operation id) :
    x.At m.now := by
  cases h with
  | subscribe id ticket => rfl
  | unsubscribe id ticket => rfl

section

variable (now : Nat)

theorem timely_messages (es : List Effect) : ∀ d ∈ es.map Deed.message, d.At now := by
  intro d hd
  obtain ⟨e, -, rfl⟩ := List.mem_map.1 hd
  trivial

theorem Retreat.timely {c : Connection} {deeds : List Deed} (h : Retreat c deeds) :
    ∀ d ∈ deeds, d.At now := by
  intro d hd
  rcases h.only d hd with rfl | rfl
  · trivial
  · trivial

namespace Connection

variable {c c' : Connection} {i : Input} {deeds : List Deed}

theorem Ending.timely (h : c.Ending i c' deeds) : ∀ d ∈ deeds, d.At now := by
  cases h with
  | stays h => exact nofun
  | retreat h => exact h.timely now

theorem Sent.timely {fault : Option Fault} (h : c.Sent i c' fault deeds) :
    ∀ d ∈ deeds, d.At now := by
  cases h with
  | written h => exact nofun
  | lost fault h => exact h.timely now

theorem Asking.timely {socket : SocketNumber} {ids : List String}
    (h : c.Asking socket ids c' deeds) : ∀ d ∈ deeds, d.At now := by
  have hwritten : ∀ written : List String, ∀ d ∈ written.map fun id =>
      Deed.message (c.requestFrame socket .subscribe id none), d.At now := by
    intro written d hd
    obtain ⟨id, -, rfl⟩ := List.mem_map.1 hd
    trivial
  cases h with
  | all => exact hwritten ids
  | part written id unasked fault rest h =>
    exact List.forall_mem_append.2
      ⟨hwritten written, List.forall_mem_cons.2 ⟨trivial, h.timely now⟩⟩

end Connection

end

namespace Connection

theorem Rules.timely {c : Connection} {i : Input} {x : Registry.Change} (h : c.Rules i x)
    (now : Nat) : x.At now := by
  cases h <;> trivial

/-- **A reaction changes the registry at its own time.** -/
theorem Reaction.timely {c c' : Connection} {m : Moment} {i : Input} {deeds : List Deed}
    (h : c.Reaction m i c' deeds) : ∀ d ∈ deeds, d.At m.now := by
  cases h with
  | quiet hcaller hframes hend =>
    exact List.forall_mem_append.2 ⟨timely_messages m.now _, hend.timely m.now⟩
  | told hcaller hstays => exact List.forall_mem_singleton.2 trivial
  | emitted hcaller hs hend =>
    exact List.forall_mem_cons.2 ⟨trivial, List.forall_mem_cons.2 ⟨trivial, hend.timely m.now⟩⟩
  | queued hcall hcaller hs hstays hrest => exact List.forall_mem_singleton.2 hcall.timely
  | called hcall hcaller hs hasks hstays => exact List.forall_mem_singleton.2 hcall.timely
  | asked hcall hcaller hs hasks hsent =>
    exact List.forall_mem_cons.2
      ⟨hcall.timely, List.forall_mem_cons.2 ⟨trivial, hsent.timely m.now⟩⟩
  | ruled hrules hcaller hc hstays => exact List.forall_mem_singleton.2 (hrules.timely m.now)
  | expired hc hstays => exact List.forall_mem_singleton.2 rfl
  | left hcaller hfarewell hretreat =>
    exact List.forall_mem_append.2 ⟨timely_messages m.now _, hretreat.timely m.now⟩
  | stopped hcaller hrunning hstopped hfarewell hsocket hattempt =>
    exact List.forall_mem_append.2 ⟨timely_messages m.now _, List.forall_mem_singleton.2 trivial⟩
  | established hattempt hjudge hasking =>
    exact List.forall_mem_cons.2 ⟨rfl, hasking.timely m.now⟩

/-- No step makes an acknowledgement overdue at its own time. -/
theorem registry_ahead_step {c : Connection} (h : c.Ready) {m : Moment}
    (ha : c.registry.Ahead m.now) (i : Input) : (c.step m i).1.registry.Ahead m.now := by
  obtain ⟨deeds, hreaction, hregistry, -⟩ := reaction_step h m i
  rw [hregistry]
  exact Registry.ahead_perform ha hreaction.timely

theorem registry_ahead_run {c : Connection} (h : c.Ready) {now : Nat} (ha : c.registry.Ahead now)
    {inputs : List (Moment × Input)} (hnow : ∀ x ∈ inputs, x.1.now = now) :
    (c.run inputs).1.registry.Ahead now := by
  induction inputs generalizing c with
  | nil => exact ha
  | cons first rest ih =>
    obtain ⟨m, i⟩ := first
    obtain ⟨rfl, hrest⟩ := List.forall_mem_cons.1 hnow
    exact ih (ready_step h m i) (registry_ahead_step h ha i) hrest

/-- **When overdue requests were given up**, none is overdue any more. -/
theorem registry_ahead_expire {c : Connection} (h : c.Ready) (m : Moment) :
    (c.step m .acknowledgementDue).1.registry.Ahead m.now := by
  let t : Turn := { conn := c, moment := m }
  by_cases hc : c.state = .connected
  · have hstep : (c.step m .acknowledgementDue).1 = t.expireRequests.conn :=
      congrArg Turn.conn (Turn.step_connected (t := t) h hc .acknowledgementDue)
    rw [hstep, (Turn.expireRequests_eq t).1]
    exact Registry.ahead_expire c.registry m.now
  · exact registry_ahead_step h (Registry.ahead_of_queued (h.queued hc) m.now) _

end Connection
end LiveSync
