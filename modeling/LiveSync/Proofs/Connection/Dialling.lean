import Mathlib.Data.List.Induction
import LiveSync.Proofs.Connection.Steps

/-!
# Where a socket is asked for

A socket is asked for in one place only: an attempt that has taken its token dials.  The token was
looked at when the attempt began, and nothing but the attempt itself comes between.

* `Passive` — what neither asks for a socket nor readies an attempt; nearly everything is.
* `effort_step` — a step asks for a socket only to carry on an attempt that is ready, and readies
  an attempt only with a usable token.
* `fetched_run` — an attempt that is ready took its token when it began.
* `dial_fetched` — so did every attempt that asked for a socket.
-/

namespace LiveSync

open LiveSync.Json

/-- Is the effect the wish for a socket? -/
def Effect.isDial : Effect → Bool
  | .dial .. => true
  | _ => false

namespace Turn

/-- The wishes for a socket among the effects so far. -/
def dials (t : Turn) : List Effect :=
  t.traffic.filter Effect.isDial

/-- From one point of a turn to a later one, no socket is asked for and no attempt is readied. -/
structure Passive (t t' : Turn) : Prop where
  /-- No socket is asked for. -/
  dials : t'.dials = t.dials
  /-- No attempt is readied. -/
  ready : ∀ token, t'.conn.attempt = some (.ready token) → t.conn.attempt = some (.ready token)

namespace Passive

variable {t t' t'' : Turn}

theorem refl (t : Turn) : Passive t t :=
  ⟨rfl, fun _ ha => ha⟩

theorem trans (h : Passive t t') (h' : Passive t' t'') : Passive t t'' :=
  ⟨h'.dials.trans h.dials, fun token ha => h.ready token (h'.ready token ha)⟩

/-- What writes nothing and leaves the attempt alone. -/
theorem of_same (htraffic : t'.traffic = t.traffic)
    (hattempt : t'.conn.attempt = t.conn.attempt) : Passive t t' :=
  ⟨congrArg (List.filter Effect.isDial) htraffic, fun _ ha => hattempt ▸ ha⟩

/-- What writes nothing and gives the attempt up. -/
theorem of_none (htraffic : t'.traffic = t.traffic) (hattempt : t'.conn.attempt = none) :
    Passive t t' :=
  ⟨congrArg (List.filter Effect.isDial) htraffic, fun _ ha => absurd (hattempt.symm.trans ha) nofun⟩

end Passive

/-! ## The parts of a step -/

theorem passive_send (t : Turn) (event : String) (payload : Value) :
    Passive t (t.send event payload).2 := by
  refine ⟨?_, fun _ ha => by rwa [conn_send] at ha⟩
  cases h : t.conn.socket with
  | none => rw [send_of_no_socket h]
  | some socket =>
    rw [send_of_socket h]
    simp [dials, Effect.isDial]

theorem passive_goDisconnected (t : Turn) : Passive t t.goDisconnected :=
  Passive.of_none (traffic_goDisconnected t) (by simp [Connection.withdrawn])

theorem passive_scheduleRetry (t : Turn) : Passive t t.scheduleRetry := by
  rcases conn_scheduleRetry t with ⟨-, hc⟩ | ⟨-, -, hc⟩ | ⟨-, -, due, hc⟩
  · exact Passive.of_none (traffic_scheduleRetry t) (by rw [hc]; simp [Connection.withdrawn])
  · exact Passive.of_same (traffic_scheduleRetry t) (by rw [hc]; simp [Connection.givenUp])
  · exact Passive.of_same (traffic_scheduleRetry t) (by rw [hc]; rfl)

theorem passive_lose (t : Turn) (reason : DisconnectReason) (ended : Bool) :
    Passive t (t.lose reason ended) := by
  obtain ⟨t', hconn, htraffic, heq⟩ := lose_eq t reason ended
  have hcut : Passive t t' := Passive.of_same htraffic (by rw [hconn]; rfl)
  rw [heq]
  cases ended with
  | true => exact hcut.trans (passive_goDisconnected t')
  | false => exact hcut.trans (passive_scheduleRetry t')

theorem passive_attemptFailed (t : Turn) (f : Fault) : Passive t (t.attemptFailed f) := by
  obtain ⟨t', hconn, htraffic, heq⟩ := attemptFailed_eq t f
  have hcut : Passive t t' := Passive.of_none htraffic (by rw [hconn])
  rw [heq]
  cases f.isRecoverable with
  | true => exact hcut.trans (passive_scheduleRetry t')
  | false => exact hcut.trans (passive_goDisconnected t')

theorem passive_request (t : Turn) (operation : Operation) (entity : String) :
    Passive t (t.request operation entity) := by
  have hsent := passive_send t operation.name (Payload.ofEntity entity)
  rcases request_eq t operation entity with ⟨-, heq⟩ | ⟨reason, heq⟩
  · rw [heq]
    exact hsent
  · rw [heq]
    exact hsent.trans (passive_lose ..)

/-- What follows from several entities, one after the other. -/
theorem passive_foldl {f : Turn → String → Turn} (hf : ∀ t entity, Passive t (f t entity))
    (t : Turn) (entities : List String) : Passive t (entities.foldl f t) := by
  induction entities generalizing t with
  | nil => exact Passive.refl t
  | cons entity rest ih => exact (hf t entity).trans (ih _)

theorem passive_closeSocket (t : Turn) : Passive t t.closeSocket :=
  Passive.of_same (by simp) (by rw [conn_closeSocket])

theorem passive_closeGracefully (t : Turn) : Passive t t.closeGracefully :=
  (passive_foldl (fun t _ => passive_send t ..) t _).trans
    (passive_closeSocket _)

theorem passive_tearDown (t : Turn) : Passive t t.tearDown := by
  have hattempt : t.tearDown.conn.attempt = none := by simp [conn_tearDown, Connection.tornDown]
  have hdropped : Passive t t.dropAttempt := Passive.of_none (by simp) (by simp)
  have htraffic := traffic_tearDown t
  split at htraffic
  · exact (hdropped.trans (passive_closeGracefully _)).trans (Passive.of_none htraffic hattempt)
  · exact Passive.of_none htraffic hattempt

theorem passive_setRegistry (t : Turn) (change : List Reply × Registry) :
    Passive t (t.setRegistry change) :=
  Passive.of_same (by simp) rfl

theorem passive_publish (t : Turn) (event : String) (payload : Value) :
    Passive t (t.publish event payload) :=
  Passive.of_same (by simp) rfl

theorem passive_answer (t : Turn) (ticket : Ticket) (a : Answer) : Passive t (t.answer ticket a) :=
  Passive.of_same (by simp) rfl

/-! ## Commands -/

theorem passive_beginConnect (t : Turn) : Passive t t.beginConnect := by
  unfold beginConnect
  split
  · exact passive_publish ..
  · exact Passive.of_same (by simp) (by simp)

theorem passive_commandOffline (t : Turn) (c : Command) : Passive t (t.commandOffline c) := by
  cases c with
  | connect =>
    dsimp only [commandOffline]
    split
    · exact passive_beginConnect t
    · exact passive_beginConnect t
    · exact Passive.refl t
  | disconnect =>
    dsimp only [commandOffline]
    split
    · exact Passive.refl t
    · exact passive_goDisconnected t
  | emit event payload ticket => exact passive_answer ..
  | subscribe entity ticket =>
    dsimp only [commandOffline]
    split
    · exact passive_setRegistry ..
    · exact passive_answer ..
  | unsubscribe entity ticket => exact passive_setRegistry ..
  | info entity ticket => exact passive_answer ..
  | shutdown => exact passive_tearDown t

theorem passive_emitFor (t : Turn) (event : String) (payload : Value) (ticket : Ticket) :
    Passive t (t.emitFor event payload ticket) := by
  have hsent := passive_send t event payload
  unfold emitFor
  generalize t.send event payload = sent at hsent ⊢
  obtain ⟨outcome, t'⟩ := sent
  have hanswered := hsent.trans (passive_answer t' ticket (.emitted outcome))
  dsimp only
  split
  · exact hanswered.trans (passive_lose ..)
  · exact hanswered

theorem passive_requestAfter (t : Turn) (change : Bool × List Reply × Registry)
    (operation : Operation) (entity : String) :
    Passive t (t.requestAfter change operation entity) := by
  unfold requestAfter
  dsimp only
  split
  · exact (passive_setRegistry ..).trans (passive_request ..)
  · exact passive_setRegistry ..

theorem passive_commandConnected (t : Turn) (c : Command) :
    Passive t (t.commandConnected c) := by
  cases c with
  | connect => exact Passive.refl t
  | disconnect =>
    exact ((passive_closeGracefully t).trans (passive_publish ..)).trans
      (passive_goDisconnected _)
  | emit event payload ticket => exact passive_emitFor t event payload ticket
  | subscribe entity ticket => exact passive_requestAfter ..
  | unsubscribe entity ticket => exact passive_requestAfter ..
  | info entity ticket => exact passive_answer ..
  | shutdown => exact passive_tearDown t

/-! ## Handshakes and frames -/

theorem passive_establish (t : Turn) (socket : SocketNumber) (socketId : Option String) :
    Passive t (t.establish socket socketId) := by
  have hagain : ∀ (t : Turn) (entity : String), Passive t (t.requestAgain entity) := by
    intro t entity
    unfold requestAgain
    split
    · exact passive_request ..
    · exact Passive.refl t
  obtain ⟨t', hconn, htraffic, -, heq⟩ := establish_eq t socket socketId
  have hopened : Passive t t' := Passive.of_none htraffic (by simp [hconn])
  rw [heq]
  exact hopened.trans (passive_foldl hagain t' _)

theorem passive_shakeHands (t : Turn) (socket : SocketNumber) (item : Except Fault Incoming) :
    Passive t (t.shakeHands socket item) := by
  unfold shakeHands
  split
  · exact Passive.refl t
  · exact passive_establish t socket _
  · exact passive_attemptFailed t _

theorem passive_onPong (t : Turn) (payload : Value) : Passive t (t.onPong payload) := by
  unfold onPong
  dsimp only
  split
  · exact Passive.of_same (by simp) rfl
  · exact Passive.of_same rfl rfl

theorem passive_onSubscribeAck (t : Turn) (payload : Value) :
    Passive t (t.onSubscribeAck payload) := by
  unfold onSubscribeAck
  split
  · exact Passive.refl t
  · split
    · exact (passive_setRegistry ..).trans (passive_publish ..)
    · exact passive_setRegistry ..

theorem passive_onUnsubscribeAck (t : Turn) (payload : Value) :
    Passive t (t.onUnsubscribeAck payload) := by
  unfold onUnsubscribeAck
  split
  · exact Passive.refl t
  · exact passive_setRegistry ..

theorem passive_onWatchersChanged (t : Turn) (payload : Value) :
    Passive t (t.onWatchersChanged payload) := by
  unfold onWatchersChanged
  split
  · exact passive_setRegistry ..
  · exact Passive.refl t

theorem passive_onConnect (t : Turn) (payload : Value) : Passive t (t.onConnect payload) := by
  unfold onConnect
  split
  · exact Passive.refl t
  · exact Passive.of_same (by simp) rfl

theorem passive_absorb (t : Turn) (event : String) (payload : Value) :
    Passive t (t.absorb event payload) := by
  unfold absorb
  split
  · exact passive_send ..
  split
  · exact passive_onPong ..
  split
  · exact passive_onSubscribeAck ..
  split
  · exact passive_onUnsubscribeAck ..
  split
  · exact passive_onWatchersChanged ..
  split
  · exact passive_onConnect ..
  · exact Passive.refl t

theorem passive_route (t : Turn) (event : String) (payload : Value) :
    Passive t (t.route event payload) := by
  unfold route
  dsimp only
  split
  · exact Passive.of_same rfl rfl
  · exact Passive.of_same (by simp) rfl

theorem passive_receive (t : Turn) (item : Except Fault Incoming) :
    Passive t (t.receive item) := by
  unfold receive
  split
  · unfold onFrame
    split
    · exact Passive.refl t
    · unfold onEvent
      split
      · exact (passive_publish ..).trans (passive_lose ..)
      split
      · exact passive_lose ..
      · exact (passive_absorb ..).trans (passive_route ..)
  · exact passive_lose ..
  · exact (passive_publish ..).trans (passive_lose ..)

/-! ## Timers -/

theorem passive_beat (t : Turn) : Passive t t.beat := by
  have hpolled : Passive t t.polled := Passive.of_same rfl rfl
  have hprobed : Passive t t.probed :=
    hpolled.trans (Passive.of_same (by simp [probed]) rfl)
  rcases beat_eq t with ⟨-, heq⟩ | ⟨seq, -, heq | ⟨reason, heq⟩⟩ | ⟨-, message, reason, heq⟩
  · exact heq ▸ hpolled
  · exact heq ▸ hprobed.trans (passive_send ..)
  · exact heq ▸ hprobed.trans ((passive_send ..).trans (passive_lose ..))
  · exact heq ▸ hpolled.trans ((passive_publish ..).trans (passive_lose ..))

theorem passive_expireRequests (t : Turn) : Passive t t.expireRequests :=
  Passive.of_same (expireRequests_eq t).2 (by rw [(expireRequests_eq t).1])

theorem passive_stepConnected (t : Turn) (i : Input) : Passive t (t.stepConnected i) := by
  unfold stepConnected
  split
  · exact passive_commandConnected ..
  · exact passive_tearDown t
  · exact passive_receive ..
  · exact passive_beat t
  · exact passive_expireRequests t
  · exact Passive.refl t

/-! ## Attempts -/

/-- What an input does to sockets that are asked for, and to the readiness of an attempt. -/
inductive Effort (t t' : Turn) : Input → Prop where
  /-- Nothing. -/
  | passive {i : Input} (h : Passive t t') : Effort t t' i
  /-- An attempt begins with a usable token. -/
  | begun (token : String)
      (husable : Credential.usable t.moment.token t.moment.seconds = .ok token)
      (hdials : t'.dials = t.dials) (hready : t'.conn.attempt = some (.ready token)) :
      Effort t t' .attempt
  /-- An attempt that is ready asks for a socket. -/
  | dialled (token : String) (hready : t.conn.attempt = some (.ready token))
      (hdials : t'.dials = t.dials ++ [.dial t.conn.config.url token])
      (hopening : ∀ other, t'.conn.attempt ≠ some (.ready other)) : Effort t t' .dial

theorem effort_beginAttempt (t : Turn) : Effort t t.beginAttempt .attempt := by
  unfold beginAttempt
  split
  · exact Effort.passive ((passive_publish ..).trans (passive_goDisconnected _))
  · rename_i token htoken
    exact Effort.begun token htoken rfl rfl

theorem effort_dial {t : Turn} {token : String} (h : t.conn.attempt = some (.ready token)) :
    Effort t (t.dial token) .dial := by
  refine Effort.dialled token h ?_ fun other => by simp [dial]
  unfold dial
  simp [dials, Effect.isDial]

theorem passive_awaitHandshake (t : Turn) (socket : SocketNumber) :
    Passive t (t.awaitHandshake socket) :=
  ⟨rfl, fun _ ha => absurd (Option.some.inj ha) nofun⟩

theorem effort_stepAttempt (t : Turn) (i : Input) : Effort t (t.stepAttempt i) i := by
  unfold stepAttempt
  split
  · exact effort_beginAttempt t
  · exact Effort.passive (Passive.refl t)
  · exact Effort.passive (passive_commandOffline ..)
  · exact Effort.passive (passive_tearDown t)
  · rename_i token hready
    exact effort_dial hready
  · exact Effort.passive (passive_awaitHandshake ..)
  · exact Effort.passive (passive_attemptFailed ..)
  · exact Effort.passive (passive_attemptFailed ..)
  · exact Effort.passive (passive_shakeHands ..)
  · exact Effort.passive (passive_attemptFailed ..)
  · exact Effort.passive (Passive.refl t)

/-- **Only an attempt asks for a socket**, and it gets ready by a usable token only. -/
theorem effort_step (t : Turn) (i : Input) : Effort t (t.step i) i := by
  have hidle : Effort t (t.stepIdle i) i := by
    unfold stepIdle
    split
    · exact Effort.passive (passive_commandOffline ..)
    · exact Effort.passive (passive_tearDown t)
    · exact Effort.passive (Passive.refl t)
  have hbackoff : Effort t (t.stepBackoff i) i := by
    unfold stepBackoff
    split
    · exact Effort.passive (passive_commandOffline ..)
    · exact Effort.passive (passive_tearDown t)
    · exact Effort.passive (Passive.of_same (by simp) rfl)
    · exact Effort.passive (Passive.refl t)
  unfold step
  split
  · exact Effort.passive (Passive.refl t)
  · split
    · exact hidle
    · exact hidle
    · exact Effort.passive (passive_stepConnected t i)
    · split
      · exact hbackoff
      · exact effort_stepAttempt t i
    · split
      · exact hbackoff
      · exact effort_stepAttempt t i

end Turn
namespace Connection

/-! ## Runs -/

theorem run_append (c : Connection) (a b : List (Moment × Input)) :
    c.run (a ++ b) = (((c.run a).1.run b).1, (c.run a).2 ++ ((c.run a).1.run b).2) := by
  induction a generalizing c with
  | nil => rfl
  | cons first rest ih =>
    obtain ⟨m, i⟩ := first
    simp only [List.cons_append, run, ih, List.append_assoc]

/-- Every effect of a run is one of a step. -/
theorem mem_run {c : Connection} {inputs : List (Moment × Input)} {e : Effect}
    (h : e ∈ (c.run inputs).2) : ∃ before m i after, inputs = before ++ (m, i) :: after ∧
      e ∈ ((c.run before).1.step m i).2 := by
  induction inputs generalizing c with
  | nil => exact absurd h List.not_mem_nil
  | cons first rest ih =>
    obtain ⟨m, i⟩ := first
    rcases List.mem_append.1 h with h | h
    · exact ⟨[], m, i, rest, rfl, h⟩
    · obtain ⟨before, m', i', after, hrest, he⟩ := ih h
      exact ⟨(m, i) :: before, m', i', after, by rw [hrest, List.cons_append], he⟩

/-- In a run, an attempt took a usable token at a moment, and is ready to present it ever since. -/
def Fetched (c : Connection) (inputs : List (Moment × Input)) (m : Moment) (token : String) :
    Prop :=
  ∃ before waiting, inputs = before ++ (m, .attempt) :: waiting ∧
    Credential.usable m.token m.seconds = .ok token ∧
    ∀ part, part <+: waiting →
      (c.run (before ++ (m, .attempt) :: part)).1.attempt = some (.ready token)

theorem fetched_run {c : Connection} (hc : ∀ token, c.attempt ≠ some (.ready token))
    (inputs : List (Moment × Input)) {token : String}
    (h : (c.run inputs).1.attempt = some (.ready token)) : ∃ m, c.Fetched inputs m token := by
  induction inputs using List.reverseRecOn with
  | nil => exact absurd h (hc token)
  | append_singleton inputs last ih =>
    obtain ⟨m, i⟩ := last
    have hlast := h
    rw [run_append] at h
    cases Turn.effort_step { conn := (c.run inputs).1, moment := m } i with
    | passive hp =>
      obtain ⟨m₀, before, waiting, rfl, husable, hready⟩ := ih (hp.ready token h)
      refine ⟨m₀, before, waiting ++ [(m, i)], by simp, husable, fun part hpart => ?_⟩
      rcases List.prefix_concat_iff.1 hpart with rfl | hpart
      · simpa using hlast
      · exact hready part hpart
    | begun token' husable hdials hready =>
      have heq : token' = token := by simpa using hready.symm.trans h
      subst heq
      refine ⟨m, inputs, [], rfl, husable, fun part hpart => ?_⟩
      rw [List.prefix_nil.1 hpart]
      exact hlast
    | dialled token' hready hdials hopening => exact absurd h (hopening token)

/-- **Where a token that is presented comes from.**  It was taken when the attempt began, and the
attempt was ready to present it ever since. -/
theorem dial_fetched {c : Connection} (hc : ∀ token, c.attempt ≠ some (.ready token))
    {inputs : List (Moment × Input)} {url token : String}
    (h : Effect.dial url token ∈ (c.run inputs).2) :
    ∃ before m after m₀, inputs = before ++ (m, .dial) :: after ∧
      c.Fetched before m₀ token := by
  obtain ⟨before, m, i, after, rfl, he⟩ := mem_run h
  let t : Turn := { conn := (c.run before).1, moment := m }
  have hmem : Effect.dial url token ∈ (t.step i).dials :=
    List.mem_filter.2 ⟨List.mem_filter.2 ⟨he, rfl⟩, rfl⟩
  have hnone : t.dials = [] := rfl
  cases Turn.effort_step t i with
  | passive hp =>
    rw [hp.dials, hnone] at hmem
    exact absurd hmem List.not_mem_nil
  | begun token' husable hdials hready =>
    rw [hdials, hnone] at hmem
    exact absurd hmem List.not_mem_nil
  | dialled token' hready hdials hopening =>
    rw [hdials, hnone, List.nil_append, List.mem_singleton] at hmem
    obtain ⟨-, rfl⟩ := Effect.dial.inj hmem
    obtain ⟨m₀, hfetched⟩ := fetched_run hc before hready
    exact ⟨before, m, after, m₀, rfl, hfetched⟩

end Connection
end LiveSync
