import LiveSync.Proofs.Connection.Rest
import LiveSync.Proofs.Registry.Changes

/-!
# The deeds of a turn

As far as subscriptions, callers and sockets are concerned, a turn is a list of deeds: it changes
the registry, gives answers and writes frames, in this order and no other.  All else that a turn
does leaves no deed.

* `Does` — from one point of a turn to a later one these deeds were done.
* `Retreat` — what giving a connection or an attempt up consists of.
* `retreats_lose`, `retreats_attemptFailed`, `retreats_goDisconnected` — the ways to give up.
* `does_request`, `does_requestAgain_foldl`, `does_closeGracefully` — the requests that are written.
-/

namespace LiveSync

open LiveSync.Json

/-- Is the effect an answer to a caller, or a frame? -/
@[simp, reducible] def Effect.isMessage : Effect → Bool
  | .reply .. | .frame .. => true
  | .publish .. | .snapshot _ | .dial .. | .close _ | .clearListeners => false

/-- Reading answers or frames off effects, all others may be left out first. -/
theorem filterMap_messages {α : Type} {f : Effect → Option α}
    (hf : ∀ e, e.isMessage = false → f e = none) (effects : List Effect) :
    (effects.filter Effect.isMessage).filterMap f = effects.filterMap f := by
  rw [List.filterMap_filter]
  congr 1
  funext e
  cases he : e.isMessage with
  | true => rfl
  | false => exact (hf e he).symm

/-- One thing that a turn does. -/
inductive Deed where
  /-- It changes the registry, and gives the answers that the change calls for. -/
  | change (x : Registry.Change)
  /-- It answers a caller, or writes a frame. -/
  | message (e : Effect)

/-- What comes of deeds: the messages, in order, and the registry in the end. -/
def Registry.perform (r : Registry) : List Deed → List Effect × Registry
  | [] => ([], r)
  | .change x :: rest =>
    (replyEffects (r.apply x).1 ++ ((r.apply x).2.perform rest).1, ((r.apply x).2.perform rest).2)
  | .message e :: rest => (e :: (r.perform rest).1, (r.perform rest).2)

theorem Registry.perform_append (r : Registry) (a b : List Deed) :
    r.perform (a ++ b) =
      ((r.perform a).1 ++ ((r.perform a).2.perform b).1, ((r.perform a).2.perform b).2) := by
  induction a generalizing r with
  | nil => rfl
  | cons d rest ih => cases d <;> simp [perform, ih]

/-- Frames leave the registry alone. -/
theorem Registry.perform_messages (r : Registry) (es : List Effect) :
    r.perform (es.map .message) = (es, r) := by
  induction es with
  | nil => rfl
  | cons e rest ih => simp [perform, ih]

/-- What follows when a connection or an attempt is given up: subscriptions are put back, and
callers that wait to be subscribed may be failed. -/
def Deed.IsRetreat (d : Deed) : Prop :=
  d = Deed.change .demoteAll ∨ d = Deed.change (.failSubscribers .notConnected)

/-- A connection or an attempt was given up by these deeds. -/
structure Retreat (c : Connection) (deeds : List Deed) : Prop where
  /-- Nothing else was done. -/
  only : ∀ d ∈ deeds, d.IsRetreat
  /-- There is no socket. -/
  socket : c.socket = none
  /-- No attempt is under way. -/
  attempt : c.attempt = none
  /-- At rest, those that waited to be subscribed were failed in the end. -/
  failed : c.AtRest → ∃ before, deeds = before ++ [.change (.failSubscribers .notConnected)]

/-- The frame of a request of the subscription protocol. -/
def Connection.requestFrame (c : Connection) (socket : SocketNumber) (operation : Operation)
    (id : String) (fault : Option Fault) : Effect :=
  .frame socket ⟨operation.name, c.normalizer.outbound (Payload.ofEntity id)⟩ fault

namespace Connection

/-- What follows from asking for subscriptions: every request is written and the connection stays,
or one of them meets a fault and the connection is given up. -/
inductive Asking (c : Connection) (socket : SocketNumber) :
    List String → Connection → List Deed → Prop where
  /-- Every request is written. -/
  | all {ids : List String} : Asking c socket ids c
      (ids.map fun id => .message (c.requestFrame socket .subscribe id none))
  /-- A request meets a fault, and those behind it are not made. -/
  | part (written : List String) (id : String) (unasked : List String) (fault : Fault)
      (rest : List Deed) {c' : Connection} (h : Retreat c' rest) :
      Asking c socket (written ++ id :: unasked) c'
        ((written.map fun id => .message (c.requestFrame socket .subscribe id none)) ++
          .message (c.requestFrame socket .subscribe id (some fault)) :: rest)

theorem Asking.cons {c c' : Connection} {socket : SocketNumber} {ids : List String}
    {deeds : List Deed} (h : c.Asking socket ids c' deeds) {id : String} :
    c.Asking socket (id :: ids) c'
      (.message (c.requestFrame socket .subscribe id none) :: deeds) := by
  cases h with
  | all => exact @Asking.all c socket (id :: ids)
  | part written other unasked fault rest h =>
    exact .part (id :: written) other unasked fault rest h

/-- The frames release these entities, one each, whatever befalls it. -/
def Releases (c : Connection) (socket : SocketNumber) (ids : List String) (frames : List Effect) :
    Prop :=
  List.Forall₂ (fun id e => ∃ fault, e = c.requestFrame socket .unsubscribe id fault) ids frames

/-- The frames with which a connection takes leave: on its socket, if there is one, what is active
is released. -/
inductive Farewell (c : Connection) : List Effect → Prop where
  /-- There is no socket. -/
  | silent (hs : c.socket = none) : Farewell c []
  /-- The releases are written on the socket. -/
  | held {socket : SocketNumber} {frames : List Effect} (hs : c.socket = some socket)
      (h : c.Releases socket c.registry.activeEntities frames) : Farewell c frames

/-- Every frame releases one of the entities. -/
theorem Releases.frames {c : Connection} {socket : SocketNumber} {ids : List String}
    {frames : List Effect} (h : c.Releases socket ids frames) :
    ∀ e ∈ frames, ∃ id ∈ ids, ∃ fault, e = c.requestFrame socket .unsubscribe id fault := by
  induction h with
  | nil => exact nofun
  | cons hfirst _ ih =>
    intro e he
    rcases List.mem_cons.1 he with rfl | he
    · exact ⟨_, List.mem_cons_self, hfirst⟩
    · obtain ⟨id, hid, hframe⟩ := ih e he
      exact ⟨id, List.mem_cons_of_mem _ hid, hframe⟩

end Connection

namespace Turn

/-- The answers and frames among the effects so far. -/
abbrev messages (t : Turn) : List Effect :=
  t.sift Effect.isMessage

/-! ## Deeds -/

/-- From one point of a turn to a later one these deeds were done. -/
structure Does (t t' : Turn) (deeds : List Deed) : Prop where
  /-- The registry is what the deeds make of it. -/
  registry : t'.conn.registry = (t.conn.registry.perform deeds).2
  /-- The messages are those of the deeds. -/
  messages : t'.messages = t.messages ++ (t.conn.registry.perform deeds).1

namespace Does

variable {t t' t'' : Turn} {a b : List Deed}

theorem trans (h : Does t t' a) (h' : Does t' t'' b) : Does t t'' (a ++ b) where
  registry := by rw [h'.registry, h.registry, Registry.perform_append]
  messages := by
    rw [h'.messages, h.messages, h.registry, Registry.perform_append, List.append_assoc]

/-- What leaves the registry alone, and neither answers nor writes, does nothing. -/
theorem of_same (hregistry : t'.conn.registry = t.conn.registry)
    (hmessages : t'.messages = t.messages) : Does t t' [] :=
  ⟨hregistry, by rw [hmessages]; exact (List.append_nil _).symm⟩

end Does

theorem does_change (t : Turn) (x : Registry.Change) :
    Does t (t.setRegistry (t.conn.registry.apply x)) [.change x] :=
  ⟨rfl, by simp [Registry.perform]⟩

theorem does_answer (t : Turn) (ticket : Ticket) (a : Answer) :
    Does t (t.answer ticket a) [.message (.reply ticket a)] :=
  ⟨rfl, by simp [Registry.perform]⟩

/-- What listeners are told is no deed. -/
theorem does_publish (t : Turn) (event : String) (payload : Value) :
    Does t (t.publish event payload) [] :=
  Does.of_same rfl (by simp)

/-- On a socket, sending writes one frame. -/
theorem does_send {t : Turn} {socket : SocketNumber} (h : t.conn.socket = some socket)
    (event : String) (payload : Value) :
    Does t (t.send event payload).2 [.message (.frame socket
      ⟨event, t.conn.normalizer.outbound payload⟩ (t.moment.sendFault t.sends))] := by
  refine ⟨by rw [conn_send]; rfl, ?_⟩
  simp [sift_send t h, Registry.perform]

/-! ## Giving up -/

/-- Between two points of a turn a connection or an attempt was given up. -/
def Retreats (t t' : Turn) : Prop :=
  ∃ deeds, Does t t' deeds ∧ Retreat t'.conn deeds

theorem Retreats.after {t t' t'' : Turn} {deeds : List Deed} (h : Does t t' deeds)
    (hd : ∀ d ∈ deeds, d.IsRetreat) (h' : Retreats t' t'') : Retreats t t'' := by
  obtain ⟨later, hdoes, hretreat⟩ := h'
  refine ⟨deeds ++ later, h.trans hdoes, ?_, hretreat.socket, hretreat.attempt, fun hrest => ?_⟩
  · exact fun d hm => (List.mem_append.1 hm).elim (hd d) (hretreat.only d)
  · obtain ⟨before, heq⟩ := hretreat.failed hrest
    exact ⟨deeds ++ before, by rw [heq, List.append_assoc]⟩

/-- Listeners may be told first. -/
theorem Retreats.published {t t' : Turn} {event : String} {payload : Value}
    (h : Retreats (t.publish event payload) t') : Retreats t t' :=
  Retreats.after (does_publish ..) nofun h

theorem does_demoteAll (t : Turn) : Does t t.demoteAll [.change .demoteAll] :=
  does_change t .demoteAll

theorem retreats_goDisconnected (t : Turn) : Retreats t t.goDisconnected := by
  let demoted := t.stopHeartbeat.demoteAll
  let failed := demoted.setRegistry (demoted.conn.registry.failSubscribers .notConnected)
  have hdemoted : Does t demoted [.change .demoteAll] :=
    (Does.of_same rfl rfl : Does t t.stopHeartbeat []).trans (does_demoteAll _)
  have hfailed : Does demoted failed [.change (.failSubscribers .notConnected)] :=
    does_change demoted (.failSubscribers .notConnected)
  have hend : Does failed t.goDisconnected [] :=
    Does.of_same (by simp [failed, demoted, Connection.withdrawn])
      (by simp [goDisconnected, failed, demoted])
  refine ⟨_, (hdemoted.trans hfailed).trans hend, ?_, ?_, ?_, fun _ => ⟨[.change .demoteAll], rfl⟩⟩
  · simp [Deed.IsRetreat]
  · simp [Connection.withdrawn]
  · simp [Connection.withdrawn]

section

variable {t : Turn} (hsocket : t.conn.socket = none) (hattempt : t.conn.attempt = none)
include hsocket hattempt

theorem retreats_fail (limit : Nat) : Retreats t (t.fail limit) := by
  let failed := (t.setRetry none).setRegistry
    ((t.setRetry none).conn.registry.failSubscribers .notConnected)
  have hfailed : Does t failed [.change (.failSubscribers .notConnected)] :=
    (Does.of_same rfl rfl : Does t (t.setRetry none) []).trans
      (does_change _ (.failSubscribers .notConnected))
  have hend : Does failed (t.fail limit) [] :=
    Does.of_same (by simp [failed, Connection.givenUp]) (by simp [fail, failed])
  refine ⟨_, hfailed.trans hend, ?_, ?_, ?_, fun _ => ⟨[], rfl⟩⟩
  · simp [Deed.IsRetreat]
  · simpa [Connection.givenUp] using hsocket
  · simpa [Connection.givenUp] using hattempt

theorem retreats_scheduleRetry : Retreats t t.scheduleRetry := by
  cases ha : t.conn.config.options.autoReconnect with
  | false =>
    rw [scheduleRetry_off ha]
    exact retreats_goDisconnected t
  | true =>
    cases hl : t.conn.config.options.maxReconnectAttempts.filter
        (· ≤ t.conn.snapshot.attempt) with
    | some limit =>
      rw [scheduleRetry_spent ha hl]
      exact retreats_fail hsocket hattempt limit
    | none =>
      obtain ⟨due, hconn⟩ := conn_scheduleRetry_due ha hl
      have hmessages : t.scheduleRetry.messages = t.messages := by
        unfold scheduleRetry
        simp only [ha, Bool.not_true, Bool.false_eq_true, if_false, hl]
        split <;> simp
      refine ⟨[], Does.of_same (by rw [hconn]; rfl) hmessages, nofun, ?_, ?_, fun hrest => ?_⟩
      · rw [hconn]
        exact hsocket
      · rw [hconn]
        exact hattempt
      · rw [hconn] at hrest
        exact absurd hrest (by simp [Connection.AtRest, Connection.putOff, Connection.state,
          ConnectionState.isActive])

end

theorem retreats_lose {t : Turn} (hattempt : t.conn.attempt = none) (reason : DisconnectReason)
    (ended : Bool) : Retreats t (t.lose reason ended) := by
  let cut := (t.stopHeartbeat.demoteAll.closeSocket).publish EventName.disconnect reason.toValue
  have hcut : Does t cut [.change .demoteAll] :=
    ((Does.of_same rfl rfl : Does t t.stopHeartbeat []).trans (does_demoteAll _)).trans
      (Does.of_same (by simp [cut]) (by simp [cut]))
  refine Retreats.after hcut (by simp [Deed.IsRetreat]) ?_
  cases ended with
  | false =>
    refine retreats_scheduleRetry (t := cut) ?_ ?_
    · simp [cut]
    · simpa [cut] using hattempt
  | true =>
    exact Retreats.published (retreats_goDisconnected _)

theorem retreats_attemptFailed {t : Turn} (hsocket : t.conn.socket = none) (f : Fault) :
    Retreats t (t.attemptFailed f) := by
  let dropped := t.dropAttempt.publishFault f
  have hdropped : Does t dropped [] := Does.of_same (by simp [dropped]) (by simp [dropped])
  refine Retreats.after hdropped (by simp) ?_
  have heq : t.attemptFailed f =
      if f.isRecoverable then dropped.scheduleRetry else dropped.goDisconnected := rfl
  rw [heq]
  cases f.isRecoverable with
  | true => exact retreats_scheduleRetry (t := dropped) (by simpa [dropped]) (by simp [dropped])
  | false => exact retreats_goDisconnected dropped

/-! ## Requests -/

/-- A request is written, and a fault costs the connection. -/
theorem does_request {t : Turn} {socket : SocketNumber} (hs : t.conn.socket = some socket)
    (hattempt : t.conn.attempt = none) (operation : Operation) (id : String) :
    (Does t (t.request operation id) [.message (t.conn.requestFrame socket operation id none)] ∧
      (t.request operation id).conn = t.conn) ∨
    ∃ fault rest, Does t (t.request operation id)
        (.message (t.conn.requestFrame socket operation id (some fault)) :: rest) ∧
      Retreat (t.request operation id).conn rest := by
  have hsend := does_send hs operation.name (Payload.ofEntity id)
  have hconn := conn_send t operation.name (Payload.ofEntity id)
  have hsent := send_of_socket hs operation.name (Payload.ofEntity id)
  unfold request
  generalize t.send operation.name (Payload.ofEntity id) = sent at hsend hconn hsent ⊢
  obtain ⟨outcome, t'⟩ := sent
  have houtcome := (Prod.mk.inj hsent).1
  cases hf : t.moment.sendFault t.sends with
  | none =>
    rw [hf] at hsend houtcome
    subst houtcome
    exact Or.inl ⟨hsend, hconn⟩
  | some fault =>
    rw [hf] at hsend houtcome
    subst houtcome
    obtain ⟨rest, hlost, hretreat⟩ := retreats_lose (t := t') (by rw [hconn]; exact hattempt)
      { message := "Failed to send " ++ operation.name ++ " for '" ++ id ++ "': " ++ fault.message }
      false
    exact Or.inr ⟨fault, rest, hsend.trans hlost, hretreat⟩

/-- Without a socket nothing is asked for. -/
theorem foldl_requestAgain_of_no_socket {t : Turn} (hs : t.conn.socket = none)
    (ids : List String) : ids.foldl requestAgain t = t := by
  induction ids with
  | nil => rfl
  | cons id rest ih =>
    have hagain : t.requestAgain id = t := by
      unfold requestAgain
      rw [if_neg (by rw [hs]; decide)]
    rw [List.foldl_cons, hagain, ih]

/-- Subscriptions are asked for one by one until a request meets a fault, which costs the
connection. -/
theorem does_requestAgain_foldl {t : Turn} {socket : SocketNumber}
    (hs : t.conn.socket = some socket) (hattempt : t.conn.attempt = none) (ids : List String) :
    ∃ deeds, Does t (ids.foldl requestAgain t) deeds ∧
      t.conn.Asking socket ids (ids.foldl requestAgain t).conn deeds := by
  induction ids generalizing t with
  | nil => exact ⟨[], Does.of_same rfl rfl, .all⟩
  | cons id rest ih =>
    have hagain : t.requestAgain id = t.request .subscribe id := by
      unfold requestAgain
      rw [if_pos (by rw [hs]; rfl)]
    rw [List.foldl_cons, hagain]
    rcases does_request hs hattempt .subscribe id with ⟨hdoes, hconn⟩ | ⟨fault, later, hdoes, hgone⟩
    · obtain ⟨deeds, hrest, hasking⟩ := ih (by rwa [hconn]) (by rwa [hconn])
      rw [hconn] at hasking
      exact ⟨_, hdoes.trans hrest, hasking.cons⟩
    · rw [foldl_requestAgain_of_no_socket hgone.socket]
      exact ⟨_, hdoes, .part [] id rest fault later hgone⟩

/-! ## Leaving -/

/-- Releases are written whatever befalls them. -/
theorem does_releases {t : Turn} {socket : SocketNumber} (hs : t.conn.socket = some socket)
    (ids : List String) :
    let t' := ids.foldl (fun t id => (t.send EventName.unsubscribe (Payload.ofEntity id)).2) t
    t'.conn = t.conn ∧
      ∃ frames, t.conn.Releases socket ids frames ∧ Does t t' (frames.map .message) := by
  induction ids generalizing t with
  | nil => exact ⟨rfl, [], .nil, Does.of_same rfl rfl⟩
  | cons id rest ih =>
    have hsend := does_send hs EventName.unsubscribe (Payload.ofEntity id)
    have hconn := conn_send t EventName.unsubscribe (Payload.ofEntity id)
    obtain ⟨hsame, frames, hreleases, hrest⟩ :=
      ih (t := (t.send EventName.unsubscribe (Payload.ofEntity id)).2) (by rwa [hconn])
    rw [hconn] at hreleases
    exact ⟨hsame.trans hconn, _ :: frames, .cons ⟨_, rfl⟩ hreleases, hsend.trans hrest⟩

theorem does_closeGracefully {t : Turn} {socket : SocketNumber}
    (hs : t.conn.socket = some socket) :
    ∃ frames, t.conn.Farewell frames ∧ Does t t.closeGracefully (frames.map .message) := by
  obtain ⟨hconn, frames, hreleases, hdoes⟩ := does_releases hs t.conn.registry.activeEntities
  have hclosed : Does _ t.closeGracefully [] :=
    Does.of_same (by rw [conn_closeGracefully, hconn]) (sift_closeSocket _ fun _ => rfl)
  exact ⟨frames, .held hs hreleases, by simpa using hdoes.trans hclosed⟩

/-- Tearing down takes leave of the server, and drops every subscription. -/
theorem does_tearDown (t : Turn) :
    ∃ frames, t.conn.Farewell frames ∧
      Does t t.tearDown (frames.map .message ++ [.change (.clear .cancelled)]) := by
  let dropped := t.dropAttempt
  let left := if dropped.conn.socket.isSome then
      dropped.closeGracefully.publish EventName.disconnect
        (DisconnectReason.toValue { message := "Client shut down" })
    else dropped
  let cleared := left.stopHeartbeat.setRegistry (left.conn.registry.clear .cancelled)
  have hdropped : Does t dropped [] := Does.of_same (by simp [dropped]) (by simp [dropped])
  have hleft : ∃ frames, t.conn.Farewell frames ∧ Does t left (frames.map .message) := by
    have hsocket : dropped.conn.socket = t.conn.socket := by simp [dropped]
    cases hs : t.conn.socket with
    | none =>
      have hstay : left = dropped := if_neg (by rw [hsocket, hs]; decide)
      exact ⟨[], .silent hs, hstay ▸ hdropped⟩
    | some socket =>
      have hclose : left = dropped.closeGracefully.publish EventName.disconnect
          (DisconnectReason.toValue { message := "Client shut down" }) :=
        if_pos (by rw [hsocket, hs]; rfl)
      obtain ⟨frames, hfarewell, hclosed⟩ := does_closeGracefully (hsocket.trans hs)
      have hpublished : Does dropped.closeGracefully left [] := hclose ▸ does_publish ..
      refine ⟨frames, ?_, by simpa using (hdropped.trans hclosed).trans hpublished⟩
      rw [show dropped.conn = _ from conn_dropAttempt t] at hfarewell
      cases hfarewell with
      | silent hnone => exact .silent hnone
      | held hs hreleases => exact .held hs hreleases
  have hcleared : Does left cleared [.change (.clear .cancelled)] :=
    (Does.of_same rfl rfl : Does left left.stopHeartbeat []).trans
      (does_change _ (.clear .cancelled))
  have hend : Does cleared t.tearDown [] := by
    have heq : t.tearDown = { ((cleared.setRetry none).setState .disconnected).effect
      .clearListeners with conn := t.tearDown.conn } := rfl
    refine Does.of_same ?_ ?_
    · show (((cleared.setRetry none).setState .disconnected).effect
        .clearListeners).conn.registry = _
      simp
    · rw [heq]
      simp
  obtain ⟨frames, hfarewell, hdoes⟩ := hleft
  exact ⟨frames, hfarewell, by simpa using (hdoes.trans hcleared).trans hend⟩

/-! ## Timers and handshakes -/

theorem does_expireRequests (t : Turn) :
    Does t t.expireRequests [.change (.expire t.moment.now)] := by
  have hannounced : ∀ (overdue : List (String × Operation)) (t : Turn),
      (overdue.foldl announceOverdue t).messages = t.messages := by
    intro overdue
    induction overdue with
    | nil => exact fun _ => rfl
    | cons e rest ih => exact fun t => (ih _).trans (by simp [announceOverdue])
  have hexpired := does_change t (.expire t.moment.now)
  have hend : Does (t.setRegistry (t.conn.registry.expire t.moment.now).2) t.expireRequests [] :=
    Does.of_same (by rw [(expireRequests_eq t).1]; rfl) (hannounced _ _)
  exact hexpired.trans hend

theorem does_opened (t : Turn) (socket : SocketNumber) (socketId : Option String) :
    Does t (t.opened socket socketId) [.change (.reissue t.moment.now)] where
  registry := by rw [conn_opened]; rfl
  messages := by simp [opened, Registry.perform, Registry.apply, replyEffects]

/-- When a handshake is complete, the subscriptions that waited are asked for. -/
theorem does_establish (t : Turn) (socket : SocketNumber) (socketId : Option String) :
    ∃ asking, Does t (t.establish socket socketId) (.change (.reissue t.moment.now) :: asking) ∧
      (t.conn.established socket socketId t.moment.now).Asking socket
        (t.conn.registry.reissue t.moment.now).1 (t.establish socket socketId).conn asking := by
  have hs : (t.opened socket socketId).conn.socket = some socket := by simp
  obtain ⟨asking, hasked, hasking⟩ :=
    does_requestAgain_foldl hs (by simp) (t.conn.registry.reissue t.moment.now).1
  rw [← establish_opened] at hasked hasking
  rw [conn_opened] at hasking
  exact ⟨asking, (does_opened ..).trans hasked, hasking⟩

end Turn
end LiveSync
