import LiveSync.Proofs.Connection.Strides

/-!
# What listeners are told

Listeners are told of events of two kinds: the connection passes on what the server says, and it
reports about itself in between.  Its own reports have few names; what a connection reports when it
absorbs an event of the server, and when it ends, is found here.

* `publications` — what effects tell listeners.
* `remarks`, `aftermath` — the names of the events that a connection reports about itself.
* `refusals`, `published_absorb` — what is reported before an event of the server is passed on.
* `Turn.Trails`, `published_lose` — what is reported when the connection ends.
-/

namespace LiveSync

open LiveSync.Json

/-- What listeners are told, if anything. -/
def Effect.publication? : Effect → Option (String × Value)
  | .publish event payload => some (event, payload)
  | _ => none

/-- What effects tell listeners, in order. -/
def publications (effects : List Effect) : List (String × Value) :=
  effects.filterMap Effect.publication?

@[simp] theorem publications_append (a b : List Effect) :
    publications (a ++ b) = publications a ++ publications b :=
  List.filterMap_append

@[simp] theorem publications_snapshot (s : Snapshot) (rest : List Effect) :
    publications (.snapshot s :: rest) = publications rest :=
  rfl

/-- Listeners are told by signals only. -/
@[simp] theorem publications_signals (effects : List Effect) :
    publications (Connection.signals effects) = publications effects := by
  unfold publications Connection.signals
  rw [List.filterMap_filter]
  refine List.filterMap_congr fun e _ => ?_
  cases e <;> rfl

/-- All the events have one of the given names. -/
def Only (names : List String) (told : List (String × Value)) : Prop :=
  ∀ p ∈ told, p.1 ∈ names

namespace Only

variable {names : List String} {told later : List (String × Value)}

theorem nil : Only names [] := nofun

theorem singleton {event : String} (h : event ∈ names) (payload : Value) :
    Only names [(event, payload)] :=
  fun p hp => by rwa [List.mem_singleton.1 hp]

theorem append (h : Only names told) (h' : Only names later) : Only names (told ++ later) :=
  fun p hp => (List.mem_append.1 hp).elim (h p) (h' p)

theorem mono {more : List String} (h : Only names told) (hsub : names ⊆ more) : Only more told :=
  fun p hp => hsub (h p hp)

end Only

/-- The events that a connection reports about itself while it lasts or ends. -/
def remarks : List String :=
  [EventName.disconnect, EventName.connectionError, EventName.subscriptionError,
    EventName.stateChanged, EventName.reconnectAttempt]

/-- The events that a connection reports about itself after it has reported its end. -/
def aftermath : List String :=
  [EventName.connectionError, EventName.stateChanged, EventName.reconnectAttempt]

/-- What a connection reports about an event of the server: a refused subscription. -/
def refusals (event : String) (payload : Value) : List (String × Value) :=
  if event = EventName.subscribeAck then
    match Payload.entityId? payload, payload.getString? "error" with
    | some entity, some why =>
      [(EventName.subscriptionError, Turn.subscriptionNotice entity .subscribe why)]
    | _, _ => []
  else []

theorem aftermath_subset : aftermath ⊆ remarks := by decide

theorem only_refusals (event : String) (payload : Value) :
    Only remarks (refusals event payload) := by
  unfold refusals
  split
  · split
    · exact .singleton (by decide) _
    · exact .nil
  · exact .nil

namespace Pace

variable {p : Pace}

theorem only_plain {told : List Effect} (h : ∀ e ∈ told, p.Plain e) :
    Only remarks (publications told) := by
  intro q hq
  obtain ⟨e, he, heq⟩ := List.mem_filterMap.1 hq
  cases h e he with
  | snapshot => cases heq
  | notice hname =>
    cases heq
    exact (show notices ⊆ remarks by decide) hname

theorem only_changes (s : ConnectionState) : Only aftermath (publications (p.changes s)) := by
  unfold changes
  split
  · exact .nil
  · exact .singleton (by decide) _

theorem Enters.only {s : ConnectionState} {told : List Effect} (h : p.Enters s told) :
    Only aftermath (publications told) := by
  cases h with
  | same => exact .nil
  | other => exact only_changes s

theorem Sequel.only {options : Options} {after : Pace} {told : List Effect}
    (h : p.Sequel options after told) : Only aftermath (publications told) := by
  cases h with
  | withdrawn h => exact h.only
  | spent _ _ h =>
    rw [publications_append]
    exact h.only.append (.singleton (by decide) _)
  | retried =>
    rw [List.cons_append, publications_snapshot, publications_append]
    exact (only_changes _).append (.singleton (by decide) _)

end Pace

theorem Connection.Abandons.only {c c' : Connection} {told : List Effect}
    (h : c.Abandons c' told) : Only remarks (publications told) := by
  obtain ⟨ahead, sequel, rfl, hplain, hsequel⟩ := h.signals
  rw [publications_append]
  exact (Pace.only_plain hplain).append (hsequel.only.mono aftermath_subset)

namespace Turn

open Connection

/-- What listeners were told so far. -/
def published (t : Turn) : List (String × Value) :=
  publications t.effects

theorem published_eq (t : Turn) : t.published = publications t.signals :=
  (publications_signals t.effects).symm

@[simp] theorem published_publish (t : Turn) (event : String) (payload : Value) :
    (t.publish event payload).published = t.published ++ [(event, payload)] := by
  simp [published_eq, publications, Effect.publication?]

/-- What tells nothing leaves it as it was. -/
theorem published_of_signals {t t' : Turn} (h : t'.signals = t.signals) :
    t'.published = t.published := by
  rw [published_eq, published_eq, h]

@[simp] theorem published_send (t : Turn) (event : String) (payload : Value) :
    (t.send event payload).2.published = t.published :=
  published_of_signals (by simp)

@[simp] theorem published_setRegistry (t : Turn) (change : List Reply × Registry) :
    (t.setRegistry change).published = t.published :=
  published_of_signals (by simp)

@[simp] theorem published_publishSnapshot (t : Turn) :
    t.publishSnapshot.published = t.published := by
  simp [published_eq, publications, Effect.publication?]

/-! ## Events of the server -/

theorem published_onPong (t : Turn) (payload : Value) :
    (t.onPong payload).published = t.published := by
  unfold onPong
  dsimp only
  split
  · exact published_publishSnapshot _
  · rfl

theorem published_onSubscribeAck (t : Turn) (payload : Value) :
    (t.onSubscribeAck payload).published =
      t.published ++ refusals EventName.subscribeAck payload := by
  unfold onSubscribeAck refusals
  rw [if_pos rfl]
  cases Payload.entityId? payload with
  | none => exact (List.append_nil _).symm
  | some entity =>
    cases payload.getString? "error" with
    | none => exact (published_setRegistry ..).trans (List.append_nil _).symm
    | some why => exact (published_publish ..).trans (congrArg (· ++ _) (published_setRegistry ..))

theorem published_onUnsubscribeAck (t : Turn) (payload : Value) :
    (t.onUnsubscribeAck payload).published = t.published := by
  unfold onUnsubscribeAck
  split
  · rfl
  · exact published_setRegistry ..

theorem published_onWatchersChanged (t : Turn) (payload : Value) :
    (t.onWatchersChanged payload).published = t.published := by
  unfold onWatchersChanged
  split
  · exact published_setRegistry ..
  · rfl

theorem published_onConnect (t : Turn) (payload : Value) :
    (t.onConnect payload).published = t.published := by
  unfold onConnect
  split
  · rfl
  · exact published_publishSnapshot _

/-- What an event means for the connection itself is not reported, but for a refused
subscription. -/
theorem published_absorb (t : Turn) (event : String) (payload : Value) :
    (t.absorb event payload).published = t.published ++ refusals event payload := by
  have hnone : event ≠ EventName.subscribeAck → refusals event payload = [] :=
    fun h => if_neg h
  have hsilent : ∀ {t' : Turn}, t'.published = t.published → event ≠ EventName.subscribeAck →
      t'.published = t.published ++ refusals event payload :=
    fun h he => by rw [hnone he, h, List.append_nil]
  unfold absorb
  split
  · rename_i h
    exact hsilent (published_send ..) (h ▸ by decide)
  split
  · rename_i h
    exact hsilent (published_onPong ..) (h ▸ by decide)
  split
  · rename_i h
    rw [h]
    exact published_onSubscribeAck ..
  split
  · exact hsilent (published_onUnsubscribeAck ..) ‹_›
  split
  · exact hsilent (published_onWatchersChanged ..) ‹_›
  split
  · exact hsilent (published_onConnect ..) ‹_›
  · exact hsilent rfl ‹_›

/-- Events are routed after everything that is reported about them. -/
theorem published_route (t : Turn) (event : String) (payload : Value) :
    (t.route event payload).published = t.published ++
      if (t.conn.dedup.offer event payload t.moment.now).1 then [] else [(event, payload)] := by
  unfold route
  dsimp only
  split
  · exact (List.append_nil _).symm
  · exact published_publish ..

/-! ## The end of the connection -/

/-- From one point of a turn to a later one, nothing is reported but what follows an end. -/
def Trails (t t' : Turn) : Prop :=
  ∃ told, t'.published = t.published ++ told ∧ Only aftermath told

section

variable {t t' t'' : Turn}

theorem trails_of_signals (h : t'.signals = t.signals) : Trails t t' :=
  ⟨[], by rw [published_of_signals h, List.append_nil], .nil⟩

theorem Trails.trans (h : Trails t t') (h' : Trails t' t'') : Trails t t'' := by
  obtain ⟨told, htold, hnames⟩ := h
  obtain ⟨later, hlater, hnames'⟩ := h'
  exact ⟨told ++ later, by rw [hlater, htold, List.append_assoc], hnames.append hnames'⟩

theorem trails_publishError (t : Turn) (message : String) (recoverable : Bool) :
    Trails t (t.publishError message recoverable) :=
  ⟨_, published_publish .., .singleton (by decide) _⟩

theorem trails_setState (t : Turn) (s : ConnectionState) : Trails t (t.setState s) := by
  obtain ⟨told, htold, henters⟩ := signals_setState t s
  refine ⟨publications told, ?_, henters.only⟩
  rw [published_eq, htold, publications_append, ← published_eq]

theorem trails_goDisconnected (t : Turn) : Trails t t.goDisconnected := by
  let failed := t.stopHeartbeat.demoteAll.setRegistry
    (t.stopHeartbeat.demoteAll.conn.registry.failSubscribers .notConnected)
  let bare := (failed.dropAttempt.closeSocket).setRetry none
  have hbare : Trails t bare := trails_of_signals (by simp [bare, failed])
  exact hbare.trans (trails_setState bare _)

theorem trails_fail (t : Turn) (limit : Nat) : Trails t (t.fail limit) := by
  let failed := (t.setRetry none).setRegistry
    ((t.setRetry none).conn.registry.failSubscribers .notConnected)
  have hfailed : Trails t failed := trails_of_signals (by simp [failed])
  exact hfailed.trans ((trails_setState failed _).trans (trails_publishError ..))

theorem trails_scheduleRetry (t : Turn) : Trails t t.scheduleRetry := by
  cases hauto : t.conn.config.options.autoReconnect with
  | false =>
    rw [scheduleRetry_off hauto]
    exact trails_goDisconnected t
  | true =>
    cases hl : t.conn.config.options.maxReconnectAttempts.filter
        (· ≤ t.conn.snapshot.attempt) with
    | some limit =>
      rw [scheduleRetry_spent hauto hl]
      exact trails_fail t limit
    | none =>
      obtain ⟨due, delay, -, hsignals⟩ := scheduleRetry_due hauto hl
      refine ⟨_, by rw [published_eq, hsignals, publications_append, ← published_eq], ?_⟩
      rw [List.nil_append, List.cons_append, publications_snapshot, publications_append]
      exact (Pace.only_changes _).append (.singleton (by decide) _)

/-- **The end is reported first**, and once. -/
theorem published_lose (t : Turn) (reason : DisconnectReason) (ended : Bool) :
    ∃ rest, (t.lose reason ended).published =
        t.published ++ (EventName.disconnect, reason.toValue) :: rest ∧ Only aftermath rest := by
  let cut := (t.stopHeartbeat.demoteAll.closeSocket).publish EventName.disconnect reason.toValue
  have hcut : cut.published = t.published ++ [(EventName.disconnect, reason.toValue)] := by
    have hsignals : t.stopHeartbeat.demoteAll.closeSocket.signals = t.signals := by simp
    exact (published_publish ..).trans (congrArg (· ++ _) (published_of_signals hsignals))
  have htrails : Trails cut (t.lose reason ended) := by
    cases ended with
    | false => exact trails_scheduleRetry cut
    | true => exact (trails_publishError cut ..).trans (trails_goDisconnected _)
  obtain ⟨rest, hrest, hnames⟩ := htrails
  exact ⟨rest, by rw [hrest, hcut, List.append_assoc, List.singleton_append], hnames⟩

end

end Turn
end LiveSync
