import LiveSync.Proofs.Connection.Marks
import LiveSync.Proofs.Connection.Reaction
import LiveSync.Proofs.Exchange.Turns
import LiveSync.Proofs.Registry.Statuses

/-!
# The requests on one socket

What a connection writes on a socket about one entity is orderly, and the last request that was
written tells how the entry stands.

* `requestsOn` — the requests among deeds, and those of each kind of reaction.
* `Connection.marks` — the history of one entity on one socket, along a run.
* `course_reaction` — how a reaction on the socket carries the history on.
* `history_step`, `history_run` — from the moment at which the socket is opened.
* `requests_orderly` — what that means for the requests.
-/

namespace LiveSync

open LiveSync.Json

/-! ## Requests among the deeds -/

/-- The request about an entity that an effect writes on a socket, if it does. -/
def Effect.requestOn? (socket : SocketNumber) (id : String) : Effect → Option Operation
  | .frame s e none =>
    if s = socket then
      ((SubscriptionRequest.ofEnvelope? e).filter (·.entity = id)).map (·.operation)
    else none
  | _ => none

/-- The request about an entity that a deed writes on a socket, if it does. -/
def Deed.requestOn? (socket : SocketNumber) (id : String) : Deed → Option Operation
  | .change _ => none
  | .message e => e.requestOn? socket id

/-- The requests about an entity that deeds write on a socket. -/
def requestsOn (socket : SocketNumber) (id : String) (deeds : List Deed) : List Operation :=
  deeds.filterMap (Deed.requestOn? socket id)

section

variable {socket : SocketNumber} {id : String}

@[simp] theorem requestsOn_append (a b : List Deed) :
    requestsOn socket id (a ++ b) = requestsOn socket id a ++ requestsOn socket id b :=
  List.filterMap_append

@[simp] theorem requestsOn_change (x : Registry.Change) (deeds : List Deed) :
    requestsOn socket id (.change x :: deeds) = requestsOn socket id deeds := rfl

theorem requestsOn_perform (r : Registry) (deeds : List Deed) :
    (r.perform deeds).1.filterMap (Effect.requestOn? socket id) = requestsOn socket id deeds := by
  induction deeds generalizing r with
  | nil => rfl
  | cons d rest ih =>
    cases d with
    | change x =>
      have hnone : (replyEffects (r.apply x).1).filterMap (Effect.requestOn? socket id) = [] :=
        List.filterMap_eq_nil_iff.2 fun e he => by
          obtain ⟨a, -, rfl⟩ := List.mem_map.1 he
          rfl
      simp only [Registry.perform, List.filterMap_append, hnone, ih, requestsOn_change,
        List.nil_append]
    | message e =>
      simp only [Registry.perform, requestsOn, List.filterMap_cons, Deed.requestOn?, ih]

/-- Only messages are requests. -/
theorem requestsOn_messages (effects : List Effect) :
    (effects.filter Effect.isMessage).filterMap (Effect.requestOn? socket id) =
      effects.filterMap (Effect.requestOn? socket id) :=
  filterMap_messages (fun e he => by cases e <;> first | rfl | cases he) effects

theorem requestOn?_requestFrame (socket : SocketNumber) (id : String) (c : Connection)
    (s : SocketNumber) (operation : Operation) (key : String) (fault : Option Fault) :
    (c.requestFrame s operation key fault).requestOn? socket id =
      if fault = none ∧ s = socket ∧ key = id then some operation else none := by
  cases fault with
  | some f => simp [Connection.requestFrame, Effect.requestOn?]
  | none =>
    simp only [Connection.requestFrame, Effect.requestOn?, Turn.ofEnvelope?_outbound]
    by_cases hs : s = socket
    · by_cases hid : key = id <;> simp [hs, hid]
    · simp [hs]

/-- A request on its socket is one more request about its entity, unless it meets a fault. -/
theorem requestsOn_request (c : Connection) (s : SocketNumber) (operation : Operation)
    (key : String) (fault : Option Fault) (deeds : List Deed) :
    requestsOn socket id (.message (c.requestFrame s operation key fault) :: deeds) =
      (if fault = none ∧ s = socket ∧ key = id then [operation] else []) ++
        requestsOn socket id deeds := by
  have hframe := requestOn?_requestFrame socket id c s operation key fault
  unfold requestsOn
  by_cases h : fault = none ∧ s = socket ∧ key = id
  · rw [if_pos h] at hframe ⊢
    exact List.filterMap_cons_some hframe
  · rw [if_neg h] at hframe ⊢
    exact List.filterMap_cons_none hframe

theorem Retreat.requestsOn {c : Connection} {deeds : List Deed} (h : Retreat c deeds) :
    requestsOn socket id deeds = [] := by
  refine List.filterMap_eq_nil_iff.2 fun d hd => ?_
  rcases h.only d hd with rfl | rfl <;> rfl

end

/-- The socket that the transport has opened. -/
def Input.opened? : Input → Option SocketNumber
  | .opened (.ok socket) => some socket
  | _ => none

/-- Is it what a caller wants to be sent? -/
def Input.isEmit : Input → Bool
  | .command (.emit ..) => true
  | _ => false

namespace Connection

section

variable {c c' : Connection} {socket : SocketNumber} {id : String}

/-- The heartbeat asks for nothing. -/
theorem IsChatter.requestOn? {e : Effect} (h : c.IsChatter e) : e.requestOn? socket id = none := by
  obtain ⟨s, envelope, fault, -, hevent, rfl⟩ := h
  have hnone : SubscriptionRequest.ofEnvelope? envelope = none := by
    unfold SubscriptionRequest.ofEnvelope?
    split
    · have hsubscribe : envelope.event ≠ EventName.subscribe := by
        rcases hevent with h | h <;> rw [h] <;> decide
      have hunsubscribe : envelope.event ≠ EventName.unsubscribe := by
        rcases hevent with h | h <;> rw [h] <;> decide
      rw [if_neg hsubscribe, if_neg hunsubscribe]
    · rfl
  cases fault with
  | some f => rfl
  | none => simp [Effect.requestOn?, hnone]

theorem requestsOn_chatter {frames : List Effect} (h : ∀ e ∈ frames, c.IsChatter e) :
    requestsOn socket id (frames.map .message) = [] := by
  refine List.filterMap_eq_nil_iff.2 fun d hd => ?_
  obtain ⟨e, he, rfl⟩ := List.mem_map.1 hd
  exact (h e he).requestOn?

theorem Ending.requestsOn {i : Input} {rest : List Deed} (h : c.Ending i c' rest) :
    requestsOn socket id rest = [] := by
  cases h with
  | stays => rfl
  | retreat h => exact h.requestsOn

theorem Sent.requestsOn {i : Input} {fault : Option Fault} {rest : List Deed}
    (h : c.Sent i c' fault rest) : requestsOn socket id rest = [] := by
  cases h with
  | written => rfl
  | lost _ h => exact h.requestsOn

/-- Of entities that are released once each, a given one is released once at most. -/
theorem Releases.requestsOn {s : SocketNumber} {ids : List String} {frames : List Effect}
    (h : c.Releases s ids frames) (hids : ids.Nodup) (socket : SocketNumber) (id : String) :
    requestsOn socket id (frames.map .message) = [] ∨
      (requestsOn socket id (frames.map .message) = [.unsubscribe] ∧ s = socket ∧ id ∈ ids) := by
  induction h with
  | nil => exact Or.inl rfl
  | @cons key e ids frames hfirst hrest ih =>
    obtain ⟨fault, rfl⟩ := hfirst
    rw [List.nodup_cons] at hids
    have hlater := ih hids.2
    rw [List.map_cons, requestsOn_request]
    split
    · rename_i hthis
      obtain ⟨-, hs, rfl⟩ := hthis
      rcases hlater with hnone | ⟨-, -, hmem⟩
      · exact Or.inr ⟨by rw [hnone]; rfl, hs, List.mem_cons_self⟩
      · exact absurd hmem hids.1
    · rcases hlater with hnone | ⟨hone, hs, hmem⟩
      · exact Or.inl hnone
      · exact Or.inr ⟨hone, hs, List.mem_cons_of_mem _ hmem⟩

/-- Who takes leave releases an entity once at most, and only if it is active. -/
theorem Farewell.requestsOn {frames : List Effect} (h : c.Farewell frames)
    (hasc : c.registry.Ascending) (socket : SocketNumber) (id : String) :
    requestsOn socket id (frames.map .message) = [] ∨
      (requestsOn socket id (frames.map .message) = [.unsubscribe] ∧ c.socket = some socket ∧
        c.registry.status? id = some .active) := by
  cases h with
  | silent => exact Or.inl rfl
  | held hs hreleases =>
    rcases hreleases.requestsOn (hasc.nodup_filter _) socket id with hnone | ⟨hone, rfl, hmem⟩
    · exact Or.inl hnone
    · obtain ⟨e, hg, ha⟩ := (Registry.mem_activeEntities hasc).1 hmem
      exact Or.inr ⟨hone, hs, by rw [Registry.status?_of_get? hg, ha]⟩

/-- Of entities that are asked for once each, a given one is asked for once at most. -/
theorem requestsOn_written (c : Connection) (s : SocketNumber) {ids : List String}
    (hids : ids.Nodup) :
    requestsOn socket id (ids.map fun key => .message (c.requestFrame s .subscribe key none)) =
      if s = socket ∧ id ∈ ids then [.subscribe] else [] := by
  induction ids with
  | nil => simp [LiveSync.requestsOn]
  | cons key rest ih =>
    rw [List.nodup_cons] at hids
    rw [List.map_cons, requestsOn_request, ih hids.2]
    by_cases hkey : key = id
    · subst hkey
      by_cases hs : s = socket <;> simp [hs, hids.1]
    · simp [hkey, Ne.symm hkey]

/-- While subscriptions are asked for, the entity is asked for once at most; if the connection
stays, exactly those are asked for. -/
theorem Asking.requestsOn {s : SocketNumber} {ids : List String} {deeds : List Deed}
    (h : c.Asking s ids c' deeds) (hids : ids.Nodup) (socket : SocketNumber) (id : String) :
    (c' = c ∧ requestsOn socket id deeds = if s = socket ∧ id ∈ ids then [.subscribe] else []) ∨
      (c'.socket = none ∧ (requestsOn socket id deeds = [] ∨
        (requestsOn socket id deeds = [.subscribe] ∧ s = socket))) := by
  cases h with
  | all => exact Or.inl ⟨rfl, requestsOn_written c s hids⟩
  | part written key unasked fault rest hretreat =>
    refine Or.inr ⟨hretreat.socket, ?_⟩
    rw [requestsOn_append, requestsOn_written c s (List.nodup_append.1 hids).1,
      requestsOn_request, hretreat.requestsOn]
    by_cases hasked : s = socket ∧ id ∈ written
    · exact Or.inr ⟨by simp [hasked], hasked.1⟩
    · exact Or.inl (by simp [hasked])

end

/-! ## One step on the socket -/

/-- Does the connection give up the entry of an entity, because it was not acknowledged in time or
because the server refuses it? -/
def lapses (c : Connection) (m : Moment) (id : String) : Input → Bool
  | .acknowledgementDue => (c.registry.get? id).any (·.isOverdue m.now)
  | i => c.refused? i = some id && c.registry.status? id = some .pending

/-- The mark that a drop leaves. -/
def lapse (c : Connection) (m : Moment) (id : String) (i : Input) : List Mark :=
  if c.lapses m id i then [.dropped] else []

/-- The history is orderly, and while the socket is held it says how the entry stands. -/
def Continues (c : Connection) (socket : SocketNumber) (id : String) (marks : List Mark) : Prop :=
  Orderly marks ∧ (c.socket = some socket → Tells marks (c.registry.status? id))

theorem Continues.of_course {c : Connection} {socket : SocketNumber} {id : String}
    {marks : List Mark} (h : Course marks (c.registry.status? id)) : c.Continues socket id marks :=
  ⟨h.orderly, fun _ => h.tells⟩

theorem Continues.of_gone {c : Connection} {socket : SocketNumber} {id : String}
    {marks : List Mark} (h : Orderly marks) (hs : c.socket = none) :
    c.Continues socket id marks :=
  ⟨h, fun hsocket => absurd (hs.symm.trans hsocket) nofun⟩

section

variable {r : Registry} {m : Moment} {i : Input} {x : Registry.Change} {operation : Operation}
  {id key : String} (h : r.Ascending)
include h

/-- A call for another entity. -/
theorem status?_call_of_ne {connected : Bool} (hcall : m.Calls connected i x operation key)
    (hne : key ≠ id) : (r.apply x).2.status? id = r.status? id := by
  cases hcall with
  | subscribe => exact Registry.status?_apply_of_ne h rfl hne
  | unsubscribe => exact Registry.status?_apply_of_ne h rfl hne

/-- A call carries the history of its entity on: by its request, if it asks for one. -/
theorem course_call (hsent : r.All (·.sent = true)) (hcall : m.Calls true i x operation id)
    {marks : List Mark} (hcourse : Course marks (r.status? id)) :
    Course (marks ++ if r.asks x then [.wrote operation] else []) ((r.apply x).2.status? id) := by
  cases hcall with
  | subscribe _ ticket =>
    show Course (marks ++ if (r.subscribe id ticket m.now true).1 then [.wrote .subscribe] else [])
      ((r.subscribe id ticket m.now true).2.2.status? id)
    rcases Registry.status?_subscribe r id ticket m.now true with
      ⟨hasks, hs, -⟩ | ⟨hasks, hs, hbefore⟩
    · rw [hasks, hs]
      simpa using hcourse
    · rw [hasks, hs]
      exact hcourse.subscribed hbefore
  | unsubscribe _ ticket =>
    show Course (marks ++ if (r.unsubscribe id ticket m.now true).1 then [.wrote .unsubscribe]
      else []) ((r.unsubscribe id ticket m.now true).2.2.status? id)
    rcases Registry.status?_unsubscribe h hsent id ticket m.now with
      ⟨hasks, hs, -⟩ | ⟨hasks, hs, hbefore⟩
    · rw [hasks, hs]
      simpa using hcourse
    · rw [hasks]
      exact hcourse.unsubscribed hbefore hs

end

section

variable {c c' : Connection} {m : Moment} {i : Input} {socket : SocketNumber} {id : String}
  {marks : List Mark}

/-- A mark of a drop does not hurt. -/
theorem course_lapse (hcourse : Course marks (c.registry.status? id)) :
    Course (marks ++ c.lapse m id i) (c.registry.status? id) := by
  unfold lapse
  split
  · exact hcourse.dropped
  · simpa using hcourse

/-- What the server rules carries the history on; what it refuses leaves a mark. -/
theorem course_ruled (h : c.registry.Ascending) {x : Registry.Change} (hrules : c.Rules i x)
    (hcourse : Course marks (c.registry.status? id)) :
    Course (marks ++ c.lapse m id i) ((c.registry.apply x).2.status? id) := by
  have hlapse : Course (marks ++ c.lapse m id i) (c.registry.status? id) := course_lapse hcourse
  cases hrules with
  | acknowledge key watchers =>
    rcases Registry.status?_acknowledge c.registry key id watchers with
      hs | ⟨hbefore, hs⟩
    · exact hs ▸ hlapse
    · rw [hbefore] at hlapse
      exact hs ▸ hlapse.acknowledged
  | reject key why hrefused =>
    rcases Registry.status?_reject h key id why with hs | ⟨rfl, hbefore, hs⟩
    · exact hs ▸ hlapse
    · have hmark : c.lapse m key i = [.dropped] := by
        cases i with
        | received item => simp [lapse, lapses, hrefused, hbefore]
        | _ => exact absurd hrefused nofun
      rw [hmark]
      exact hs ▸ hcourse.lapsed
  | release key =>
    rcases Registry.status?_release h key id with hs | ⟨hbefore, hs⟩
    · exact hs ▸ hlapse
    · exact hs ▸ hlapse.freed (Or.inr hbefore)
  | setWatchers key watchers =>
    have hs : (c.registry.setWatchers key watchers).2.status? id = c.registry.status? id :=
      Registry.status?_setWatchers watchers
    exact hs ▸ hlapse

/-- What is overdue leaves a mark. -/
theorem course_expired (h : c.registry.Ascending)
    (hcourse : Course marks (c.registry.status? id)) :
    Course (marks ++ c.lapse m id .acknowledgementDue)
      ((c.registry.expire m.now).2.2.status? id) := by
  rcases Registry.status?_expire h id m.now with hs | ⟨⟨e, hg, hd⟩, hs⟩
  · exact hs ▸ course_lapse hcourse
  · have hmark : c.lapse m id .acknowledgementDue = [.dropped] := by
      simp [lapse, lapses, hg, hd]
    rw [hmark]
    exact hs ▸ hcourse.lapsed

/-- Taking leave keeps a history orderly. -/
theorem orderly_farewell (h : c.registry.Ascending) {frames : List Effect}
    (hfarewell : c.Farewell frames) (hcourse : Course marks (c.registry.status? id)) :
    Orderly (marks ++ (requestsOn socket id (frames.map .message)).map .wrote) := by
  rcases hfarewell.requestsOn h socket id with hnone | ⟨hone, -, hactive⟩
  · simpa [hnone] using hcourse.orderly
  · rw [hone]
    exact (hcourse.unsubscribed (Or.inr hactive) (Or.inl rfl)).orderly

/-- **A reaction on the socket carries the history on.**  What a caller sends is left out. -/
theorem course_reaction (h : c.Ready) (hs : c.socket = some socket) {deeds : List Deed}
    (hr : c.Reaction m i c' deeds) (hregistry : c'.registry = (c.registry.perform deeds).2)
    (hcourse : Course marks (c.registry.status? id)) :
    c'.Continues socket id (marks ++ (c.lapse m id i ++
      (if i.isEmit then [] else requestsOn socket id deeds).map .wrote)) := by
  have hc : c.state = .connected := h.socket.1 (by rw [hs]; rfl)
  have hsent : c.registry.All (·.sent = true) := fun p hp => (h.carried hc p hp).sent
  have hlapse : Course (marks ++ c.lapse m id i) (c.registry.status? id) := course_lapse hcourse
  -- where nothing is asked for, only the registry matters
  have hsilent : (if i.isEmit then [] else requestsOn socket id deeds) = [] →
      (c'.socket = none ∨ Course (marks ++ c.lapse m id i) (c'.registry.status? id)) →
      c'.Continues socket id (marks ++ (c.lapse m id i ++
        (if i.isEmit then [] else requestsOn socket id deeds).map .wrote)) := by
    intro hnone hend
    rw [hnone, List.map_nil, List.append_nil]
    exact hend.elim (.of_gone hlapse.orderly) .of_course
  rw [← List.append_assoc] at hsilent ⊢
  cases hr with
  | quiet hcaller hframes hend =>
    refine hsilent ?_ ?_
    · rw [requestsOn_append, requestsOn_chatter hframes, hend.requestsOn]
      exact ite_self _
    · cases hend with
      | stays =>
        rw [List.append_nil, Registry.perform_messages] at hregistry
        exact Or.inr (hregistry ▸ hlapse)
      | retreat hretreat => exact Or.inl hretreat.socket
  | told hcaller hstays => exact hsilent (ite_self _) (Or.inr (hregistry ▸ hlapse))
  | emitted hcaller hs hend =>
    refine hsilent rfl ?_
    cases hend with
    | stays => exact Or.inr (hregistry ▸ hlapse)
    | retreat hretreat => exact Or.inl hretreat.socket
  | queued hcall hcaller hnone hstays hrest =>
    exact absurd (hs.symm.trans hnone) (Option.some_ne_none _)
  | @called _ _ x operation key _ hcall hcaller hs hasks hstays =>
    refine hsilent (ite_self _) (Or.inr ?_)
    rw [hregistry]
    by_cases hkey : key = id
    · subst hkey
      simpa [hasks, Registry.perform] using course_call h.ascending hsent hcall hlapse
    · exact (status?_call_of_ne h.ascending hcall hkey) ▸ hlapse
  | @asked _ _ x operation key s fault rest hcall hcaller hs' hasks hrest =>
    obtain rfl : s = socket := Option.some.inj (hs'.symm.trans hs)
    have hrequests : (if i.isEmit then [] else requestsOn s id
        (.change x :: .message (c.requestFrame s operation key fault) :: rest)) =
        if fault = none ∧ key = id then [operation] else [] := by
      have hemit : i.isEmit = false := by cases hcall <;> rfl
      rw [hemit, requestsOn_change, requestsOn_request, hrest.requestsOn]
      simp
    cases hrest with
    | lost f hretreat => exact hsilent (by simpa using hrequests) (Or.inl hretreat.socket)
    | written hstays =>
      refine .of_course ?_
      rw [hrequests, hregistry]
      by_cases hkey : key = id
      · subst hkey
        simpa [hasks, Registry.perform] using course_call h.ascending hsent hcall hlapse
      · simpa [hkey] using (status?_call_of_ne h.ascending hcall hkey) ▸ hlapse
  | ruled hrules hcaller hc hstays =>
    exact hsilent (ite_self _) (Or.inr (hregistry ▸ course_ruled h.ascending hrules hcourse))
  | expired hc hstays =>
    exact hsilent rfl (Or.inr (hregistry ▸ course_expired h.ascending hcourse))
  | left hcaller hfarewell hretreat =>
    refine .of_gone ?_ hretreat.socket
    rw [requestsOn_append, hretreat.requestsOn, List.append_nil]
    exact orderly_farewell h.ascending hfarewell hlapse
  | stopped hcaller hrunning hstopped hfarewell hsocket hattempt =>
    refine .of_gone ?_ hsocket
    split
    · simpa using hlapse.orderly
    · have hcleared : requestsOn socket id [.change (.clear .cancelled)] = [] := rfl
      rw [requestsOn_append, hcleared, List.append_nil]
      exact orderly_farewell h.ascending hfarewell hlapse
  | established hattempt hjudge hasking =>
    exact absurd hc (h.ne_connected hattempt)

/-! ## Other steps -/

/-- A completed handshake begins a history: it asks for what is queued. -/
theorem continues_established (h : c.Ready) (hc : c.state ≠ .connected) {socketId : Option String}
    {asking : List Deed} (hasking : (c.established socket socketId m.now).Asking socket
      (c.registry.reissue m.now).1 c' asking) :
    c'.Continues socket id ((requestsOn socket id asking).map .wrote) := by
  have hqueued := h.queued hc
  rw [Registry.reissue_queued hqueued] at hasking
  have hstart : Course [.wrote .subscribe] (some .pending) := course_nil.subscribed (Or.inl rfl)
  rcases hasking.requestsOn h.ascending.nodup socket id with
    ⟨rfl, hrequests⟩ | ⟨hgone, hrequests⟩
  · refine .of_course ?_
    rw [hrequests, registry_established, Registry.status?_reissue]
    rcases Registry.status?_queued hqueued id with ⟨hmem, hs⟩ | ⟨hmem, hs⟩
    · rw [if_pos ⟨rfl, hmem⟩, hs]
      exact hstart
    · rw [if_neg fun hin => hmem hin.2, hs]
      exact course_nil
  · refine .of_gone ?_ hgone
    rcases hrequests with hnone | ⟨hone, -⟩
    · rw [hnone]
      exact orderly_nil
    · rw [hone]
      exact hstart.orderly

/-- A connection that does not hold the socket neither comes to hold it nor writes a request on it,
unless the handshake on it is complete; then a history begins. -/
theorem elsewhere_reaction (h : c.Ready) (hs : c.socket ≠ some socket) {deeds : List Deed}
    (hr : c.Reaction m i c' deeds) (id : String) :
    (c'.socket ≠ some socket ∧ (i.isEmit = false → requestsOn socket id deeds = [])) ∨
    ((∃ deadline, c.attempt = some (.handshaking socket deadline)) ∧ c'.attempt = none ∧
      i.isEmit = false ∧ c'.Continues socket id ((requestsOn socket id deeds).map .wrote)) := by
  have hnone : ∀ {c' : Connection}, c'.socket = none → c'.socket ≠ some socket :=
    fun hgone hsocket => absurd (hgone.symm.trans hsocket) nofun
  have hstay : c.Stays i c' → c'.socket ≠ some socket := fun hstays => hstays.socket ▸ hs
  have hend : ∀ {rest}, c.Ending i c' rest → c'.socket ≠ some socket := fun hend =>
    match hend with
    | .stays hstays => hstay hstays
    | .retreat hretreat => hnone hretreat.socket
  have hfarewell : ∀ {frames}, c.Farewell frames →
      requestsOn socket id (frames.map .message) = [] := by
    intro frames hfarewell
    rcases hfarewell.requestsOn h.ascending socket id with hnone | ⟨-, hs', -⟩
    · exact hnone
    · exact absurd hs' hs
  cases hr with
  | quiet hcaller hframes hending =>
    refine Or.inl ⟨hend hending, fun _ => ?_⟩
    rw [requestsOn_append, requestsOn_chatter hframes, hending.requestsOn]
    rfl
  | told hcaller hstays => exact Or.inl ⟨hstay hstays, fun _ => rfl⟩
  | emitted hcaller hs hending => exact Or.inl ⟨hend hending, fun hi => absurd hi nofun⟩
  | queued hcall hcaller hs hstays hrest => exact Or.inl ⟨hstay hstays, fun _ => rfl⟩
  | called hcall hcaller hs hasks hstays => exact Or.inl ⟨hstay hstays, fun _ => rfl⟩
  | asked hcall hcaller hs' hasks hsent =>
    refine Or.inl ⟨?_, fun _ => ?_⟩
    · cases hsent with
      | written hstays => exact hstay hstays
      | lost fault hretreat => exact hnone hretreat.socket
    · have hother : ∀ {s}, c.socket = some s → s ≠ socket := by
        rintro s hs' rfl
        exact hs hs'
      rw [requestsOn_change, requestsOn_request, hsent.requestsOn]
      simp [hother hs']
  | ruled hrules hcaller hc hstays => exact Or.inl ⟨hstay hstays, fun _ => rfl⟩
  | expired hc hstays => exact Or.inl ⟨hstay hstays, fun _ => rfl⟩
  | left hcaller hf hretreat =>
    refine Or.inl ⟨hnone hretreat.socket, fun _ => ?_⟩
    rw [requestsOn_append, hfarewell hf, hretreat.requestsOn]
    rfl
  | stopped hcaller hrunning hstopped hf hsocket hattempt =>
    refine Or.inl ⟨hnone hsocket, fun _ => ?_⟩
    rw [requestsOn_append, hfarewell hf]
    rfl
  | @established _ _ s deadline _ asking hattempt hjudge hasking =>
    have hc := h.ne_connected hattempt
    have hresult : c'.socket = some s ∧ c'.attempt = none ∨
        c'.socket = none ∧ c'.attempt = none := by
      generalize (c.registry.reissue m.now).1 = ids at hasking
      cases hasking with
      | all => exact Or.inl ⟨by simp, by simp⟩
      | part _ _ _ _ _ hretreat => exact Or.inr ⟨hretreat.socket, hretreat.attempt⟩
    by_cases hsocket : s = socket
    · subst hsocket
      refine Or.inr ⟨⟨deadline, hattempt⟩, hresult.elim And.right And.right, rfl, ?_⟩
      rw [requestsOn_change]
      exact continues_established h hc hasking
    · refine Or.inl ⟨?_, fun _ => ?_⟩
      · rcases hresult with ⟨hs', -⟩ | ⟨hs', -⟩
        · rw [hs']
          exact fun heq => hsocket (Option.some.inj heq)
        · exact hnone hs'
      · rw [requestsOn_change]
        rcases hasking.requestsOn (h.ascending.nodup_filter _) socket id with
          ⟨-, hrequests⟩ | ⟨-, hrequests | ⟨-, hs'⟩⟩
        · rw [hrequests, if_neg fun hin => hsocket hin.1]
        · exact hrequests
        · exact absurd hs' hsocket

/-- Whoever waits for a handshake did so before, or the socket was opened just now. -/
theorem attempt_reaction {deeds : List Deed} (hr : c.Reaction m i c' deeds) {deadline : Nat}
    (ha : c'.attempt = some (.handshaking socket deadline)) :
    c.attempt = some (.handshaking socket deadline) ∨ i = .opened (.ok socket) := by
  have hretreat : ∀ {rest}, ¬Retreat c' rest := fun hretreat =>
    absurd (hretreat.attempt.symm.trans ha) nofun
  cases hr with
  | quiet _ _ hend =>
    cases hend with
    | stays hstays => exact hstays.handshake _ _ ha
    | retreat h => exact absurd h hretreat
  | told _ hstays => exact hstays.handshake _ _ ha
  | emitted _ _ hend =>
    cases hend with
    | stays hstays => exact hstays.handshake _ _ ha
    | retreat h => exact absurd h hretreat
  | queued _ _ _ hstays => exact hstays.handshake _ _ ha
  | called _ _ _ _ hstays => exact hstays.handshake _ _ ha
  | asked _ _ _ _ hsent =>
    cases hsent with
    | written hstays => exact hstays.handshake _ _ ha
    | lost _ h => exact absurd h hretreat
  | ruled _ _ _ hstays => exact hstays.handshake _ _ ha
  | expired _ hstays => exact hstays.handshake _ _ ha
  | left _ _ h => exact absurd h hretreat
  | stopped _ _ _ _ _ hattempt => exact absurd (hattempt.symm.trans ha) nofun
  | established _ _ hasking =>
    generalize (c.registry.reissue m.now).1 = ids at hasking
    cases hasking with
    | all => exact absurd ha (by simp)
    | part _ _ _ _ _ h => exact absurd h hretreat

theorem attempt_step (h : c.Ready) {deadline : Nat}
    (ha : (c.step m i).1.attempt = some (.handshaking socket deadline)) :
    c.attempt = some (.handshaking socket deadline) ∨ i = .opened (.ok socket) := by
  obtain ⟨deeds, hr, -⟩ := reaction_step h m i
  exact attempt_reaction hr ha

end

/-! ## Runs -/

/-- The marks of one step: a drop on the socket, and the requests, unless a caller sends what it
likes. -/
def marksOf (c : Connection) (m : Moment) (i : Input) (socket : SocketNumber) (id : String) :
    List Mark :=
  (if c.socket = some socket then c.lapse m id i else []) ++
    (if i.isEmit then []
      else (c.step m i).2.filterMap (Effect.requestOn? socket id)).map .wrote

/-- The history of one entity on one socket, along a run. -/
def marks (c : Connection) (socket : SocketNumber) (id : String) :
    List (Moment × Input) → List Mark
  | [] => []
  | (m, i) :: rest => c.marksOf m i socket id ++ (c.step m i).1.marks socket id rest

/-- A history, and how far the socket has come. -/
structure History (c : Connection) (opened : List SocketNumber) (socket : SocketNumber)
    (id : String) (marks : List Mark) : Prop where
  /-- It is orderly, and while the socket is held it says how the entry stands. -/
  continues : c.Continues socket id marks
  /-- It is empty before the handshake is complete. -/
  fresh : socket ∉ opened ∨ (∃ deadline, c.attempt = some (.handshaking socket deadline)) →
    marks = []
  /-- Only a socket that was opened is held. -/
  held : c.socket = some socket ∨ (∃ deadline, c.attempt = some (.handshaking socket deadline)) →
    socket ∈ opened

theorem history_new (config : Config) (socket : SocketNumber) (id : String) :
    History (Connection.new config) [] socket id [] where
  continues := ⟨orderly_nil, nofun⟩
  fresh := fun _ => rfl
  held := fun h => by rcases h with h | ⟨_, h⟩ <;> exact absurd h nofun

/-- **A step carries the history on**, if the socket that it opens is a new one. -/
theorem history_step {c : Connection} (h : c.Ready) {opened : List SocketNumber}
    {socket : SocketNumber} {id : String} {marks : List Mark}
    (hist : History c opened socket id marks) (m : Moment) {i : Input}
    (hnew : ∀ s, i.opened? = some s → s ∉ opened) :
    History (c.step m i).1 (opened ++ i.opened?.toList) socket id
      (marks ++ c.marksOf m i socket id) := by
  obtain ⟨deeds, hr, hregistry, hmessages⟩ := reaction_step h m i
  have hrequests : (c.step m i).2.filterMap (Effect.requestOn? socket id) =
      requestsOn socket id deeds := by
    rw [← requestsOn_perform c.registry deeds, ← hmessages, requestsOn_messages]
  have hmarks : c.marksOf m i socket id = (if c.socket = some socket then c.lapse m id i else []) ++
      (if i.isEmit then [] else requestsOn socket id deeds).map .wrote := by
    rw [marksOf, hrequests]
  have hattempt : ∀ deadline, (c.step m i).1.attempt = some (.handshaking socket deadline) →
      c.attempt = some (.handshaking socket deadline) ∨ i = .opened (.ok socket) :=
    fun _ ha => attempt_step h ha
  have hopened : i = .opened (.ok socket) → socket ∉ opened :=
    fun hi => hnew socket (by rw [hi]; rfl)
  rw [hmarks]
  by_cases hs : c.socket = some socket
  · have hin : socket ∈ opened := hist.held (Or.inl hs)
    have hc : c.state = .connected := h.socket.1 (by rw [hs]; rfl)
    have hcourse : Course marks (c.registry.status? id) :=
      ⟨hist.continues.1, hist.continues.2 hs⟩
    constructor
    case continues =>
      rw [if_pos hs]
      exact course_reaction h hs hr hregistry hcourse
    case fresh =>
      rintro (hout | ⟨deadline, ha⟩)
      · exact absurd (List.mem_append_left _ hin) hout
      · rcases hattempt deadline ha with ha | hi
        · exact absurd hc (h.ne_connected ha)
        · exact absurd hin (hopened hi)
    case held => exact fun _ => List.mem_append_left _ hin
  · rw [if_neg hs, List.nil_append]
    rcases elsewhere_reaction h hs hr id with
      ⟨hs', hsilent⟩ | ⟨⟨deadline, ha⟩, hnone, hi, hcontinues⟩
    · have hsame : marks ++ (if i.isEmit then [] else requestsOn socket id deeds).map .wrote =
          marks := by
        cases hi : i.isEmit with
        | true => simp
        | false => simp [hsilent hi]
      rw [hsame]
      constructor
      case continues => exact ⟨hist.continues.1, fun hsocket => absurd hsocket hs'⟩
      case fresh =>
        rintro (hout | ⟨deadline, ha⟩)
        · exact hist.fresh (Or.inl fun hin => hout (List.mem_append_left _ hin))
        · rcases hattempt deadline ha with ha | hi
          · exact hist.fresh (Or.inr ⟨deadline, ha⟩)
          · exact hist.fresh (Or.inl (hopened hi))
      case held =>
        rintro (hsocket | ⟨deadline, ha⟩)
        · exact absurd hsocket hs'
        · rcases hattempt deadline ha with ha | rfl
          · exact List.mem_append_left _ (hist.held (Or.inr ⟨deadline, ha⟩))
          · exact List.mem_append_right _ List.mem_cons_self
    · have hin : socket ∈ opened := hist.held (Or.inr ⟨deadline, ha⟩)
      rw [hist.fresh (Or.inr ⟨deadline, ha⟩), List.nil_append, hi, if_neg (by decide)]
      constructor
      case continues => exact hcontinues
      case fresh =>
        rintro (hout | ⟨_, ha⟩)
        · exact absurd (List.mem_append_left _ hin) hout
        · exact absurd (hnone.symm.trans ha) nofun
      case held => exact fun _ => List.mem_append_left _ hin

/-- The sockets that the transport opens along a run. -/
def openedSockets (inputs : List (Moment × Input)) : List SocketNumber :=
  inputs.filterMap fun x => x.2.opened?

theorem openedSockets_cons (m : Moment) (i : Input) (rest : List (Moment × Input)) :
    openedSockets ((m, i) :: rest) = i.opened?.toList ++ openedSockets rest := by
  cases hi : i.opened? <;> simp [openedSockets, hi]

/-- **A run carries the history on**, if it opens a new socket every time. -/
theorem history_run {c : Connection} (h : c.Ready) {opened : List SocketNumber}
    {socket : SocketNumber} {id : String} {marks : List Mark}
    (hist : History c opened socket id marks) {inputs : List (Moment × Input)}
    (hnew : (opened ++ openedSockets inputs).Nodup) :
    History (c.run inputs).1 (opened ++ openedSockets inputs) socket id
      (marks ++ c.marks socket id inputs) := by
  induction inputs generalizing c opened marks with
  | nil => simpa [openedSockets, Connection.marks, run] using hist
  | cons first rest ih =>
    obtain ⟨m, i⟩ := first
    rw [openedSockets_cons, ← List.append_assoc] at hnew ⊢
    have hfirst : ∀ s, i.opened? = some s → s ∉ opened := by
      intro s hi hin
      rw [hi, List.append_assoc] at hnew
      exact (List.nodup_append.1 hnew).2.2 s hin s (by simp) rfl
    have hstep := history_step h hist m hfirst
    have hrest := ih (ready_step h m i) hstep hnew
    rw [List.append_assoc marks] at hrest
    exact hrest

/-- **Requests are orderly.**  Take any run that opens a new socket every time, and the requests
about one entity on one socket, without what callers send on their own.  The first one asks for the
subscription.  A release is asked for only if the last request before it asked for the
subscription.  Between two requests for the subscription, with no other in between, the entry was
dropped because the server refused it or did not acknowledge it in time.  And while the socket is
held, the last request tells how the entry stands: an entity that is wanted was asked for, and one
that is being released was asked to be released. -/
theorem requests_orderly (config : Config) (inputs : List (Moment × Input))
    (socket : SocketNumber) (id : String) (hnew : (openedSockets inputs).Nodup) :
    let marks := (Connection.new config).marks socket id inputs
    let c := ((Connection.new config).run inputs).1
    (∀ operation, (requestsIn marks).head? = some operation → operation = .subscribe) ∧
    (∀ before after, marks = before ++ .wrote .unsubscribe :: after →
      (requestsIn before).getLast? = some .subscribe) ∧
    (∀ before between after,
      marks = before ++ .wrote .subscribe :: (between ++ .wrote .subscribe :: after) →
      requestsIn between = [] → .dropped ∈ between) ∧
    (c.socket = some socket →
      (c.registry.IsWanted id → (requestsIn marks).getLast? = some .subscribe) ∧
      (c.registry.status? id = some .releasing →
        (requestsIn marks).getLast? = some .unsubscribe)) := by
  have hfresh : ([] ++ openedSockets inputs).Nodup := hnew
  have hist := history_run (ready_new config) (history_new config socket id) hfresh
  obtain ⟨horderly, htells⟩ := hist.continues
  rw [List.nil_append] at horderly htells
  refine ⟨fun _ => horderly.first, fun before after heq => horderly before .unsubscribe after heq,
    fun before between after heq => (heq ▸ horderly).again, fun hs => ⟨fun hw => ?_, fun hr => ?_⟩⟩
  · have := htells hs
    rcases hw with hw | hw <;> rwa [hw] at this
  · have := htells hs
    rwa [hr] at this

/-- Somebody subscribes, gives it up and subscribes again; then the peer closes the socket, and the
subscription is asked for on the next one. -/
theorem requests_orderly_reconnected :
    let config : Config := ⟨"ws://localhost/ws", {}, {}⟩
    let m : Moment :=
      { now := 0, seconds := 0, token := some "token", sendFault := fun _ => none, draw := 0.0 }
    let dials : List Input := [.attempt, .dial]
    let first : List Input := [.opened (.ok 0), .received (.ok (.text "[\"connect\"]")),
      .command (.subscribe "A" 0), .command (.unsubscribe "A" 1), .command (.subscribe "A" 2),
      .received (.ok (.closed { message := "gone" })), .retryDue]
    let second : List Input := [.opened (.ok 1), .received (.ok (.text "[\"connect\"]"))]
    let inputs := (Input.command .connect :: dials ++ first ++ dials ++ second).map (m, ·)
    let c := ((Connection.new config).run inputs).1
    (openedSockets inputs).Nodup ∧
    (Connection.new config).marks 0 "A" inputs =
      [.wrote .subscribe, .wrote .unsubscribe, .wrote .subscribe] ∧
    (Connection.new config).marks 1 "A" inputs = [.wrote .subscribe] ∧
    c.socket = some 1 ∧ c.registry.IsWanted "A" ∧
    (requestsIn ((Connection.new config).marks 1 "A" inputs)).getLast? = some .subscribe := by
  intro config m dials first second inputs c
  have hnew : (openedSockets inputs).Nodup := by decide +kernel
  have hsocket : c.socket = some 1 := by decide +kernel
  have hwanted : c.registry.IsWanted "A" := Or.inl (by decide +kernel)
  exact ⟨hnew, by decide +kernel, by decide +kernel, hsocket, hwanted,
    ((requests_orderly config inputs 1 "A" hnew).2.2.2 hsocket).1 hwanted⟩

end Connection
end LiveSync
