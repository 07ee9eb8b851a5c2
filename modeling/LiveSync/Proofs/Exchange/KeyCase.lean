import LiveSync.Proofs.Connection.Answers
import LiveSync.Proofs.Connection.Strides
import LiveSync.Proofs.Json.Fields
import LiveSync.Proofs.Registry.Statuses

/-!
# The subscription protocol in every key case

A request names its entity under a key in the case of the wire, and the payload of an answer is
re-cased before it is read.  The reader looks for one spelling only.  An answer that echoes the key
of the request is understood exactly where re-casing leads to that spelling: in camel case inside,
or if the field is excluded from re-casing.

* `entityKey`, `innerKey` — the key on the wire, and what it is re-cased to.
* `get?_inbound_echo` — the payload of the answer as it is read.
* `onSubscribeAck_echo` — what the connection makes of it.
* `echo_acknowledged_iff` — in every reachable state, for every configuration.
-/

namespace LiveSync

open LiveSync.Json

namespace Payload

namespace Normalizer

variable (n : Normalizer)

/-- The key under which a request names its entity. -/
def entityKey : String :=
  if n.isExcluded "entityId" then "entityId" else n.wire.apply "entityId"

/-- The key under which an answer names its entity once it is re-cased. -/
def innerKey : String :=
  if n.isExcluded "entityId" then "entityId" else n.internal.apply "entityId"

/-- The watchers of an answer once they are re-cased. -/
def innerWatchers (watchers : List Value) : List Value :=
  if n.isExcluded "watchers" then watchers else n.transformItems n.internal watchers

/-- The watchers that an answer tells of. -/
def watchersTold (watchers : Option (List Value)) : List Value :=
  (watchers.map n.innerWatchers).getD []

/-- Is the key read under which an answer names its entity? -/
def ReadsEntity : Prop :=
  n.internal = .camel ∨ n.isExcluded "entityId" = true

theorem innerKey_eq_iff : n.innerKey = "entityId" ↔ n.ReadsEntity := by
  have hsnake : KeyCase.snake.apply "entityId" ≠ "entityId" := by decide +kernel
  have hcamel : KeyCase.camel.apply "entityId" = "entityId" := by decide +kernel
  unfold innerKey ReadsEntity
  by_cases hx : n.isExcluded "entityId" = true
  · simp [hx]
  · cases hi : n.internal with
    | snake => simp [hx, hsnake]
    | camel => simp [hx, hcamel]

/-- The key of an answer is neither of the others that are read. -/
theorem innerKey_ne : n.innerKey ≠ "id" ∧ n.innerKey ≠ "error" ∧ n.innerKey ≠ "watchers" := by
  have happly : ∀ case : KeyCase, case.apply "entityId" ≠ "id" ∧
      case.apply "entityId" ≠ "error" ∧ case.apply "entityId" ≠ "watchers" := by
    intro case
    cases case <;> decide +kernel
  unfold innerKey
  split
  · decide
  · exact happly _

/-- Which exclusions concern the key. -/
theorem isExcluded_entityId_iff : n.isExcluded "entityId" = true ↔
    "entityId" ∈ n.excluded ∨ "entity_id" ∈ n.excluded := by
  have hnames : toSnake "entityId" = "entity_id" ∧ toCamel "entityId" = "entityId" := by
    decide +kernel
  unfold isExcluded
  rw [hnames.1, hnames.2]
  simp only [Bool.or_eq_true, List.contains_iff_mem]
  tauto

theorem isExcluded_apply (case : KeyCase) :
    n.isExcluded (case.apply "entityId") = n.isExcluded "entityId" := by
  have hcases : case.apply "entityId" = "entityId" ∨ case.apply "entityId" = "entity_id" := by
    cases case <;> decide +kernel
  have hnames : toSnake "entityId" = "entity_id" ∧ toCamel "entityId" = "entityId" ∧
      toSnake "entity_id" = "entity_id" ∧ toCamel "entity_id" = "entityId" := by
    decide +kernel
  obtain ⟨h1, h2, h3, h4⟩ := hnames
  rcases hcases with h | h
  · rw [h]
  · rw [h]
    unfold isExcluded
    rw [h1, h2, h3, h4]
    cases n.excluded.contains "entityId" <;> cases n.excluded.contains "entity_id" <;> rfl

theorem rename_apply (case case' : KeyCase) :
    rename case' (case.apply "entityId") = case'.apply "entityId" := by
  cases case <;> cases case' <;> decide +kernel

/-- A request has one field. -/
theorem outbound_ofEntity (id : String) :
    n.outbound (Payload.ofEntity id) = .object [(n.entityKey, .string id)] := by
  have hrename : rename n.wire "entityId" = n.wire.apply "entityId" := by
    cases n.wire <;> decide +kernel
  show Value.object (n.transformFields n.wire [("entityId", .string id)] []) = _
  unfold transformFields entityKey
  split
  · rfl
  · rw [hrename]
    rfl

end Normalizer

/-- The payload of an answer that names its entity under a key, and may carry watchers. -/
def echo (key id : String) (watchers : Option (List Value)) : Value :=
  .object ((key, .string id) :: (watchers.map fun ws => ("watchers", .array ws)).toList)

namespace Normalizer

variable (n : Normalizer)

/-- The field that names the entity, once it is re-cased. -/
theorem transformFields_entityKey (id : String) (rest : List (String × Value)) (done : Fields) :
    n.transformFields n.internal ((n.entityKey, .string id) :: rest) done =
      n.transformFields n.internal rest (done.insert n.innerKey (.string id)) := by
  by_cases hx : n.isExcluded "entityId" = true
  · have hkey : n.entityKey = "entityId" := if_pos hx
    have hinner : n.innerKey = "entityId" := if_pos hx
    rw [hkey, hinner, transformFields, if_pos hx]
  · have hkey : n.entityKey = n.wire.apply "entityId" := if_neg hx
    have hinner : n.innerKey = n.internal.apply "entityId" := if_neg hx
    have hnot : ¬n.isExcluded (n.wire.apply "entityId") = true := by rwa [isExcluded_apply]
    rw [hkey, hinner, transformFields, if_neg hnot, rename_apply, transform]

/-- The field with the watchers, once it is re-cased. -/
theorem transformFields_watchers (watchers : List Value) (done : Fields) :
    n.transformFields n.internal [("watchers", .array watchers)] done =
      done.insert "watchers" (.array (n.innerWatchers watchers)) := by
  have hrename : rename n.internal "watchers" = "watchers" := by
    cases n.internal <;> decide +kernel
  unfold transformFields innerWatchers
  split
  · rw [transformFields]
  · rw [hrename, transformFields, transform]

/-- The answer as it is read. -/
theorem get?_inbound_echo (id : String) (watchers : Option (List Value)) (name : String) :
    (n.inbound (echo n.entityKey id watchers)).get? name =
      if "watchers" = name then watchers.map fun ws => .array (n.innerWatchers ws)
      else if n.innerKey = name then some (.string id) else none := by
  cases watchers with
  | none =>
    show Fields.get? (n.transformFields n.internal [(n.entityKey, .string id)] []) name = _
    rw [transformFields_entityKey, transformFields, Fields.get?_insert]
    by_cases hw : "watchers" = name
    · have hne : n.innerKey ≠ name := hw ▸ n.innerKey_ne.2.2
      rw [if_neg hne, if_pos hw]
      rfl
    · rw [if_neg hw]
      rfl
  | some ws =>
    show Fields.get? (n.transformFields n.internal
      [(n.entityKey, .string id), ("watchers", .array ws)] []) name = _
    rw [transformFields_entityKey, transformFields_watchers, Fields.get?_insert,
      Fields.get?_insert]
    rfl

theorem entityId?_inbound_echo (id : String) (watchers : Option (List Value)) :
    Payload.entityId? (n.inbound (echo n.entityKey id watchers)) =
      if n.innerKey = "entityId" then nonEmpty? id else none := by
  have hentity : (n.inbound (echo n.entityKey id watchers)).get? "entityId" =
      if n.innerKey = "entityId" then some (.string id) else none := by
    rw [get?_inbound_echo, if_neg (by decide)]
  have hother : (n.inbound (echo n.entityKey id watchers)).get? "id" = none := by
    rw [get?_inbound_echo, if_neg (by decide), if_neg n.innerKey_ne.1]
  unfold Payload.entityId?
  rw [hentity, hother]
  split <;> rfl

theorem watchers?_inbound_echo (id : String) (watchers : Option (List Value)) :
    Payload.watchers? (n.inbound (echo n.entityKey id watchers)) =
      watchers.map n.innerWatchers := by
  unfold Payload.watchers?
  rw [get?_inbound_echo, if_pos rfl]
  cases watchers <;> rfl

theorem error_inbound_echo (id : String) (watchers : Option (List Value)) :
    (n.inbound (echo n.entityKey id watchers)).getString? "error" = none := by
  unfold Value.getString?
  rw [get?_inbound_echo, if_neg (by decide), if_neg n.innerKey_ne.2.1]
  rfl

end Normalizer
end Payload

namespace Turn

/-- An answer that echoes the key of the request is taken as an acknowledgement if the key is read,
and not at all if it is not. -/
theorem onSubscribeAck_echo (t : Turn) (id : String) (watchers : Option (List Value)) :
    let n := t.conn.normalizer
    t.onSubscribeAck (n.inbound (Payload.echo n.entityKey id watchers)) =
      if n.innerKey = "entityId" ∧ id ≠ "" then
        t.setRegistry (t.conn.registry.acknowledge id (n.watchersTold watchers)).2
      else t := by
  intro n
  unfold onSubscribeAck
  rw [n.entityId?_inbound_echo, n.error_inbound_echo, n.watchers?_inbound_echo]
  by_cases hkey : n.innerKey = "entityId"
  · by_cases hid : id = ""
    · subst hid
      simp [hkey, Payload.nonEmpty?]
    · have hempty : id.isEmpty = false := by
        simpa [String.isEmpty_iff] using hid
      simp [hkey, hid, Payload.nonEmpty?, hempty, Payload.Normalizer.watchersTold]
  · simp [hkey]

end Turn

namespace Connection

open Payload.Normalizer

/-- **An answer in the words of the request.**  On an established connection an entity waits for
its acknowledgement.  The server answers under the key that the request used. -/
theorem step_echo {c : Connection} (h : c.Ready) (hc : c.state = .connected) {id : String}
    {e : Entry} (he : c.registry.get? id = some e) (hs : e.status = .pending) (m : Moment)
    {frame : String} {watchers : Option (List Value)}
    (hdecode : Frame.decode frame =
      .ok ⟨EventName.subscribeAck, Payload.echo c.normalizer.entityKey id watchers⟩) :
    let after := c.step m (.received (.ok (.text frame)))
    let ws := c.normalizer.watchersTold watchers
    (c.normalizer.ReadsEntity ∧ id ≠ "" →
      after.1.registry.status? id = some .active ∧
      repliesOf after.2 = e.subscribers.map (·, .subscribed (.ok ⟨id, ws⟩))) ∧
    (¬(c.normalizer.ReadsEntity ∧ id ≠ "") →
      after.1.registry = c.registry ∧ repliesOf after.2 = []) := by
  intro after ws
  let t : Turn := { conn := c, moment := m }
  let payload := c.normalizer.inbound (Payload.echo c.normalizer.entityKey id watchers)
  let absorbed := t.onSubscribeAck payload
  have hstep : t.step (.received (.ok (.text frame))) =
      absorbed.route EventName.subscribeAck payload := step_text h hc m hdecode
  have hecho : absorbed = if c.normalizer.innerKey = "entityId" ∧ id ≠ "" then
      t.setRegistry (c.registry.acknowledge id ws).2 else t :=
    Turn.onSubscribeAck_echo t id watchers
  have hregistry : after.1.registry = absorbed.conn.registry := by
    show (t.step _).conn.registry = _
    rw [hstep, Turn.conn_route]
  have hreplies : repliesOf after.2 = repliesOf absorbed.messages := by
    have hrouted : (absorbed.route EventName.subscribeAck payload).messages =
        absorbed.messages := by simp
    show repliesOf (t.step _).effects = _
    rw [← repliesOf_messages, hstep]
    exact congrArg repliesOf hrouted
  rw [hregistry, hreplies, hecho, ← innerKey_eq_iff]
  constructor
  · intro hreads
    have hack : c.registry.acknowledge id ws = (true, e.tellSubscribers (.ok ⟨id, ws⟩),
        c.registry.put id { e with
          status := .active, deadline := none, watchers := ws, subscribers := [] }) := by
      unfold Registry.acknowledge
      simp [he, hs]
    rw [if_pos hreads, hack]
    refine ⟨?_, ?_⟩
    · rw [Turn.conn_setRegistry, Registry.status?_put, if_pos rfl]
    · show repliesOf ((t.setRegistry _).sift Effect.isMessage) = _
      rw [Turn.sift_setRegistry, filter_replyEffects_self fun _ _ => rfl, repliesOf_append,
        repliesOf_replyEffects]
      rfl
  · intro hreads
    rw [if_neg hreads]
    exact ⟨rfl, rfl⟩

/-- The normalizer of a reachable connection is that of its settings. -/
theorem normalizer_run (config : Config) (inputs : List (Moment × Input)) :
    ((Connection.new config).run inputs).1.normalizer = (Connection.new config).normalizer :=
  congrArg Prod.snd (setup_run (ready_new config) inputs)

/-- **Which configurations understand their own words.**  Take any run of a connection that was
just built, and an entity that waits for its acknowledgement on an established connection.  The
request names the entity under one key.  An acknowledgement with the entity under the same key, and
watchers or none, makes the subscription active and answers everybody who waits for it exactly if
the case inside is camel case or the field is excluded from re-casing, and the name is not empty.
Otherwise it changes no subscription and answers nobody. -/
theorem echo_acknowledged_iff (config : Config) (inputs : List (Moment × Input)) {id : String}
    {e : Entry} (hc : ((Connection.new config).run inputs).1.state = .connected)
    (he : ((Connection.new config).run inputs).1.registry.get? id = some e)
    (hs : e.status = .pending) :
    let c := ((Connection.new config).run inputs).1
    let understood := (config.options.internalCase = .camel ∨
      "entityId" ∈ config.options.caseExclusions ∨
      "entity_id" ∈ config.options.caseExclusions) ∧ id ≠ ""
    (∀ socket fault, c.requestFrame socket .subscribe id fault =
      .frame socket ⟨EventName.subscribe,
        .object [(c.normalizer.entityKey, .string id)]⟩ fault) ∧
    ∀ m frame watchers,
      Frame.decode frame =
        .ok ⟨EventName.subscribeAck, Payload.echo c.normalizer.entityKey id watchers⟩ →
      let after := c.step m (.received (.ok (.text frame)))
      let ws := c.normalizer.watchersTold watchers
      (after.1.registry.status? id = some .active ∧
        repliesOf after.2 = e.subscribers.map (·, .subscribed (.ok ⟨id, ws⟩)) ↔ understood) ∧
      (¬understood → after.1.registry = c.registry ∧ repliesOf after.2 = []) := by
  intro c understood
  have hreads : c.normalizer.ReadsEntity ∧ id ≠ "" ↔ understood := by
    rw [show c.normalizer = _ from normalizer_run config inputs]
    unfold ReadsEntity
    rw [isExcluded_entityId_iff]
    rfl
  refine ⟨fun socket fault => ?_, fun m frame watchers hdecode => ?_⟩
  · unfold requestFrame
    rw [outbound_ofEntity]
    rfl
  · obtain ⟨hyes, hno⟩ := step_echo (ready_run (ready_new config) inputs) hc he hs m hdecode
    rw [hreads] at hyes hno
    refine ⟨⟨fun hactive => ?_, hyes⟩, hno⟩
    by_contra hnot
    rw [(hno hnot).1, Registry.status?_of_get? he, hs] at hactive
    exact absurd hactive.1 nofun

/-- By default a snake-case echo is understood: the subscription becomes active and its caller
learns so. -/
theorem echo_acknowledged_iff_camel :
    let config : Config := ⟨"ws://localhost/ws", {}, {}⟩
    let m : Moment :=
      { now := 0, seconds := 0, token := some "token", sendFault := fun _ => none, draw := 0.0 }
    let inputs := [Input.command .connect, .attempt, .dial, .opened (.ok 0),
      .received (.ok (.text "[\"connect\"]")), .command (.subscribe "X-1" 0)].map (m, ·)
    let frame := "[\"subscribe_ack\",\x7b\"entity_id\":\"X-1\",\"watchers\":[]\x7d]"
    let after := ((Connection.new config).run inputs).1.step m (.received (.ok (.text frame)))
    after.1.registry.status? "X-1" = some .active ∧
    repliesOf after.2 = [(0, .subscribed (.ok ⟨"X-1", []⟩))] := by
  intro config m inputs frame
  have hc : ((Connection.new config).run inputs).1.state = .connected := by decide +kernel
  have he : ((Connection.new config).run inputs).1.registry.get? "X-1" =
      some ⟨.pending, some (Span.ofSeconds 5), true, [0], [], []⟩ := by decide +kernel
  have hdecode : Frame.decode frame = .ok ⟨EventName.subscribeAck,
      Payload.echo ((Connection.new config).run inputs).1.normalizer.entityKey "X-1"
        (some [])⟩ := by decide +kernel
  have hws : ((Connection.new config).run inputs).1.normalizer.watchersTold (some []) = [] := by
    decide +kernel
  have hack := ((echo_acknowledged_iff config inputs hc he rfl).2 m frame (some []) hdecode).1.2
    ⟨Or.inl rfl, by decide⟩
  rw [hws] at hack
  exact hack

/-- Not every configuration understands its own words: in snake case inside, an echo leaves the
subscription pending. -/
theorem echo_ignored_in_snake_case :
    ¬∀ (config : Config) (inputs : List (Moment × Input)) (id : String) (e : Entry) (m : Moment)
      (frame : String) (watchers : Option (List Value)),
      "entityId" ∉ config.options.caseExclusions → "entity_id" ∉ config.options.caseExclusions →
      "watchers" ∉ config.options.caseExclusions → id ≠ "" →
      let c := ((Connection.new config).run inputs).1
      c.state = .connected → c.registry.get? id = some e → e.status = .pending →
      Frame.decode frame =
        .ok ⟨EventName.subscribeAck, Payload.echo c.normalizer.entityKey id watchers⟩ →
      (c.step m (.received (.ok (.text frame)))).1.registry.status? id = some .active := by
  let config : Config := ⟨"ws://localhost/ws", { internalCase := .snake }, {}⟩
  let m : Moment :=
    { now := 0, seconds := 0, token := some "token", sendFault := fun _ => none, draw := 0.0 }
  let inputs := [Input.command .connect, .attempt, .dial, .opened (.ok 0),
    .received (.ok (.text "[\"connect\"]")), .command (.subscribe "X-1" 0)].map (m, ·)
  let frame := "[\"subscribe_ack\",\x7b\"entity_id\":\"X-1\",\"watchers\":[]\x7d]"
  let e : Entry := ⟨.pending, some (Span.ofSeconds 5), true, [0], [], []⟩
  intro hall
  have hactive := hall config inputs "X-1" e m frame (some []) (by decide) (by decide) (by decide)
    (by decide) (by decide +kernel) (by decide +kernel) rfl (by decide +kernel)
  have hpending : ((((Connection.new config).run inputs).1.step m
      (.received (.ok (.text frame)))).1.registry.status? "X-1") = some .pending := by
    decide +kernel
  exact absurd (hpending.symm.trans hactive) nofun

end Connection
end LiveSync
