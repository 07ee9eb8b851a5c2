import LiveSync.Proofs.Exchange.KeyCase
import LiveSync.Proofs.Frame.Nameless
import LiveSync.Proofs.Payload.Spellings

/-!
# Salvaged watcher updates

A frame without a name is taken for a watcher update by a look at its payload as it came: an entity
under one of two spellings, and a list of watchers.  What the update means is read off the payload
once it is re-cased, where both spellings have become one.  So the update is understood unless the
payload has both, and the one that counts does not name an entity.

* `rekey_entityId_iff` — the spellings of the name of the entity.
* `entityId?_inbound`, `watchers?_inbound` — what is read of a payload.
* `step_watchersChanged` — what an update does to the registry.
* `salvaged_understood_iff` — when a salvaged update is understood, in every reachable state.
-/

namespace LiveSync

open LiveSync.Json

namespace Payload

/-! ## What is read of a payload -/

namespace Normalizer

/-- Camel case inside, and the fields of the subscription protocol are re-cased. -/
structure ReadsCamel (n : Normalizer) : Prop where
  /-- Listeners see camel case. -/
  internal : n.internal = .camel
  /-- The fields that are read are not excluded. -/
  included : ∀ key ∈ ["entityId", "entity_id", "watchers"], n.isExcluded key = false

variable {n : Normalizer}

/-- The name of the entity has two spellings. -/
theorem rekey_entityId_iff (h : n.ReadsCamel) (key : String) :
    n.rekey .camel key = "entityId" ↔ key ∈ ["entityId", "entity_id"] := by
  refine rekey_camel_iff List.mem_cons_self ?_ ?_ key
  · intro key hkey
    refine ⟨h.included key (by simp only [List.mem_cons] at hkey ⊢; tauto), ?_⟩
    revert key
    decide +kernel
  · intro key hcamel
    have hchars : (toCamel key).toList =
        ['e', 'n', 't', 'i', 't', 'y'] ++ 'I' :: ['d'] := by rw [hcamel]; rfl
    rcases eq_or_eq_of_toCamel (by simp) rfl (by simp) hchars with heq | heq
    · exact List.mem_cons.2 (.inl (String.toList_injective heq))
    · exact List.mem_cons_of_mem _ (List.mem_singleton.2 (String.toList_injective heq))

/-- Re-casing keeps texts. -/
theorem asString?_transform (target : KeyCase) (x : Value) :
    (n.transform target x).asString? = x.asString? := by
  cases x <;> rfl

/-- Re-casing keeps arrays. -/
theorem asArray?_transform (target : KeyCase) (x : Value) :
    (n.transform target x).asArray? = x.asArray?.map fun items =>
      items.map (n.transform target) := by
  cases x with
  | array items =>
    rw [transform_array]
    rfl
  | object fields =>
    rw [transform_object]
    rfl
  | null | bool _ | number _ | string _ => rfl

section

variable (h : n.ReadsCamel) {p : Value} (hp : p.Ordered)
include h hp

/-- **The entity that a payload names**: of the two spellings the one with the underscore counts. -/
theorem entityId?_inbound (hnamed : ((p.get? "entity_id").or (p.get? "entityId")).isSome) :
    entityId? (n.inbound p) =
      (((p.get? "entity_id").or (p.get? "entityId")).bind Value.asString?).bind nonEmpty? := by
  have hlast : (["entityId", "entity_id"].filterMap p.get?).getLast? =
      (p.get? "entity_id").or (p.get? "entityId") := by
    cases hcamel : p.get? "entityId" <;> cases hsnake : p.get? "entity_id" <;>
      simp [hcamel, hsnake]
  have hfound : (n.inbound p).get? "entityId" =
      ((p.get? "entity_id").or (p.get? "entityId")).map (n.transform .camel) := by
    rw [← hlast, inbound, h.internal]
    refine get?_transform_of_spellings hp (List.pairwise_pair.2 (by decide +kernel))
      (rekey_entityId_iff h) fun key hkey => h.included key ?_
    simp only [List.mem_cons] at hkey ⊢
    tauto
  obtain ⟨v, hv⟩ := Option.isSome_iff_exists.1 hnamed
  unfold entityId?
  rw [hfound, hv, Option.map_some, Option.some_or, Option.bind_some, Option.bind_some,
    asString?_transform]

/-- The watchers of a payload. -/
theorem watchers?_inbound :
    watchers? (n.inbound p) = (watchers? p).map fun ws => ws.map n.inbound := by
  have hfound : (n.inbound p).get? "watchers" =
      (p.get? "watchers").map (n.transform .camel) := by
    have hlast : (["watchers"].filterMap p.get?).getLast? = p.get? "watchers" := by
      cases hwatchers : p.get? "watchers" <;> simp [hwatchers]
    have hincluded : n.isExcluded "watchers" = false := h.included _ (by simp)
    rw [← hlast, inbound, h.internal]
    exact get?_transform_of_spellings hp (List.pairwise_singleton _ _)
      (rekey_plain_iff hincluded (by decide +kernel) (by simp))
      (List.forall_mem_singleton.2 hincluded)
  have hinbound : n.inbound = n.transform .camel := by
    funext v
    rw [inbound, h.internal]
  unfold watchers?
  rw [hfound, hinbound]
  cases p.get? "watchers" with
  | none => rfl
  | some v => exact asArray?_transform .camel v

end

end Normalizer

/-! ## What is salvaged -/

theorem nonEmpty?_eq_some_iff {s t : String} : nonEmpty? s = some t ↔ s ≠ "" ∧ s = t := by
  unfold nonEmpty?
  by_cases hs : s = "" <;> simp [hs]

/-- A text that is not empty is found. -/
theorem isSome_named_iff {v? : Option Value} :
    ((v?.bind Value.asString?).bind nonEmpty?).isSome = true ↔
      ∃ s, s ≠ "" ∧ v? = some (.string s) := by
  constructor
  · intro h
    obtain ⟨t, ht⟩ := Option.isSome_iff_exists.1 h
    obtain ⟨s, hs, hne⟩ := Option.bind_eq_some_iff.1 ht
    obtain ⟨v, rfl, hv⟩ := Option.bind_eq_some_iff.1 hs
    cases v with
    | string _ => exact ⟨s, (nonEmpty?_eq_some_iff.1 hne).1, by rw [Option.some.inj hv]⟩
    | _ => exact absurd hv nofun
  · rintro ⟨s, hs, rfl⟩
    exact Option.isSome_iff_exists.2 ⟨s, nonEmpty?_eq_some_iff.2 ⟨hs, rfl⟩⟩

/-- The payload of a watcher update has a text under one of the two spellings, and watchers. -/
theorem isWatcherUpdate_iff {p : Value} : isWatcherUpdate p = true ↔
    ((∃ s, s ≠ "" ∧ p.get? "entity_id" = some (.string s)) ∨
      ∃ s, s ≠ "" ∧ p.get? "entityId" = some (.string s)) ∧ ∃ ws, watchers? p = some ws := by
  unfold isWatcherUpdate Value.getString?
  rw [Bool.and_eq_true, Bool.or_eq_true, isSome_named_iff, isSome_named_iff,
    Option.isSome_iff_exists]

end Payload

theorem Registry.get?_setWatchers {r : Registry} {id : String} {e : Entry} (h : r.get? id = some e)
    (watchers : List Value) :
    (r.setWatchers id watchers).2.get? id = some { e with watchers := watchers } := by
  unfold setWatchers
  rw [h]
  exact get?_put_self ..

namespace Turn

/-- Only an event that names an entity and has watchers changes the registry. -/
theorem onWatchersChanged_eq (t : Turn) (payload : Value) :
    (t.onWatchersChanged payload).conn = { t.conn with registry :=
      (((Payload.entityId? payload).bind fun id => (Payload.watchers? payload).map fun ws =>
        (t.conn.registry.setWatchers id ws).2).getD t.conn.registry) } := by
  unfold onWatchersChanged
  cases Payload.entityId? payload <;> cases Payload.watchers? payload <;> rfl

end Turn

namespace Connection

open Payload.Normalizer

/-- What an update does to the registry. -/
theorem step_watchersChanged {c : Connection} (h : c.Ready) (hc : c.state = .connected) (m : Moment)
    {frame : String} {p : Value}
    (hdecode : Frame.decode frame = .ok ⟨EventName.watchersChanged, p⟩) :
    (c.step m (.received (.ok (.text frame)))).1.registry =
      (((Payload.entityId? (c.normalizer.inbound p)).bind fun id =>
        (Payload.watchers? (c.normalizer.inbound p)).map fun ws =>
          (c.registry.setWatchers id ws).2).getD c.registry) := by
  let t : Turn := { conn := c, moment := m }
  let payload := c.normalizer.inbound p
  have hstep : t.step (.received (.ok (.text frame))) =
      (t.onWatchersChanged payload).route EventName.watchersChanged payload :=
    step_text h hc m hdecode
  show (t.step _).conn.registry = _
  rw [hstep, Turn.conn_route, Turn.onWatchersChanged_eq]

/-- By default, camel case is read. -/
theorem readsCamel_new (url : String) (timeouts : Timeouts) :
    (Connection.new ⟨url, {}, timeouts⟩).normalizer.ReadsCamel := by
  refine ⟨rfl, ?_⟩
  show ∀ key ∈ ["entityId", "entity_id", "watchers"],
    (Payload.Normalizer.mk .snake .camel ({} : Options).caseExclusions).isExcluded key = false
  decide +kernel

/-- **When a salvaged update is understood.**  With the default settings, a text without an event
name that is read all the same is taken for a watcher update with watchers.  Its entity is found
exactly if the field `entity_id`, where there is one, holds a text that is not empty.  On an
established connection the watchers of that entity are replaced if it is tracked; without an entity
the registry stays as it is. -/
theorem salvaged_understood_iff (url : String) (timeouts : Timeouts) {text : String} {e : Envelope}
    (hdecode : Frame.decode text = .ok e)
    (hnameless : (Value.parse? text).bind Frame.eventName? = none) :
    let inner := (Connection.new ⟨url, {}, timeouts⟩).normalizer.inbound e.data
    e.event = EventName.watchersChanged ∧
    ((∃ id, id ≠ "" ∧ Payload.entityId? inner = some id) ↔
      ∀ v, e.data.get? "entity_id" = some v → ∃ s, s ≠ "" ∧ v = .string s) ∧
    ∃ ws, Payload.watchers? inner = some ws ∧
      ∀ inputs m, ((Connection.new ⟨url, {}, timeouts⟩).run inputs).1.state = .connected →
        let c := ((Connection.new ⟨url, {}, timeouts⟩).run inputs).1
        let after := (c.step m (.received (.ok (.text text)))).1
        (∀ id entry, Payload.entityId? inner = some id → c.registry.get? id = some entry →
          after.registry.get? id = some { entry with watchers := ws }) ∧
        (Payload.entityId? inner = none → after.registry = c.registry) := by
  intro inner
  obtain ⟨v, hparse, hordered, hor⟩ := Frame.decode_cases hdecode
  rw [hparse, Option.bind_some] at hnameless
  obtain ⟨hevent, hupdate⟩ := (hor.resolve_left (by rw [hnameless]; exact nofun)).2
  obtain ⟨hentity, ws, hws⟩ := Payload.isWatcherUpdate_iff.1 hupdate
  have hreads := readsCamel_new url timeouts
  have hnamed : ((e.data.get? "entity_id").or (e.data.get? "entityId")).isSome := by
    rcases hentity with ⟨s, -, hs⟩ | ⟨s, -, hs⟩ <;> simp [hs]
  have hinner : Payload.entityId? inner =
      (((e.data.get? "entity_id").or (e.data.get? "entityId")).bind Value.asString?).bind
        Payload.nonEmpty? := entityId?_inbound hreads hordered hnamed
  have hwatchers : Payload.watchers? inner =
      some (ws.map (Connection.new ⟨url, {}, timeouts⟩).normalizer.inbound) := by
    rw [watchers?_inbound hreads hordered, hws, Option.map_some]
  refine ⟨hevent, ⟨?_, ?_⟩, _, hwatchers, ?_⟩
  · rintro ⟨id, -, hid⟩ v hv
    rw [hinner, hv, Option.some_or] at hid
    obtain ⟨s, hs, heq⟩ := Payload.isSome_named_iff.1 (Option.isSome_iff_exists.2 ⟨id, hid⟩)
    exact ⟨s, hs, Option.some.inj heq⟩
  · intro hfirst
    rw [hinner]
    cases hsnake : e.data.get? "entity_id" with
    | none =>
      obtain ⟨s, hs, hcamel⟩ := hentity.resolve_left fun ⟨_, _, h⟩ => by simp [hsnake] at h
      exact ⟨s, hs, by rw [hcamel]; exact Payload.nonEmpty?_eq_some_iff.2 ⟨hs, rfl⟩⟩
    | some v =>
      obtain ⟨s, hs, rfl⟩ := hfirst v hsnake
      exact ⟨s, hs, Payload.nonEmpty?_eq_some_iff.2 ⟨hs, rfl⟩⟩
  · intro inputs m hc c after
    have hstep := step_watchersChanged (ready_run (ready_new ⟨url, {}, timeouts⟩) inputs) hc m
      (show Frame.decode text = .ok ⟨EventName.watchersChanged, e.data⟩ by rw [hdecode, ← hevent])
    rw [normalizer_run, show (Connection.new ⟨url, {}, timeouts⟩).normalizer.inbound e.data = inner
      from rfl, hwatchers] at hstep
    constructor
    · intro id entry hid hentry
      rw [hid] at hstep
      exact (congrArg (·.get? id) hstep).trans (Registry.get?_setWatchers hentry _)
    · intro hnone
      rw [hnone] at hstep
      exact hstep

/-- An update with both spellings of the entity, of which the one that counts names it: the watchers
of the entity are replaced. -/
theorem salvaged_understood_iff_both :
    let m : Moment :=
      { now := 0, seconds := 0, token := some "token", sendFault := fun _ => none, draw := 0.0 }
    let inputs := [Input.command .connect, .attempt, .dial, .opened (.ok 0),
      .received (.ok (.text "[\"connect\"]")), .command (.subscribe "X-1" 0)].map (m, ·)
    let text := "\x7b\"entityId\":7,\"entity_id\":\"X-1\",\"watchers\":[\"u-1\"]\x7d"
    ((((Connection.new ⟨"ws://localhost/ws", {}, {}⟩).run inputs).1.step m
      (.received (.ok (.text text)))).1.registry.get? "X-1").map (·.watchers) =
        some [.string "u-1"] := by
  intro m inputs text
  let data : Value := .object
    [("entityId", .number (.integer 7 (by decide))), ("entity_id", .string "X-1"),
      ("watchers", .array [.string "u-1"])]
  have hdecode : Frame.decode text = .ok ⟨EventName.watchersChanged, data⟩ := by decide +kernel
  have hnameless : (Value.parse? text).bind Frame.eventName? = none := by decide +kernel
  have hc : ((Connection.new ⟨"ws://localhost/ws", {}, {}⟩).run inputs).1.state = .connected := by
    decide +kernel
  have hentry : ((Connection.new ⟨"ws://localhost/ws", {}, {}⟩).run inputs).1.registry.get? "X-1" =
      some ⟨.pending, some (Span.ofSeconds 5), true, [0], [], []⟩ := by decide +kernel
  have hinner : (Connection.new ⟨"ws://localhost/ws", {}, {}⟩).normalizer.inbound data =
      .object [("entityId", .string "X-1"), ("watchers", .array [.string "u-1"])] := by
    decide +kernel
  obtain ⟨-, -, ws, hws, hregistry⟩ :=
    salvaged_understood_iff "ws://localhost/ws" {} hdecode hnameless
  rw [hinner] at hws hregistry
  obtain rfl : [.string "u-1"] = ws := Option.some.inj hws
  have hafter := (hregistry inputs m hc).1 "X-1" _ (by decide) hentry
  rw [hafter]
  rfl

/-- Not every salvaged update is understood: an empty `entity_id` hides the entity that `entityId`
names. -/
theorem salvaged_not_understood :
    ¬∀ (url : String) (timeouts : Timeouts) (text : String) (e : Envelope),
      Frame.decode text = .ok e → (Value.parse? text).bind Frame.eventName? = none →
      let inner := (Connection.new ⟨url, {}, timeouts⟩).normalizer.inbound e.data
      ∃ id ws, id ≠ "" ∧ Payload.entityId? inner = some id ∧ Payload.watchers? inner = some ws := by
  intro hall
  let text := "\x7b\"entityId\":\"X-1\",\"entity_id\":\"\",\"watchers\":[\"u-1\"]\x7d"
  let data : Value := .object
    [("entityId", .string "X-1"), ("entity_id", .string ""), ("watchers", .array [.string "u-1"])]
  have hdecode : Frame.decode text = .ok ⟨EventName.watchersChanged, data⟩ := by decide +kernel
  have hnameless : (Value.parse? text).bind Frame.eventName? = none := by decide +kernel
  obtain ⟨id, ws, -, hid, -⟩ := hall "ws://localhost/ws" {} text _ hdecode hnameless
  have hnone : Payload.entityId? ((Connection.new ⟨"ws://localhost/ws", {}, {}⟩).normalizer.inbound
      data) = none := by decide +kernel
  exact absurd (hnone.symm.trans hid) nofun

end Connection
end LiveSync
