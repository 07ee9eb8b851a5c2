import LiveSync.Proofs.Connection.Relay
import LiveSync.Proofs.Json.Fields

/-!
# The states of a connection are announced

Whenever the state changes, callers can read the new state, and at once listeners are told of it and
of the state before; and they are told of no other changes.  Only some changes occur.

* `ConnectionState.MayBecome` — the changes that occur.
* `TellsChange` — a payload in which both states of a change can be read.
* `Chronicle` — signals that announce every change, and nothing that is none.
* `Pace.Sequel.chronicle`, `chronicle_stride`, `chronicle_step` — what one step announces.
* `Connection.quotes` — the server sends an event under the name of the announcements.
* `chronicle_run` — what a run announces.
* `states_announced` — all of it, for every run of a connection that was just built.
-/

namespace LiveSync

open LiveSync.Json

/-! ## Changes of the state -/

/-- The changes of the state that occur. -/
inductive ConnectionState.MayBecome : (before after : ConnectionState) → Prop where
  /-- Nothing was wanted, or the retries were used up; now a connection is wanted. -/
  | begins {s : ConnectionState} (h : s = .disconnected ∨ s = .failed) : MayBecome s .connecting
  /-- An attempt succeeds. -/
  | arrives {s : ConnectionState} (h : s = .connecting ∨ s = .reconnecting) :
      MayBecome s .connected
  /-- The first attempt fails, or the connection is lost, and a retry is planned. -/
  | retries {s : ConnectionState} (h : s = .connecting ∨ s = .connected) :
      MayBecome s .reconnecting
  /-- No retry is left. -/
  | fails {s : ConnectionState} (h : s = .connecting ∨ s = .connected ∨ s = .reconnecting) :
      MayBecome s .failed
  /-- Nothing is wanted any more. -/
  | ends (s : ConnectionState) : MayBecome s .disconnected

/-- A payload tells of a change: the words for the new state and for the one before can be read in
it. -/
structure TellsChange (payload : Value) (before after : ConnectionState) : Prop where
  /-- The new state. -/
  state : (payload.get? "state").bind ConnectionState.ofValue? = some after
  /-- The state before. -/
  previous : (payload.get? "previousState").bind ConnectionState.ofValue? = some before

theorem ConnectionState.ofValue?_name (s : ConnectionState) :
    ConnectionState.ofValue? (.string s.name) = some s := by
  cases s <;> rfl

theorem tells_stateChange (before after : ConnectionState) :
    TellsChange (Turn.stateChange after before) before after where
  state := by
    rw [Turn.stateChange, Value.get?_ofPairs]
    simp [Fields.last?, ConnectionState.ofValue?_name]
  previous := by
    rw [Turn.stateChange, Value.get?_ofPairs]
    simp [Fields.last?, ConnectionState.ofValue?_name]

/-- Does the effect show or announce a state? -/
def Effect.tellsState : Effect → Bool
  | .snapshot _ => true
  | .publish event _ => event = EventName.stateChanged
  | _ => false

/-- Signals on the way from one state to another, in which every change is announced and nothing
that is none: callers can read the new state, and with the next signal listeners are told of it and
of the state before. -/
inductive Chronicle : ConnectionState → List Effect → ConnectionState → Prop where
  /-- Nothing at all. -/
  | nil (s : ConnectionState) : Chronicle s [] s
  /-- A signal that tells of no state. -/
  | aside {s last : ConnectionState} {e : Effect} {told : List Effect} (he : e.tellsState = false)
      (h : Chronicle s told last) : Chronicle s (e :: told) last
  /-- A snapshot in the present state. -/
  | shown {s last : ConnectionState} {shown : Snapshot} {told : List Effect}
      (hs : shown.state = s) (h : Chronicle s told last) :
      Chronicle s (.snapshot shown :: told) last
  /-- The state changes. -/
  | change {s next last : ConnectionState} {shown : Snapshot} {payload : Value}
      {told : List Effect} (hne : s ≠ next) (hmay : s.MayBecome next) (hs : shown.state = next)
      (htells : TellsChange payload s next) (h : Chronicle next told last) :
      Chronicle s (.snapshot shown :: .publish EventName.stateChanged payload :: told) last

namespace Chronicle

variable {s next last : ConnectionState} {told later : List Effect}

theorem append (h : Chronicle s told next) (h' : Chronicle next later last) :
    Chronicle s (told ++ later) last := by
  induction h with
  | nil => exact h'
  | aside he _ ih => exact .aside he (ih h')
  | shown hs _ ih => exact .shown hs (ih h')
  | change hne hmay hs htells _ ih => exact .change hne hmay hs htells (ih h')

/-- An event of another name. -/
theorem publish {event : String} (he : event ≠ EventName.stateChanged) (payload : Value)
    (h : Chronicle s told last) : Chronicle s (.publish event payload :: told) last :=
  .aside (decide_eq_false he) h

/-- An announcement alone is no chronicle: no snapshot goes before it. -/
theorem not_announcement (payload : Value) :
    ¬Chronicle s (.publish EventName.stateChanged payload :: told) last := by
  intro h
  cases h with
  | aside he => exact absurd he nofun

end Chronicle

/-! ## What each part of a step announces -/

namespace Pace

variable {options : Options} {p after : Pace} {told : List Effect}

theorem chronicle_plain (h : ∀ e ∈ told, p.Plain e) : Chronicle p.state told p.state := by
  induction told with
  | nil => exact .nil _
  | cons e rest ih =>
    obtain ⟨he, hrest⟩ := List.forall_mem_cons.1 h
    cases he with
    | snapshot hs => exact .shown hs (ih hrest)
    | notice hname =>
      refine .publish ?_ _ (ih hrest)
      rintro rfl
      exact absurd hname (by decide)

theorem Enters.chronicle {s : ConnectionState} (h : p.Enters s told)
    (hmay : p.state ≠ s → p.state.MayBecome s) : Chronicle p.state told s := by
  cases h with
  | same h =>
    rw [h]
    exact .nil _
  | other hne hs =>
    rw [changes_of_ne hne]
    exact .change hne (hmay hne) hs (tells_stateChange _ _) (.nil _)

/-- Giving up announces what becomes of the state.  At rest nothing but withdrawing is left. -/
theorem Sequel.chronicle (h : p.Sequel options after told)
    (hrest : p.state.isActive = true ∨ after.state = .disconnected) :
    Chronicle p.state told after.state := by
  have hactive : after.state ≠ .disconnected →
      p.state = .connecting ∨ p.state = .connected ∨ p.state = .reconnecting := by
    intro hne
    have hactive := hrest.resolve_right hne
    cases hs : p.state with
    | disconnected => exact absurd (hs ▸ hactive) nofun
    | failed => exact absurd (hs ▸ hactive) nofun
    | connecting => exact Or.inl rfl
    | connected => exact Or.inr (Or.inl rfl)
    | reconnecting => exact Or.inr (Or.inr rfl)
  cases h with
  | withdrawn h => exact h.chronicle fun _ => .ends _
  | spent _ _ h =>
    have hentered := h.chronicle fun _ => .fails (hactive nofun)
    exact hentered.append (.publish (by decide) _ (.nil _))
  | @retried due delay shown _ hs =>
    have hnotice : Chronicle .reconnecting
        [.publish EventName.reconnectAttempt (Turn.retryNotice (p.count + 1) delay)]
        .reconnecting := .publish (by decide) _ (.nil _)
    by_cases hsame : p.state = .reconnecting
    · rw [changes_of_eq hsame, hsame]
      exact .shown hs hnotice
    · have hmay : p.state = .connecting ∨ p.state = .connected :=
        (hactive nofun).imp_right fun h => h.resolve_right hsame
      rw [changes_of_ne hsame]
      exact .change hsame (.retries hmay) hs (tells_stateChange _ _) hnotice

theorem Onward.chronicle (h : p.Onward options after told)
    (hactive : p.state.isActive = true) : Chronicle p.state told after.state := by
  cases h with
  | stays hplain => exact chronicle_plain hplain
  | quits hplain h => exact (chronicle_plain hplain).append (h.chronicle (Or.inl hactive))

end Pace

/-! ## What a step announces -/

/-- The name of the event that the server sends, if it sends one. -/
def Input.eventName? (i : Input) : Option String :=
  match i.text?.map Frame.decode with
  | some (.ok e) => some e.event
  | _ => none

namespace Connection

/-- Does the connection pass on an event of the server that bears the name of the announcements? -/
def quotes (c : Connection) (i : Input) : Bool :=
  c.state = .connected && i.eventName? = some EventName.stateChanged

section

variable {c c' : Connection} {m : Moment} {i : Input} {told : List Effect}

theorem Abandons.chronicle (h : c.Abandons c' told)
    (hrest : c.state.isActive = true ∨ c'.state = .disconnected) :
    Chronicle c.state told c'.state := by
  obtain ⟨ahead, sequel, rfl, hplain, hsequel⟩ := h.signals
  exact (Pace.chronicle_plain hplain).append (hsequel.chronicle hrest)

/-- A stride announces what becomes of the state. -/
theorem chronicle_stride (hready : c.Ready) (h : c.Stride m i c' told)
    (hquotes : c.quotes i = false) : Chronicle c.state told c'.state := by
  have hsame : ∀ {p : Pace}, c'.pace = p → p.state = c.state → c'.state = c.state :=
    fun hpace hstate => (congrArg Pace.state hpace).trans hstate
  cases h with
  | calm _ hpace hplain =>
    rw [hsame hpace rfl]
    exact Pace.chronicle_plain hplain
  | abandoned h hrest =>
    refine h.chronicle ?_
    cases hactive : c.state.isActive with
    | true => exact Or.inl rfl
    | false => exact Or.inr (hrest hactive)
  | @passed frame e _ _ hc hdecode h =>
    obtain ⟨ahead, rfl, hplain⟩ := h.signals
    have hname : e.event ≠ EventName.stateChanged := by
      intro hname
      simp [quotes, hc, Input.eventName?, Input.text?, hdecode, hname] at hquotes
    rw [hsame h.pace rfl]
    refine (Pace.chronicle_plain hplain).append ?_
    unfold relay
    split
    · exact .nil _
    · exact .publish hname _ (.nil _)
  | refused hc _ _ h =>
    exact .publish (by decide) _ (h.chronicle (Or.inl (by rw [hc]; rfl)))
  | started haccepts h =>
    obtain ⟨-, hs, -⟩ := haccepts
    have hstate : c'.state = .connecting := congrArg Pace.state h.pace
    rw [hstate]
    exact h.enters.chronicle fun _ => .begins hs
  | waited _ hpace => exact hsame hpace rfl ▸ .nil _
  | begun _ _ hpace => exact hsame hpace rfl ▸ .nil _
  | dialled _ _ hpace => exact .aside rfl (hsame hpace rfl ▸ .nil _)
  | opened _ _ hpace => exact hsame hpace rfl ▸ .nil _
  | greeted hshaking _ h =>
    obtain ⟨hs, -⟩ := hready.attempt (by rw [hshaking]; rfl)
    obtain ⟨entering, rest, rfl, henters, honward⟩ := h.signals
    have hentered := henters.chronicle fun _ => .arrives hs
    exact hentered.append (.publish (by decide) _ (honward.chronicle rfl))

/-- An event of the server under the name of the announcements is passed on like any other, and
nothing else happens. -/
theorem step_of_quotes (h : c.Ready) (m : Moment) (hquotes : c.quotes i = true) :
    ∃ frame e, i = .received (.ok (.text frame)) ∧ Frame.decode frame = .ok e ∧
      e.event = EventName.stateChanged ∧ (c.step m i).1.state = c.state ∧
      (c.step m i).2 = c.relay m e.event (c.normalizer.inbound e.data) := by
  obtain ⟨hstate, hsent⟩ := (Bool.and_eq_true ..).mp hquotes
  have hc : c.state = .connected := of_decide_eq_true hstate
  have hname : i.eventName? = some EventName.stateChanged := of_decide_eq_true hsent
  unfold Input.eventName? at hname
  split at hname
  case h_2 => exact absurd hname nofun
  case h_1 e htext =>
    obtain ⟨frame, hframe, hdecode⟩ := Option.map_eq_some_iff.1 htext
    obtain rfl := text?_eq_some hframe
    have hevent : e.event = EventName.stateChanged := Option.some.inj hname
    let t : Turn := { conn := c, moment := m }
    let payload := c.normalizer.inbound e.data
    have habsorbed : t.absorb EventName.stateChanged payload = t := by
      unfold Turn.absorb
      rw [if_neg (by decide), if_neg (by decide), if_neg (by decide), if_neg (by decide),
        if_neg (by decide), if_neg (by decide)]
    have hstep : Turn.step t (.received (.ok (.text frame))) =
        t.route EventName.stateChanged payload := by
      rw [step_text h hc m hdecode, hevent]
      unfold Turn.onEvent
      rw [if_neg (by decide), if_neg (by decide), habsorbed]
    refine ⟨frame, e, rfl, hdecode, hevent, ?_, ?_⟩
    · show (Turn.step t _).conn.state = _
      rw [hstep, Turn.conn_route]
      rfl
    · show (Turn.step t _).effects = _
      rw [hstep, hevent]
      unfold Turn.route relay
      dsimp only
      split <;> rfl

end

/-! ## What a run announces -/

/-- The signals of a run, but for what the connection passes on under the name of the
announcements. -/
def reports (c : Connection) : List (Moment × Input) → List Effect
  | [] => []
  | (m, i) :: rest =>
    (if c.quotes i then [] else signals (c.step m i).2) ++ (c.step m i).1.reports rest

theorem chronicle_step {c : Connection} (h : c.Ready) (m : Moment) (i : Input) :
    Chronicle c.state (if c.quotes i then [] else signals (c.step m i).2) (c.step m i).1.state := by
  cases hquotes : c.quotes i with
  | true =>
    obtain ⟨-, -, -, -, -, hstate, -⟩ := step_of_quotes h m hquotes
    rw [hstate]
    exact .nil _
  | false => exact chronicle_stride h (stride_step h m i) hquotes

theorem chronicle_run {c : Connection} (h : c.Ready) (inputs : List (Moment × Input)) :
    Chronicle c.state (c.reports inputs) (c.run inputs).1.state := by
  induction inputs generalizing c with
  | nil => exact .nil _
  | cons first rest ih =>
    obtain ⟨m, i⟩ := first
    exact (chronicle_step h m i).append (ih (ready_step h m i))

/-- **Every change of the state is announced, and nothing that is none.**  Take any run of a
connection that was just built.  On the way from the disconnected state to the present one, every
change is one of those that occur; callers can read the new state, and at once listeners are told of
it and of the state before, in words that can be read back, once; and no other change is announced.
At the end of every run, too, callers read the present state.  An event of the server that bears the
name of the announcements is passed on as it came, like any other, and changes nothing. -/
theorem states_announced (config : Config) :
    (∀ inputs, let c := ((Connection.new config).run inputs).1
      Chronicle .disconnected ((Connection.new config).reports inputs) c.state ∧
        c.published.state = c.state) ∧
    (∀ before m i, let c := ((Connection.new config).run before).1
      c.quotes i = true → ∃ frame e, i = .received (.ok (.text frame)) ∧
        Frame.decode frame = .ok e ∧ e.event = EventName.stateChanged ∧
        (c.step m i).1.state = c.state ∧
        (c.step m i).2 = c.relay m e.event (c.normalizer.inbound e.data)) := by
  refine ⟨fun inputs => ⟨chronicle_run (ready_new config) inputs, ?_⟩, fun before m i => ?_⟩
  · have hready := ready_run (ready_new config) inputs
    exact congrArg Snapshot.state hready.published
  · exact step_of_quotes (ready_run (ready_new config) before) m

/-- The server says under the name of the announcements that the connection failed: listeners are
told so, and it goes on.  So not all that is told under this name announces a change. -/
theorem quotation_announces_nothing :
    let config : Config := ⟨"ws://localhost/ws", {}, {}⟩
    let m : Moment :=
      { now := 0, seconds := 0, token := some "token", sendFault := fun _ => none, draw := 0.0 }
    let text (frame : String) : Input := .received (.ok (.text frame))
    let before := [Input.command .connect, .attempt, .dial, .opened (.ok 0),
      text "[\"connect\"]"].map (m, ·)
    let quotation := text "[\"connection_state_changed\",\x7b\"state\":\"failed\"\x7d]"
    let c := ((Connection.new config).run before).1
    c.state = .connected ∧ (c.step m quotation).1.state = .connected ∧
    publications (c.step m quotation).2 =
      [(EventName.stateChanged, Value.ofPairs [("state", .string "failed")])] ∧
    ¬∀ before m i, let c := ((Connection.new config).run before).1
      Chronicle c.state (signals (c.step m i).2) (c.step m i).1.state := by
  intro config m text before quotation c
  have hstate : c.state = .connected := by decide +kernel
  have hafter : (c.step m quotation).1.state = .connected := by decide +kernel
  have htold : publications (c.step m quotation).2 =
      [(EventName.stateChanged, Value.ofPairs [("state", .string "failed")])] := by
    decide +kernel
  refine ⟨hstate, hafter, htold, fun hclaim => ?_⟩
  have hquotes : c.quotes quotation = true := by decide +kernel
  obtain ⟨frame, e, -, -, hname, -, heffects⟩ :=
    step_of_quotes (ready_run (ready_new config) before) m hquotes
  have hchronicle : Chronicle c.state (signals (c.step m quotation).2)
      (c.step m quotation).1.state := hclaim before m quotation
  have hrelay : (c.step m quotation).2 =
      [.publish e.event (c.normalizer.inbound e.data)] := by
    unfold relay at heffects
    split at heffects
    · rw [heffects] at htold
      exact absurd htold nofun
    · exact heffects
  rw [hrelay, hname] at hchronicle
  exact Chronicle.not_announcement _ hchronicle

end Connection
end LiveSync
