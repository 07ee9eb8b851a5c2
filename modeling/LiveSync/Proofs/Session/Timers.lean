import LiveSync.Proofs.Connection.Timers
import LiveSync.Session.Run
import Mathlib.Data.Option.Basic

/-!
# Timers that went off do not go off again

Of all that a connection may take next, its own timers come first or last: the heartbeat before any
command or frame, the acknowledgements after them.  A timer that is still due once it went off
would be taken again and again, and nothing else ever.

* `deadline?_of_nextInput?` — a timer is only taken when it is due.
* `lt_deadline?_fired` — once it went off it is not due, whatever comes in at the same instant.
* `timers_progress` — the heartbeat, the registry and the connection.
-/

namespace LiveSync

/-- Is the input one of the two timers of a connection? -/
def Input.isTimer : Input → Bool
  | .heartbeatDue | .acknowledgementDue => true
  | _ => false

/-- When a timer of a connection goes off. -/
def Connection.deadline? (c : Connection) : Input → Option Nat
  | .heartbeatDue => c.heartbeat.nextDeadline
  | .acknowledgementDue => c.registry.nextDeadline
  | _ => none

/-! ## What is taken next -/

namespace Session

section

variable {s s' : Session} {i : Input}

theorem isTimer_of_takeCommand (h : s.takeCommand = some (i, s')) : i.isTimer = false := by
  unfold takeCommand at h
  split at h
  · obtain ⟨rfl, -⟩ := Prod.mk.inj (Option.some.inj h)
    rfl
  · obtain ⟨-, h⟩ := Option.ite_none_left_eq_some.1 h
    obtain ⟨rfl, -⟩ := Prod.mk.inj (Option.some.inj h)
    rfl

theorem isTimer_of_takeIncoming {socket : SocketNumber}
    (h : s.takeIncoming socket = some (i, s')) : i.isTimer = false := by
  obtain ⟨item, -, heq⟩ := Option.map_eq_some_iff.1 h
  obtain ⟨rfl, -⟩ := Prod.mk.inj heq
  rfl

theorem isTimer_of_takeOpened (h : s.takeOpened = some (i, s')) : i.isTimer = false := by
  unfold takeOpened at h
  split at h
  · exact absurd h nofun
  · obtain ⟨-, h⟩ := Option.ite_none_right_eq_some.1 h
    obtain ⟨rfl, -⟩ := Prod.mk.inj (Option.some.inj h)
    rfl

/-- A timer is taken once its instant has come. -/
theorem takeTimer_eq_some {at? : Option Nat} {j : Input} (h : s.takeTimer at? j = some (i, s')) :
    i = j ∧ s.isDue at? = true := by
  obtain ⟨hdue, heq⟩ := Option.ite_none_right_eq_some.1 h
  exact ⟨(Prod.mk.inj (Option.some.inj heq)).1.symm, hdue⟩

theorem isTimer_of_takeOfAttempt {a : Attempt} (h : s.takeOfAttempt a = some (i, s')) :
    i.isTimer = false := by
  cases a with
  | ready token =>
    obtain ⟨rfl, -⟩ := Prod.mk.inj (Option.some.inj h)
    rfl
  | opening deadline =>
    rcases (Option.orElse_eq_some ..).1 h with h | ⟨-, h⟩
    · exact isTimer_of_takeOpened h
    · rw [(takeTimer_eq_some h).1]
      rfl
  | handshaking socket deadline =>
    rcases (Option.orElse_eq_some ..).1 h with h | ⟨-, h⟩
    · exact isTimer_of_takeIncoming h
    · rw [(takeTimer_eq_some h).1]
      rfl

theorem isTimer_of_settled (h : s.connection.state ≠ .connected)
    (hnext : s.nextInput? = some (i, s')) : i.isTimer = false := by
  unfold nextInput? at hnext
  dsimp only at hnext
  split at hnext
  · exact absurd hnext nofun
  split at hnext
  · exact isTimer_of_takeCommand hnext
  · exact isTimer_of_takeCommand hnext
  · rename_i hc
    exact absurd hc h
  all_goals
    split at hnext
    · rcases (Option.orElse_eq_some ..).1 hnext with hnext | ⟨-, hnext⟩
      · exact isTimer_of_takeCommand hnext
      · rw [(takeTimer_eq_some hnext).1]
        rfl
    · split at hnext
      · obtain ⟨rfl, -⟩ := Prod.mk.inj (Option.some.inj hnext)
        rfl
      · rcases (Option.orElse_eq_some ..).1 hnext with hnext | ⟨-, hnext⟩
        · exact isTimer_of_takeCommand hnext
        · exact isTimer_of_takeOfAttempt hnext

/-- **A timer of the connection is only taken when it is due.** -/
theorem deadline?_of_nextInput? (hnext : s.nextInput? = some (i, s')) (hi : i.isTimer = true) :
    ∃ due, s.connection.deadline? i = some due ∧ due ≤ s.now := by
  have hdue : s.isDue (s.connection.deadline? i) = true := by
    by_cases hc : s.connection.state = .connected
    · unfold nextInput? at hnext
      dsimp only at hnext
      rw [hc] at hnext
      obtain ⟨-, hnext⟩ := Option.ite_none_left_eq_some.1 hnext
      rcases (Option.orElse_eq_some ..).1 hnext with hbeat | ⟨-, hnext⟩
      · obtain ⟨rfl, hdue⟩ := takeTimer_eq_some hbeat
        exact hdue
      rcases (Option.orElse_eq_some ..).1 hnext with hcommand | ⟨-, hnext⟩
      · exact absurd (isTimer_of_takeCommand hcommand) (by simp [hi])
      rcases (Option.orElse_eq_some ..).1 hnext with hframe | ⟨-, hlast⟩
      · obtain ⟨socket, -, hframe⟩ := Option.bind_eq_some_iff.1 hframe
        exact absurd (isTimer_of_takeIncoming hframe) (by simp [hi])
      · obtain ⟨rfl, hdue⟩ := takeTimer_eq_some hlast
        exact hdue
    · exact absurd (isTimer_of_settled hc hnext) (by simp [hi])
  obtain ⟨due, hsome, hle⟩ := (Option.any_eq_true _ _).1 hdue
  exact ⟨due, hsome, by simpa using hle⟩

end

end Session

/-! ## Once a timer went off -/

namespace Connection

/-- **A timer that went off is not due any more**, whatever comes in at the same instant. -/
theorem lt_deadline?_fired {c : Connection} (h : c.Ready) (hs : c.heartbeat.Sound) {m : Moment}
    {fired : Input} (hfired : fired.isTimer = true) {between : List (Moment × Input)}
    (hnow : ∀ x ∈ between, x.1.now = m.now) {due : Nat}
    (hdue : ((c.step m fired).1.run between).1.deadline? fired = some due) : m.now < due := by
  have hready := ready_step h m fired
  cases fired with
  | heartbeatDue =>
    have hsound := (beats_step c m .heartbeatDue).sound hs
    exact heartbeat_ahead_run hsound (heartbeat_ahead_beat h hs m) hnow due hdue
  | acknowledgementDue =>
    exact registry_ahead_run hready (registry_ahead_expire h m) hnow due hdue
  | _ => exact absurd hfired nofun

end Connection

namespace Session

/-- **Timers make progress.**  Whatever was called before, a poll leaves a heartbeat with nothing
due; whatever was changed before, giving up what is overdue leaves a registry with nothing overdue;
and whatever came in before, a timer of the connection that went off is not taken again at the same
instant, not even with other inputs in between. -/
theorem timers_progress :
    (∀ (interval pongTimeout : Nat) (calls : List (Nat × Heartbeat.Call)) (now : Nat),
      (((Heartbeat.new interval pongTimeout).run calls).2.poll now).2.Ahead now) ∧
    (∀ (subscribeTimeout unsubscribeTimeout : Nat) (changes : List Registry.Change) (now : Nat),
      (((Registry.new subscribeTimeout unsubscribeTimeout).applyAll changes).2.expire
        now).2.2.Ahead now) ∧
    ∀ (config : Config) (inputs : List (Moment × Input)) (m : Moment) (fired : Input)
      (between : List (Moment × Input)) (s s' : Session),
      let c := ((Connection.new config).run inputs).1
      fired.isTimer = true → (∀ x ∈ between, x.1.now = m.now) → s.now = m.now →
        s.connection = ((c.step m fired).1.run between).1 → s.nextInput? ≠ some (fired, s') := by
  refine ⟨fun interval pongTimeout calls now => ?_, fun _ _ changes now => ?_, ?_⟩
  · exact ((Heartbeat.sound_new interval pongTimeout).run calls).ahead_polls
      (Heartbeat.polls_poll _ now)
  · exact Registry.ahead_expire _ now
  · intro config inputs m fired between s s' c hfired hbetween hnow hconnection hnext
    obtain ⟨due, hdue, hle⟩ := deadline?_of_nextInput? hnext hfired
    rw [hconnection] at hdue
    have hlt : m.now < due := Connection.lt_deadline?_fired
      (Connection.ready_run (Connection.ready_new config) inputs)
      (Connection.sound_heartbeat_run config inputs) hfired hbetween hdue
    omega

/-- Half a minute after the handshake the heartbeat and an acknowledgement are both due.  Once both
timers went off, in either order, the first of them is not taken again. -/
theorem timers_progress_together :
    let config : Config := ⟨"ws://localhost/ws", {}, {}⟩
    let m (now : Nat) : Moment :=
      { now := now, seconds := 0, token := some "token", sendFault := fun _ => none, draw := 0.0 }
    let inputs : List (Moment × Input) := [Input.command .connect, .attempt, .dial,
      .opened (.ok 0), .received (.ok (.text "[\"connect\"]")),
      .command (.subscribe "A" 0)].map (m 0, ·)
    let c := ((Connection.new config).run inputs).1
    let now := Span.ofSeconds 30
    let before : Session := { now := now, seconds := 0, token := some "token", connection := c }
    let after (first second : Input) : Session :=
      { before with connection := ((c.step (m now) first).1.run [(m now, second)]).1 }
    c.state = .connected ∧
    before.isDue (c.deadline? .heartbeatDue) = true ∧
    before.isDue (c.deadline? .acknowledgementDue) = true ∧
    (∀ s', (after .heartbeatDue .acknowledgementDue).nextInput? ≠ some (.heartbeatDue, s')) ∧
    ∀ s', (after .acknowledgementDue .heartbeatDue).nextInput? ≠
      some (.acknowledgementDue, s') := by
  intro config m inputs c now before after
  refine ⟨by decide +kernel, by decide +kernel, by decide +kernel, fun s' => ?_, fun s' => ?_⟩
  · -- where the run led is of no matter from here on, and unifying would evaluate it
    clear_value inputs
    exact timers_progress.2.2 config inputs (m now) .heartbeatDue
      [(m now, .acknowledgementDue)] _ s' rfl (List.forall_mem_singleton.2 rfl) rfl rfl
  · clear_value inputs
    exact timers_progress.2.2 config inputs (m now) .acknowledgementDue
      [(m now, .heartbeatDue)] _ s' rfl (List.forall_mem_singleton.2 rfl) rfl rfl

end Session
end LiveSync
