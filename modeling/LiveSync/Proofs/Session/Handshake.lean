import LiveSync.Proofs.Session.Hearing

/-!
# The first decision counts

When a socket is open the client waits for the handshake, until the deadline, and takes whatever
the server sends.  The first item that decides the handshake concludes it, and what comes behind a
greeting is not lost: it reaches the connection, each frame once and in order.

* `Proceeds`, `proceeds_nextInput?` — what may come next during the wait, and what becomes of it.
* `Hears.undecided` — as long as nothing has decided.
* `Hears.after_decision` — what comes behind the item that decided.
* `first_decision_counts` — from the opening of the socket on.
-/

namespace LiveSync

open LiveSync.Json

namespace Session

open Handshake

/-- What may come next while nothing has decided the handshake on a socket, and what becomes of
it. -/
inductive Proceeds (socket : SocketNumber) (deadline : Nat) (s : Session) (m : Moment) :
    Input → Prop where
  /-- An item that decides nothing changes nothing. -/
  | ignored {item : Except Fault Incoming} (hitem : ∀ outcome, ¬Decides item outcome)
      (hstep : s.connection.step m (.received item) = (s.connection, [])) :
      Proceeds socket deadline s m (.received item)
  /-- An item that decides concludes the handshake. -/
  | decided {item : Except Fault Incoming} {outcome : Outcome} (hitem : Decides item outcome)
      (hstep : s.connection.step m (.received item) = s.connection.concluded m socket outcome) :
      Proceeds socket deadline s m (.received item)
  /-- The deadline has come and nothing is left to read: that concludes it too. -/
  | overdue (hdue : deadline ≤ s.now) (hunread : s.unread socket = [])
      (hstep : s.connection.step m .handshakeTimedOut =
        s.connection.concluded m socket (.error (.timeout
          ("Handshake timeout (" ++ Span.text s.connection.config.timeouts.handshake ++ ")")))) :
      Proceeds socket deadline s m .handshakeTimedOut
  /-- A caller asks for something during the wait. -/
  | command {x : Command} (hx : LeavesOpen (.command x)) :
      Proceeds socket deadline s m (.command x)
  /-- The owner does not want to be connected any more. -/
  | givenUp {i : Input} (hi : i = .command .disconnect ∨ i = .command .shutdown ∨
      i = .commandsClosed) : Proceeds socket deadline s m i

section

variable {s₀ s : Session} {socket : SocketNumber} {deadline : Nat} {given : List Incoming}
  {taken : List (Moment × Input)} (h₀ : s₀.connection.Ready)
  (ha : s₀.connection.attempt = some (.handshaking socket deadline))
  (h : Hears socket s₀ given taken s)

theorem proceeds_received (hready : s.connection.Ready)
    (hattempt : s.connection.attempt = some (.handshaking socket deadline)) (m : Moment)
    (item : Except Fault Incoming) : Proceeds socket deadline s m (.received item) := by
  by_cases hd : ∃ outcome, Decides item outcome
  · obtain ⟨outcome, hd⟩ := hd
    exact .decided hd (Connection.step_decides hready hattempt hd)
  · have hnone : ∀ outcome, ¬Decides item outcome := not_exists.1 hd
    exact .ignored hnone (Connection.step_undecided hready hattempt hnone)

/-- What may come next during the wait. -/
theorem proceeds_nextInput? (hready : s.connection.Ready)
    (hattempt : s.connection.attempt = some (.handshaking socket deadline)) {i : Input}
    {s' : Session} (hnext : s.nextInput? = some (i, s')) (m : Moment) :
    Proceeds socket deadline s m i := by
  have hnoSocket := hready.noSocket (hready.ne_connected hattempt)
  cases draws_nextInput? hready (Or.inr ⟨deadline, hattempt⟩) hnext with
  | @command x rest hinbox =>
    by_cases hdisconnect : x = .disconnect
    · exact .givenUp (Or.inl (by rw [hdisconnect]))
    · by_cases hshutdown : x = .shutdown
      · exact .givenUp (Or.inr (Or.inl (by rw [hshutdown])))
      · exact .command (.command hdisconnect hshutdown)
  | commandsClosed => exact .givenUp (Or.inr (Or.inr rfl))
  | item => exact proceeds_received hready hattempt m _
  | fault => exact proceeds_received hready hattempt m _
  | heartbeat hs => exact absurd (hnoSocket.symm.trans hs) nofun
  | acknowledgement hs => exact absurd (hnoSocket.symm.trans hs) nofun
  | overdue hshaking hunread hdue =>
    obtain ⟨-, rfl⟩ := Attempt.handshaking.inj (Option.some.inj (hattempt.symm.trans hshaking))
    exact .overdue hdue hunread (Connection.step_overdue hready hattempt)

include h₀ ha h

/-- As long as nothing decides, the wait goes on with its deadline, and nothing is lost. -/
theorem Hears.undecided (hopen : ∀ x ∈ taken, LeavesOpen x.2) :
    s.connection.attempt = some (.handshaking socket deadline) ∧
      s₀.unread socket ++ given = itemsOf taken ++ s.unread socket := by
  rw [h.connection]
  exact ⟨Connection.attempt_run_leavesOpen h₀ ha hopen,
    h.in_order h₀ (Connection.throughout_leavesOpen h₀ ha hopen)⟩

/-- While the connection is up nothing that comes behind the item that decided is lost. -/
theorem Hears.after_decision {before after : List (Moment × Input)} {m : Moment}
    {item : Incoming} (htaken : taken = before ++ (m, .received (.ok item)) :: after)
    (hopen : ∀ x ∈ before, LeavesOpen x.2)
    (hup : (s₀.connection.run (before ++ [(m, .received (.ok item))])).1.Throughout
      (·.socket = some socket) after) :
    s₀.unread socket ++ given = itemsOf before ++ item :: (itemsOf after ++ s.unread socket) := by
  obtain rfl : taken = before ++ [(m, .received (.ok item))] ++ after := by simp [htaken]
  have hwaiting : (s₀.connection.run before).1.Holds socket :=
    Or.inr ⟨deadline, Connection.attempt_run_leavesOpen h₀ ha hopen⟩
  have hheld : s₀.connection.Throughout (·.Holds socket)
      (before ++ [(m, .received (.ok item))] ++ after) :=
    Connection.throughout_append.2 ⟨Connection.throughout_append.2
      ⟨Connection.throughout_leavesOpen h₀ ha hopen, Connection.throughout_singleton hwaiting⟩,
      fun past x rest heq => Or.inl (hup past x rest heq)⟩
  rw [h.in_order h₀ hheld, itemsOf_append, itemsOf_append, List.append_assoc, List.append_assoc]
  rfl

end

/-- **The first decision counts.**  Take any connection for which the transport has just opened a
socket, and whatever happens then: the server sends anything, callers ask for anything, time
passes.

As long as the connection has taken nothing that decides the handshake, it waits, with the deadline
that was set when the socket opened.  What it took is what the server sent, in order, and what it
takes next is an item that decides nothing and changes nothing, an item that decides and concludes
the handshake, the end of the wait, a command, or the end of the wish to be connected.

A greeting before which nothing decided has concluded the handshake.  As long as the connection is
up after it, what the server sent is what was taken before, the greeting, what was taken since and
what still waits; and whatever text was taken since was handled as a frame.

And the connection gets to everything: after inputs enough it has given up the socket, or nothing
waits on it and the deadline of a handshake has not come.  All that a session does while the clock
runs is among what may happen. -/
theorem first_decision_counts (config : Config) (inputs : List (Moment × Input)) (m₀ : Moment)
    {limit : Option Nat} {socket : SocketNumber} {s₀ s : Session} {given : List Incoming}
    {taken : List (Moment × Input)}
    (hopening : ((Connection.new config).run inputs).1.attempt = some (.opening limit))
    (hopened : s₀.connection =
      (((Connection.new config).run inputs).1.step m₀ (.opened (.ok socket))).1)
    (h : Hears socket s₀ given taken s) :
    let deadline := ((Connection.new config).run inputs).1.handshakeDeadline m₀
    ((∀ x ∈ taken, LeavesOpen x.2) →
      s.connection.attempt = some (.handshaking socket deadline) ∧
      s₀.unread socket ++ given = itemsOf taken ++ s.unread socket ∧
      ∀ i s', s.nextInput? = some (i, s') → Proceeds socket deadline s s'.moment i) ∧
    (∀ before m greeting socketId after, taken = before ++ (m, .received (.ok greeting)) :: after →
      (∀ x ∈ before, LeavesOpen x.2) → Decides (.ok greeting) (.ok socketId) →
      let up := (s₀.connection.run (before ++ [(m, .received (.ok greeting))])).1
      up = ((s₀.connection.run before).1.concluded m socket (.ok socketId)).1 ∧
      (up.Throughout (·.socket = some socket) after →
        s₀.unread socket ++ given =
          itemsOf before ++ greeting :: (itemsOf after ++ s.unread socket) ∧
        ∀ past m' frame rest, after = past ++ (m', .received (.ok (.text frame))) :: rest →
          (up.run past).1.step m' (.received (.ok (.text frame))) =
            let t := Turn.onFrame { conn := (up.run past).1, moment := m' } frame
            (t.conn, t.effects))) ∧
    (∃ bound, ∀ stamp turns, bound ≤ turns →
      let s' := runInputs stamp turns s
      ∃ more, Hears socket s₀ given (taken ++ more) s' ∧
        (s.connection.Throughout (·.Holds socket) more → s'.connection.Holds socket →
          s'.unread socket = [] ∧
          (s'.connection.attempt = some (.handshaking socket deadline) → s'.now < deadline))) ∧
    ∀ span, ∃ more, Hears socket s₀ given (taken ++ more) (s.advance span) := by
  intro deadline
  have hbase := Connection.ready_run (Connection.ready_new config) inputs
  have hready₀ : s₀.connection.Ready := by
    rw [hopened]
    exact Connection.ready_step hbase _ _
  have hattempt : s₀.connection.attempt = some (.handshaking socket deadline) := by
    rw [hopened, Connection.step_opened hbase hopening]
  have hready : s.connection.Ready := h.ready hready₀
  refine ⟨fun hopen => ?_, fun before m greeting socketId after htaken hopen hdecides => ?_, ?_,
    h.advance⟩
  · obtain ⟨hwaiting, horder⟩ := h.undecided hready₀ hattempt hopen
    exact ⟨hwaiting, horder, fun i s' hnext => proceeds_nextInput? hready hwaiting hnext _⟩
  · intro up
    have hconcluded : up = ((s₀.connection.run before).1.concluded m socket (.ok socketId)).1 := by
      have hwaiting := Connection.attempt_run_leavesOpen hready₀ hattempt hopen
      have hstep := Connection.step_decides (m := m) (Connection.ready_run hready₀ before)
        hwaiting hdecides
      rw [← hstep]
      show (s₀.connection.run (before ++ [(m, .received (.ok greeting))])).1 = _
      rw [Connection.run_append]
      rfl
    refine ⟨hconcluded, fun hup => ⟨h.after_decision hready₀ hattempt htaken hopen hup, ?_⟩⟩
    intro past m' frame rest hafter
    have hupReady : up.Ready := Connection.ready_run hready₀ _
    exact Connection.step_frame (Connection.ready_run hupReady past) (hup past _ rest hafter) m'
      frame
  · have hsound : s.connection.heartbeat.Sound := by
      have hrun : s.connection = ((Connection.new config).run
          (inputs ++ (m₀, .opened (.ok socket)) :: taken)).1 := by
        rw [h.connection, hopened, Connection.run_append]
        rfl
      rw [hrun]
      exact Connection.sound_heartbeat_run config _
    refine ⟨s.toTake socket + 1, fun stamp turns hturns => ?_⟩
    intro s'
    obtain ⟨more, hmore, hrest⟩ := h.runInputs hready hsound stamp turns
    have hready' : s'.connection.Ready := hmore.ready hready₀
    refine ⟨more, hmore, fun hholds hend => ?_⟩
    have hnone := hrest hturns hholds hend
    exact ⟨unread_of_nextInput?_eq_none hready' hend hnone,
      fun hwaiting => lt_deadline_of_nextInput?_eq_none hready' hwaiting hnone⟩

/-- The server sends something that is no frame, a greeting and a note, before the connection gets
to any of it.  The connection waits, and takes the three one after the other. -/
theorem first_decision_counts_greeted :
    let config : Config := ⟨"ws://localhost/ws", {}, {}⟩
    let m : Moment :=
      { now := 0, seconds := 0, token := some "token", sendFault := fun _ => none, draw := 0.0 }
    let inputs := [Input.command .connect, .attempt, .dial].map (m, ·)
    let c := ((Connection.new config).run inputs).1
    let noise := Incoming.text "hello"
    let greeting := Incoming.text "[\"connect\",\x7b\"sid\":\"S1\"\x7d]"
    let note := Incoming.text "[\"note\"]"
    let s₀ : Session :=
      { seconds := 0
        token := some "token"
        connection := (c.step m (.opened (.ok 0))).1
        network := (Transport.Network.open_ {} "ws://localhost/ws" "token").2 }
    let s₁ := (((s₀.push 0 noise).2.push 0 greeting).2.push 0 note).2
    let s₂ := (s₁.leaving 0 [greeting, note]).react (.received (.ok noise))
    let s₃ := (s₂.leaving 0 [note]).react (.received (.ok greeting))
    let s₄ := (s₃.leaving 0 []).react (.received (.ok note))
    let m₃ := (s₃.leaving 0 []).moment
    let handled := Turn.onFrame { conn := s₃.connection, moment := m₃ } "[\"note\"]"
    s₂.connection.attempt = some (.handshaking 0 (Span.ofSeconds 5)) ∧
    s₃.connection.socket = some 0 ∧
    s₃.connection.step m₃ (.received (.ok note)) = (handled.conn, handled.effects) ∧
    s₄.unread 0 = [] := by
  intro config m inputs c noise greeting note s₀ s₁ s₂ s₃ s₄ m₃ handled
  let first := ((s₁.leaving 0 [greeting, note]).moment, Input.received (.ok noise))
  let second := ((s₂.leaving 0 [note]).moment, Input.received (.ok greeting))
  let third := (m₃, Input.received (.ok note))
  have hready₀ : s₀.connection.Ready :=
    Connection.ready_step (Connection.ready_run (Connection.ready_new config) inputs) _ _
  have hidle : ∀ {s : Session}, s.takeCommand.isNone = true → s.takeCommand = none :=
    Option.isNone_iff_eq_none.1
  -- what happens, step by step
  have h₁ : Hears 0 s₀ [noise, greeting, note] [] s₁ :=
    ((Hears.start.deliver (by decide +kernel)).deliver (by decide +kernel)).deliver
      (by decide +kernel)
  have hwaiting₁ : s₁.connection.attempt = some (.handshaking 0 (Span.ofSeconds 5)) := by
    decide +kernel
  have h₂ : Hears 0 s₀ [noise, greeting, note] [first] s₂ :=
    h₁.react (nextInput?_item (h₁.ready hready₀) (Or.inr ⟨_, hwaiting₁⟩)
      (hidle (by decide +kernel)) (by decide +kernel) (by decide +kernel))
  have hwaiting₂ : s₂.connection.attempt = some (.handshaking 0 (Span.ofSeconds 5)) := by
    decide +kernel
  have h₃ : Hears 0 s₀ [noise, greeting, note] [first, second] s₃ :=
    h₂.react (nextInput?_item (h₂.ready hready₀) (Or.inr ⟨_, hwaiting₂⟩)
      (hidle (by decide +kernel)) (by decide +kernel) (by decide +kernel))
  have hup : s₃.connection.socket = some 0 := by decide +kernel
  have h₄ : Hears 0 s₀ [noise, greeting, note] [first, second, third] s₄ :=
    h₃.react (nextInput?_item (h₃.ready hready₀) (Or.inl hup)
      (hidle (by decide +kernel)) (by decide +kernel) (by decide +kernel))
  -- the noise decides nothing, the greeting decides
  have hjudged : Turn.judge (.ok noise) = .goOn := by decide +kernel
  have hopen : ∀ x ∈ [first], LeavesOpen x.2 := by
    refine List.forall_mem_singleton.2 (.item (outcome?_judge_eq_none.1 ?_))
    rw [hjudged]
    rfl
  have hgreeted : Turn.judge (.ok greeting) = .established (some "S1") := by decide +kernel
  have hdecides : Decides (.ok greeting) (.ok (some "S1")) :=
    outcome?_judge.1 (by rw [hgreeted]; rfl)
  have hopening : c.attempt = some (.opening (some (Span.ofSeconds 10))) := by decide +kernel
  have hdeadline : c.handshakeDeadline m = Span.ofSeconds 5 := by decide +kernel
  obtain ⟨hwaiting, -, -⟩ := (first_decision_counts config inputs m hopening rfl h₂).1 hopen
  rw [hdeadline] at hwaiting
  have hconnection : s₃.connection = (s₀.connection.run ([first] ++ [second])).1 := h₃.connection
  obtain ⟨horder, hhandled⟩ := ((first_decision_counts config inputs m hopening rfl h₄).2.1
    [first] second.1 greeting (some "S1") [third] rfl hopen hdecides).2
    (Connection.throughout_singleton (by rw [← hconnection]; exact hup))
  have hnote := hhandled [] m₃ "[\"note\"]" [] rfl
  have hrun : ∀ c : Connection, (c.run []).1 = c := fun _ => rfl
  rw [hrun] at hnote
  generalize (s₀.connection.run ([first] ++ [second])).1 = up at hnote hconnection
  subst hconnection
  -- what was sent is what was taken, so that nothing is left
  have hnothing : s₀.unread 0 = [] := by decide +kernel
  generalize s₄.unread 0 = unread at horder ⊢
  simp only [hnothing, itemsOf, itemOf?, List.filterMap, List.nil_append, List.cons_append,
    List.cons.injEq, true_and, first, third] at horder
  exact ⟨hwaiting, hup, hnote, horder.symm⟩

end Session
end LiveSync
