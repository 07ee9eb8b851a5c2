import LiveSync.Proofs.Connection.Answers
import LiveSync.Session.Client
import LiveSync.Session.Run

/-!
# What calls see of a session

A call depends on four things in a session: the connection, the commands that it has not taken yet,
the number of callers so far and the answers given.  Much of what a session does leaves all four
alone.  Carrying effects out gives the answers among them; when the connection stops, whoever still
waits in the queue gets an answer too.

* `CallKind.cancelled` — the answer to a call that is never taken.
* `Alike` — sessions that agree on the four.
* `alike_publish`, `alike_releaseClient`, … — what leaves them alone.
* `alike_foldl_carryOut` — carrying effects out.
* `react_running`, `react_stopped` — a reaction of the connection.
* `Takes`, `takes_nextInput?` — how the connection comes by its next input.
-/

namespace LiveSync

open LiveSync.Json

/-- Is the input a command? -/
def Input.isCommand : Input → Bool
  | .command _ => true
  | _ => false

/-! ## Calls that are abandoned -/

/-- The answer to a call that is never taken: it was cancelled.  Who asks how a subscription stands
cannot be told of a fault, and is told that there is none. -/
def CallKind.cancelled : CallKind → Answer
  | .subscribe => .subscribed (.error .cancelled)
  | .unsubscribe => .unsubscribed (.error .cancelled)
  | .emit => .emitted (.error .cancelled)
  | .info => .info none

theorem Command.abandoned_eq (x : Command) :
    x.abandoned = x.caller?.map fun caller => (caller.1, caller.2.cancelled) := by
  cases x <;> rfl

/-- Whoever is abandoned gets an answer. -/
theorem answered_abandoned (commands : List Command) :
    answered (commands.filterMap Command.abandoned) = commands.filterMap Command.caller? := by
  have hkind : ∀ kind : CallKind, kind.cancelled.kind = kind := fun kind => by cases kind <;> rfl
  unfold answered
  rw [List.map_filterMap]
  congr 1
  funext x
  rw [Command.abandoned_eq, Option.map_map]
  cases x.caller? <;> simp [hkind]

namespace Session

/-- Two sessions agree on all that calls see. -/
structure Alike (s s' : Session) : Prop where
  /-- The connection is the same. -/
  connection : s'.connection = s.connection
  /-- So are the commands that it has not taken. -/
  inbox : s'.inbox = s.inbox
  /-- So is the number of callers. -/
  calls : s'.calls = s.calls
  /-- So are the answers. -/
  replies : s'.replies = s.replies

namespace Alike

theorem refl (s : Session) : Alike s s :=
  ⟨rfl, rfl, rfl, rfl⟩

theorem trans {s s' s'' : Session} (h : Alike s s') (h' : Alike s' s'') : Alike s s'' :=
  ⟨h'.connection.trans h.connection, h'.inbox.trans h.inbox, h'.calls.trans h.calls,
    h'.replies.trans h.replies⟩

/-- What is done to each of many things leaves alone what it leaves alone for one. -/
theorem foldl {α : Type} {f : Session → α → Session} (hf : ∀ s x, Alike s (f s x)) (s : Session)
    (xs : List α) : Alike s (xs.foldl f s) := by
  induction xs generalizing s with
  | nil => exact refl s
  | cons x rest ih => exact (hf s x).trans (ih _)

end Alike

/-! ## What calls do not see -/

theorem alike_wake (s : Session) (t : Task) : Alike s (s.wake t) := by
  unfold wake
  split
  · exact .refl s
  · exact ⟨rfl, rfl, rfl, rfl⟩

theorem alike_publish (s : Session) (event : String) (payload : Value) :
    Alike s (s.publish event payload).2 := by
  refine Alike.foldl (fun s party => ?_) s (s.router.recipients event)
  cases party <;> exact ⟨rfl, rfl, rfl, rfl⟩

theorem alike_releaseClient (s : Session) : Alike s s.releaseClient := by
  unfold releaseClient
  split
  · exact (⟨rfl, rfl, rfl, rfl⟩ : Alike s { s with commandsOpen := false }.dropBridge).trans
      (alike_wake ..)
  · exact .refl s

theorem alike_fireDue (s : Session) : Alike s s.fireDue :=
  Alike.foldl (fun s (t : Timer) => alike_wake s t.task) s _

/-! ## Effects -/

theorem alike_carryOut (s : Session) (e : Effect) :
    Alike { s with replies := s.replies ++ e.reply?.toList } (s.carryOut e) := by
  have hnone : ∀ {s' : Session}, Alike s s' → Alike { s with replies := s.replies ++ [] } s' :=
    fun h => ⟨h.connection, h.inbox, h.calls, h.replies.trans (List.append_nil _).symm⟩
  cases e with
  | reply ticket a => exact ⟨rfl, rfl, rfl, rfl⟩
  | publish event payload => exact hnone (alike_publish ..)
  | frame socket envelope fault =>
    refine hnone ?_
    show Alike s (s.writeFrame socket envelope fault)
    unfold writeFrame
    cases fault <;> exact ⟨rfl, rfl, rfl, rfl⟩
  | _ => exact hnone ⟨rfl, rfl, rfl, rfl⟩

/-- Of effects that are carried out, callers see the answers. -/
theorem alike_foldl_carryOut (s : Session) (effects : List Effect) :
    Alike { s with replies := s.replies ++ repliesOf effects } (effects.foldl carryOut s) := by
  induction effects generalizing s with
  | nil => exact ⟨rfl, rfl, rfl, (List.append_nil _).symm⟩
  | cons e rest ih =>
    have hfirst := alike_carryOut s e
    have hrest := ih (s.carryOut e)
    have hsplit : repliesOf (e :: rest) = e.reply?.toList ++ repliesOf rest := by
      cases he : e.reply? <;> simp [repliesOf, he]
    refine ⟨hrest.connection.trans hfirst.connection, hrest.inbox.trans hfirst.inbox,
      hrest.calls.trans hfirst.calls, ?_⟩
    rw [List.foldl_cons, hrest.replies, hfirst.replies, hsplit, List.append_assoc]

/-- Answers are given one after the other. -/
theorem alike_foldl_reply (s : Session) (replies : List Reply) :
    Alike { s with replies := s.replies ++ replies } (replies.foldl reply s) := by
  induction replies generalizing s with
  | nil => exact ⟨rfl, rfl, rfl, (List.append_nil _).symm⟩
  | cons r rest ih =>
    have hrest := ih (s.reply r)
    refine ⟨hrest.connection, hrest.inbox, hrest.calls, ?_⟩
    rw [List.foldl_cons, hrest.replies]
    exact List.append_assoc ..

/-- The queue is emptied, and whoever waited in it gets an answer. -/
theorem alike_abandonInbox (s : Session) :
    Alike { s with inbox := [], replies := s.replies ++ s.inbox.filterMap Command.abandoned }
      s.abandonInbox :=
  alike_foldl_reply { s with inbox := [] } _

/-! ## Reactions -/

section

variable (s : Session) (i : Input)

/-- A reaction after which the connection goes on. -/
theorem react_running (h : (s.connection.step s.moment i).1.stopped = false) :
    Alike { s with
      connection := (s.connection.step s.moment i).1
      replies := s.replies ++ repliesOf (s.connection.step s.moment i).2 } (s.react i) := by
  have hdone := alike_foldl_carryOut { s with connection := (s.connection.step s.moment i).1 }
    (s.connection.step s.moment i).2
  unfold react
  dsimp only
  rw [h, if_neg Bool.false_ne_true]
  exact hdone

/-- A reaction after which the connection has stopped. -/
theorem react_stopped (h : (s.connection.step s.moment i).1.stopped = true) :
    Alike { s with
      connection := (s.connection.step s.moment i).1
      inbox := []
      replies := s.replies ++ repliesOf (s.connection.step s.moment i).2 ++
        s.inbox.filterMap Command.abandoned } (s.react i) := by
  have hdone := alike_foldl_carryOut { s with connection := (s.connection.step s.moment i).1 }
    (s.connection.step s.moment i).2
  have habandoned := alike_abandonInbox ((s.connection.step s.moment i).2.foldl carryOut
    { s with connection := (s.connection.step s.moment i).1 })
  unfold react
  dsimp only
  rw [h, if_pos rfl]
  refine ⟨habandoned.connection.trans hdone.connection, habandoned.inbox,
    habandoned.calls.trans hdone.calls, ?_⟩
  rw [habandoned.replies, hdone.replies, hdone.inbox]

theorem connection_react : (s.react i).connection = (s.connection.step s.moment i).1 := by
  cases h : (s.connection.step s.moment i).1.stopped with
  | false => exact (react_running s i h).connection
  | true => exact (react_stopped s i h).connection

end

/-! ## Inputs -/

/-- How the connection comes by its next input. -/
inductive Takes (s : Session) : Input → Session → Prop where
  /-- It takes the first command from the queue. -/
  | command {x : Command} {rest : List Command} (hinbox : s.inbox = x :: rest)
      (htaken : s.connection.taken? (.command x) = some x) :
      Takes s (.command x) { s with inbox := rest }
  /-- It takes anything else. -/
  | other {i : Input} {s' : Session} (hi : i.isCommand = false) (h : Alike s s') : Takes s i s'

/-- What is taken, if anything is, is taken in one of these ways. -/
def Yields (s : Session) (next : Option (Input × Session)) : Prop :=
  ∀ i s', next = some (i, s') → s.Takes i s'

section

variable {s : Session}

theorem yields_none : s.Yields none :=
  fun _ _ h => absurd h (Option.some_ne_none _).symm

theorem yields_some {i : Input} {s' : Session} (h : s.Takes i s') : s.Yields (some (i, s')) := by
  intro j s'' heq
  cases heq
  exact h

theorem Yields.orElse {a b : Option (Input × Session)} (ha : s.Yields a) (hb : s.Yields b) :
    s.Yields (a <|> b) := by
  cases a with
  | none => exact hb
  | some x => exact ha

theorem yields_takeTimer (at? : Option Nat) {i : Input} (hi : i.isCommand = false) :
    s.Yields (s.takeTimer at? i) := by
  unfold takeTimer
  split
  · exact yields_some (.other hi (.refl s))
  · exact yields_none

theorem yields_takeIncoming (socket : SocketNumber) : s.Yields (s.takeIncoming socket) := by
  unfold takeIncoming
  cases s.network.receive? socket with
  | none => exact yields_none
  | some x => exact yields_some (.other rfl ⟨rfl, rfl, rfl, rfl⟩)

theorem yields_takeOpened : s.Yields s.takeOpened := by
  unfold takeOpened
  split
  · exact yields_none
  · split
    · exact yields_some (.other rfl ⟨rfl, rfl, rfl, rfl⟩)
    · exact yields_none

theorem yields_takeCommand (hr : s.connection.stopped = false) (hd : ¬s.connection.AttemptDue) :
    s.Yields s.takeCommand := by
  unfold takeCommand
  split
  · rename_i x rest hinbox
    exact yields_some (.command hinbox (Connection.taken?_command hr hd x))
  · split
    · exact yields_none
    · exact yields_some (.other rfl (.refl s))

theorem yields_takeOfAttempt (a : Attempt) : s.Yields (s.takeOfAttempt a) := by
  cases a with
  | ready token => exact yields_some (.other rfl (.refl s))
  | opening deadline => exact yields_takeOpened.orElse (yields_takeTimer _ rfl)
  | handshaking socket deadline =>
    exact (yields_takeIncoming socket).orElse (yields_takeTimer _ rfl)

/-- Before a retry a command is taken first. -/
theorem yields_backoff (hr : s.connection.stopped = false)
    (hretry : s.connection.retryAt.isSome = true) :
    s.Yields (s.takeCommand <|> s.takeTimer s.connection.retryAt .retryDue) := by
  have hd : ¬s.connection.AttemptDue := fun hd => by simp [hd.2.1] at hretry
  exact (yields_takeCommand hr hd).orElse (yields_takeTimer _ rfl)

/-- During an attempt too. -/
theorem yields_attempt (hr : s.connection.stopped = false) {a : Attempt}
    (ha : s.connection.attempt = some a) : s.Yields (s.takeCommand <|> s.takeOfAttempt a) := by
  have hd : ¬s.connection.AttemptDue := fun hd => by simp [hd.2.2] at ha
  exact (yields_takeCommand hr hd).orElse (yields_takeOfAttempt a)

/-- The next input of the connection is taken in one of these ways: a command is taken only where
the connection takes it. -/
theorem takes_nextInput? {i : Input} {s' : Session} (h : s.nextInput? = some (i, s')) :
    s.Takes i s' := by
  suffices hyields : s.Yields s.nextInput? from hyields i s' h
  unfold nextInput?
  dsimp only
  split
  · exact yields_none
  rename_i hstopped
  have hr : s.connection.stopped = false := by simpa using hstopped
  have hsettled : ∀ {state}, s.connection.state = state →
      (state ≠ .connecting ∧ state ≠ .reconnecting) → ¬s.connection.AttemptDue := by
    rintro state hs ⟨hconnecting, hreconnecting⟩ ⟨hd | hd, -⟩
    · exact hconnecting (hs.symm.trans hd)
    · exact hreconnecting (hs.symm.trans hd)
  split
  · rename_i hs
    exact yields_takeCommand hr (hsettled hs (by decide))
  · rename_i hs
    exact yields_takeCommand hr (hsettled hs (by decide))
  · rename_i hs
    have hsocket : s.Yields (s.connection.socket.bind s.takeIncoming) := by
      cases s.connection.socket with
      | none => exact yields_none
      | some socket => exact yields_takeIncoming socket
    have hbeat : s.Yields (s.takeTimer s.connection.heartbeat.nextDeadline .heartbeatDue) :=
      yields_takeTimer _ rfl
    have hcommand := yields_takeCommand hr (hsettled hs (by decide))
    exact hbeat.orElse (hcommand.orElse (hsocket.orElse (yields_takeTimer _ rfl)))
  · split
    · rename_i hretry
      exact yields_backoff hr hretry
    · split
      · exact yields_some (.other rfl (.refl s))
      · rename_i hattempt
        exact yields_attempt hr hattempt
  · split
    · rename_i hretry
      exact yields_backoff hr hretry
    · split
      · exact yields_some (.other rfl (.refl s))
      · rename_i hattempt
        exact yields_attempt hr hattempt

end

end Session
end LiveSync
