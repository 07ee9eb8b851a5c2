import LiveSync.Proofs.TokenMonitor.Turns
import LiveSync.Session.Client
import LiveSync.Session.Run

/-!
# The monitor of a session

A session gives its token monitor turns and sends what it asks for.  What the monitor does in them
is what it does at its post, so all that is proved of a monitor at its post holds in every session.

* `Session.post` — the post of the monitor in a session.
* `Session.post_startMonitor`, `Session.post_stopMonitor` — how it begins and ends.
* `Session.works_runMonitor` — a turn in a session is a row of turns at the post.
-/

namespace LiveSync

open TokenMonitor

/-- The command that a request of the monitor is sent as. -/
def MonitorRequest.command : MonitorRequest → Command
  | .connect => .connect
  | .disconnect => .disconnect

/-- The post of a watch, with a client that takes commands or does not. -/
def Watch.post (w : Watch) (clientHere : Bool) : Post :=
  ⟨if w.running then some w.monitor else none, clientHere⟩

namespace Session

/-- Does the connection take commands? -/
def hears (s : Session) : Bool :=
  s.commandsOpen && !s.isStopped

/-- The monitor of a session at its post. -/
def post (s : Session) : Post :=
  match s.watch with
  | some w => w.post s.hears
  | none => ⟨none, s.hears⟩

theorem wake_eq (s : Session) (t : Task) : ∃ ready, s.wake t = { s with ready := ready } := by
  unfold wake
  split
  · exact ⟨s.ready, rfl⟩
  · exact ⟨_, rfl⟩

theorem post_startMonitor (s : Session) : s.startMonitor.post =
    { Post.atWork s.connection.config.timeouts.tokenPoll s.connection.config.timeouts.tokenSettle
        s.now with clientHere := s.hears } := by
  let t := s.connection.config.timeouts
  let w : Watch :=
    { monitor := TokenMonitor.start t.tokenPoll t.tokenSettle s.now, stamp := 0 }
  obtain ⟨ready, hwake⟩ := wake_eq { s with watch := some w } .monitor
  have hstart : s.startMonitor = Session.wake { s with watch := some w } .monitor := rfl
  rw [hstart, hwake]
  rfl

theorem post_stopMonitor (s : Session) : s.stopMonitor.2.post = (s.post.take .stop).2 := by
  unfold post
  cases s.watch <;> rfl

/-- What is asked for waits in the queue, or the monitor comes to its end. -/
theorem obey_cases (s : Session) (w : Watch) (r : MonitorRequest) :
    (s.hears = true ∧ ∃ ready, s.obey w r =
      (w, { s with inbox := s.inbox ++ [r.command], ready := ready })) ∨
    s.hears = false ∧ s.obey w r = ({ w with running := false }, s) := by
  unfold obey hears
  split
  · rename_i hhears
    refine .inl ⟨hhears, ?_⟩
    cases r with
    | connect =>
      obtain ⟨ready, hwake⟩ := wake_eq { s with inbox := s.inbox ++ [.connect] } .connection
      exact ⟨ready, congrArg (w, ·) hwake⟩
    | disconnect =>
      obtain ⟨ready, hwake⟩ := wake_eq { s with inbox := s.inbox ++ [.disconnect] } .connection
      exact ⟨ready, congrArg (w, ·) hwake⟩
  · rename_i hdeaf
    exact .inr ⟨Bool.eq_false_iff.2 hdeaf, rfl⟩

/-- A row of turns at one instant. -/
def turns (s : Session) (n : Nat) : List Occasion :=
  List.replicate n (.turn s.now s.reading s.reading)

/-- What a row of turns makes of a session whose monitor is at this post: the monitor is where they
bring it, and what it sends waits in the queue. -/
def Works (s : Session) (p : Post) (n : Nat) (s' : Session) : Prop :=
  s'.post = p.after (s.turns n) ∧
    s'.inbox = s.inbox ++ (p.sent (s.turns n)).map MonitorRequest.command

theorem works_zero {s s' : Session} {p : Post} (hpost : s'.post = p) (hinbox : s'.inbox = s.inbox) :
    s.Works p 0 s' :=
  ⟨hpost, by simp [hinbox, turns, Post.sent]⟩

/-- One turn more before the others. -/
theorem Works.cons {s t s' : Session} {p q : Post} {r : Option MonitorRequest} {n : Nat}
    (h : t.Works q n s') (htake : p.take (.turn s.now s.reading s.reading) = (r, q))
    (hturns : t.turns n = s.turns n)
    (hinbox : t.inbox = s.inbox ++ r.toList.map MonitorRequest.command) :
    s.Works p (n + 1) s' := by
  have hcons : s.turns (n + 1) = .turn s.now s.reading s.reading :: s.turns n := rfl
  obtain ⟨hpost, hqueue⟩ := h
  rw [hturns] at hpost hqueue
  constructor
  · rw [hpost, hcons, Post.after, Post.after, List.foldl_cons, htake]
  · rw [hqueue, hinbox, hcons, Post.sent, htake, List.map_append, List.append_assoc]

theorem works_runWatch (stamp limit : Nat) (w : Watch) (s : Session) :
    ∃ n, s.Works (w.post s.hears) n (runWatch stamp limit w s) := by
  induction limit generalizing w s with
  | zero => exact ⟨0, works_zero rfl rfl⟩
  | succ limit ih =>
    unfold runWatch
    split
    · rename_i hdue
      have hrunning : w.running = true := by
        simp only [Bool.and_eq_true] at hdue
        exact hdue.1
      dsimp only
      cases hpoll : w.monitor.poll s.now s.reading s.reading with
      | mk request m =>
        let w' : Watch := { w with monitor := m, stamp := stamp }
        cases request with
        | none =>
          obtain ⟨n, hworks⟩ := ih w' s
          refine ⟨n + 1, hworks.cons (r := none) ?_ rfl (by simp)⟩
          simp [w', Post.take, Watch.post, hrunning, hpoll]
        | some r =>
          change ∃ n, s.Works _ n (runWatch stamp limit (s.obey w' r).1 (s.obey w' r).2)
          rcases s.obey_cases w' r with ⟨hhears, ready, hobey⟩ | ⟨hdeaf, hobey⟩
          · let t : Session := { s with inbox := s.inbox ++ [r.command], ready := ready }
            obtain ⟨n, hworks⟩ := ih w' t
            have hsame : t.hears = true := hhears
            rw [hsame] at hworks
            refine ⟨n + 1, ?_⟩
            rw [hobey]
            refine hworks.cons (r := some r) ?_ rfl rfl
            simp [w', Post.take, Watch.post, hrunning, hhears, hpoll]
          · obtain ⟨n, hworks⟩ := ih { w' with running := false } s
            refine ⟨n + 1, ?_⟩
            rw [hobey]
            refine hworks.cons (r := none) ?_ rfl (by simp)
            simp [Post.take, Watch.post, hrunning, hdeaf, hpoll]
    · exact ⟨0, works_zero rfl rfl⟩

/-- **A turn of the monitor in a session** is a row of turns at its post, all at one instant and
with one reading of the credential store, and what the monitor sends in them waits in the queue. -/
theorem works_runMonitor (s : Session) : ∃ n, s.Works s.post n s.runMonitor := by
  cases hwatch : s.watch with
  | none =>
    have hidle : s.runMonitor = s := by rw [runMonitor, hwatch]
    rw [hidle]
    exact ⟨0, works_zero rfl rfl⟩
  | some w =>
    have hruns : s.runMonitor =
        runWatch s.armed turnLimit w { s with armed := s.armed + 1 } := by rw [runMonitor, hwatch]
    have hpost : s.post = w.post s.hears := by rw [post, hwatch]
    rw [hruns, hpost]
    exact works_runWatch s.armed turnLimit w { s with armed := s.armed + 1 }

end Session
end LiveSync
