import LiveSync.Proofs.TokenMonitor.Turns

/-!
# The commands of a token monitor

The adopted token stays in step with the last command: there is one exactly while the last command
asked for a connection.  So the end of a connection is only ever asked for after a connection.

* `Post.InStep`, `Post.inStep_after` — the adopted token and the last command.
* `Post.Orderly`, `Post.orderly_sent` — no end without a connection before it.
* `Post.sent_of_absent`, `Post.sent_of_clientGone` — silence after the end.
* `commands_well_formed` — all of it, with the moments at which commands are sent.
-/

namespace LiveSync
namespace TokenMonitor
namespace Post

/-! ## The adopted token and the last command -/

/-- A token is adopted exactly if the last command asked for a connection. -/
def InStep (p : Post) (log : List MonitorRequest) : Prop :=
  ∀ m, p.monitor? = some m → (m.current.isSome = true ↔ log.getLast? = some .connect)

theorem inStep_atWork (period settleDelay begun : Nat) :
    InStep (atWork period settleDelay begun) [] := by
  intro m hmonitor
  obtain rfl := Option.some.inj hmonitor
  simp [start]

theorem InStep.take {p : Post} {log : List MonitorRequest} (h : p.InStep log) (o : Occasion) :
    (p.take o).2.InStep (log ++ (p.take o).1.toList) := by
  have ht := takes_take p o
  generalize (p.take o).1 = r at ht
  generalize (p.take o).2 = q at ht
  intro m' hm'
  cases ht with
  | absent hmonitor => exact absurd (hmonitor.symm.trans hm') nofun
  | silent hmonitor ha =>
    obtain rfl := Option.some.inj hm'
    rw [ha.current_eq]
    simpa using h _ hmonitor
  | @sends m _ now seen checked request hmonitor ha hclient =>
    obtain rfl := Option.some.inj hm'
    rw [ha.current_eq]
    cases request with
    | connect =>
      obtain ⟨-, t, hchecked⟩ := ha.eq_connect_iff.1 rfl
      simp [hchecked]
    | disconnect => simp
  | ends => exact absurd hm' nofun
  | clientGone => simpa using h m' hm'
  | stop => exact absurd hm' nofun

/-- **The adopted token stays in step** with what is sent. -/
theorem InStep.after {p : Post} {log : List MonitorRequest} (h : p.InStep log)
    (history : List Occasion) : (p.after history).InStep (log ++ p.sent history) := by
  induction history generalizing p log with
  | nil => simpa [Post.after, sent] using h
  | cons o rest ih => simpa [Post.after, sent] using ih (h.take o)

theorem inStep_after (period settleDelay begun : Nat) (history : List Occasion) :
    ((atWork period settleDelay begun).after history).InStep
      ((atWork period settleDelay begun).sent history) :=
  (inStep_atWork period settleDelay begun).after history

/-! ## The order of the commands -/

/-- The end of a connection is only asked for directly after a connection. -/
def Orderly (log : List MonitorRequest) : Prop :=
  ∀ before after, log = before ++ .disconnect :: after → before.getLast? = some .connect

theorem Orderly.concat {log : List MonitorRequest} (h : Orderly log) {r : MonitorRequest}
    (hr : r = .disconnect → log.getLast? = some .connect) : Orderly (log ++ [r]) := by
  intro before after heq
  rcases List.eq_nil_or_concat after with rfl | ⟨rest, last, rfl⟩
  · obtain ⟨rfl, hlast⟩ := List.append_inj' heq rfl
    exact hr (List.head_eq_of_cons_eq hlast)
  · rw [List.concat_eq_append, ← List.cons_append, ← List.append_assoc] at heq
    exact h before rest (List.append_inj' heq rfl).1

theorem Orderly.take {p : Post} {log : List MonitorRequest} (h : Orderly log)
    (hstep : p.InStep log) (o : Occasion) : Orderly (log ++ (p.take o).1.toList) := by
  cases hr : (p.take o).1 with
  | none => simpa using h
  | some r =>
    refine h.concat fun hdisconnect => ?_
    -- only a monitor that has adopted a token asks for the end of the connection
    obtain ⟨-, -, hadopted⟩ := take_eq_disconnect_iff.1 (hdisconnect ▸ hr)
    obtain ⟨t, hadopted⟩ := Option.ne_none_iff_exists'.1 hadopted
    obtain ⟨m, hmonitor, hcurrent⟩ := Option.bind_eq_some_iff.1 hadopted
    exact (hstep m hmonitor).1 (Option.isSome_of_eq_some hcurrent)

theorem Orderly.sent {p : Post} {log : List MonitorRequest} (h : Orderly log)
    (hstep : p.InStep log) (history : List Occasion) : Orderly (log ++ p.sent history) := by
  induction history generalizing p log with
  | nil => simpa [Post.sent] using h
  | cons o rest ih => simpa [Post.sent] using ih (h.take hstep o) (hstep.take o)

theorem orderly_sent (period settleDelay begun : Nat) (history : List Occasion) :
    Orderly ((atWork period settleDelay begun).sent history) :=
  Orderly.sent (by simp [Orderly]) (inStep_atWork period settleDelay begun) history

/-! ## Silence -/

/-- A monitor that came to its end sends nothing. -/
theorem sent_of_absent {p : Post} (hmonitor : p.monitor? = none) (history : List Occasion) :
    p.sent history = [] := by
  refine sent_of_silent (P := fun q => q.monitor? = none) (fun {q o} hnone _ => ?_) hmonitor
  have ht := takes_take q o
  generalize (q.take o).1 = r at ht ⊢
  generalize (q.take o).2 = q' at ht ⊢
  cases ht with
  | absent => exact ⟨rfl, hnone⟩
  | silent hsome => exact absurd (hsome.symm.trans hnone) (Option.some_ne_none _)
  | sends hsome => exact absurd (hsome.symm.trans hnone) (Option.some_ne_none _)
  | ends => exact ⟨rfl, rfl⟩
  | clientGone => exact ⟨rfl, hnone⟩
  | stop => exact ⟨rfl, rfl⟩

/-- Once the client is gone nothing is sent. -/
theorem sent_of_clientGone {p : Post} (hclient : p.clientHere = false)
    (history : List Occasion) : p.sent history = [] := by
  refine sent_of_silent (P := fun q => q.clientHere = false) (fun {q o} hgone _ => ?_) hclient
  have ht := takes_take q o
  generalize (q.take o).1 = r at ht ⊢
  generalize (q.take o).2 = q' at ht ⊢
  cases ht with
  | sends _ _ hhere => exact absurd (hgone.symm.trans hhere) Bool.false_ne_true
  | clientGone => exact ⟨rfl, rfl⟩
  | _ => exact ⟨rfl, hgone⟩

end Post

/-! ## The result -/

open Post

/-- **The commands of a token monitor are well-formed**, whatever the credential store holds at any
moment and whatever happens.  The end of a connection is only ever asked for directly after a
connection.  A connection is asked for exactly when a second look finds a usable token, the end of
one exactly when a poll finds none and one was adopted, and either only while the client is there.
Once the monitor is told to stop, or the client is gone, nothing is sent. -/
theorem commands_well_formed (period settleDelay begun : Nat) (history : List Occasion) :
    let start := atWork period settleDelay begun
    let p := start.after history
    (∀ before after, start.sent history = before ++ .disconnect :: after →
      before.getLast? = some .connect) ∧
    (∀ o, (p.take o).1 = some .connect ↔ p.clientHere = true ∧ ∃ t, p.Checks o (some t)) ∧
    (∀ o, (p.take o).1 = some .disconnect ↔
      p.clientHere = true ∧ p.Polls o none ∧ p.adopted ≠ none) ∧
    (∀ later, start.sent (history ++ .stop :: later) = start.sent history) ∧
    ∀ later, start.sent (history ++ .clientGone :: later) = start.sent history := by
  refine ⟨orderly_sent period settleDelay begun history, fun o => take_eq_connect_iff,
    fun o => take_eq_disconnect_iff, fun later => ?_, fun later => ?_⟩
  · rw [sent_append]
    simp [sent, take, sent_of_absent]
  · rw [sent_append]
    simp [sent, take, sent_of_clientGone]

/-- A token is there, another one follows, and then there is none. -/
def visit : List Occasion :=
  [.turn 0 ⟨some "first", 0⟩ ⟨some "first", 0⟩,
   .turn (Span.ofMillis 200) ⟨some "first", 0⟩ ⟨some "first", 0⟩,
   .turn (Span.ofMillis 1000) ⟨some "second", 0⟩ ⟨some "second", 0⟩,
   .turn (Span.ofMillis 1200) ⟨some "second", 0⟩ ⟨some "second", 0⟩,
   .turn (Span.ofMillis 2000) ⟨none, 0⟩ ⟨none, 0⟩]

/-- Both tokens are presented, and the end comes after the second one. -/
theorem commands_well_formed_visit :
    (atWork (Span.ofMillis 1000) (Span.ofMillis 200) 0).sent visit =
      [.connect, .connect] ++ .disconnect :: [] ∧
    [MonitorRequest.connect, .connect].getLast? = some .connect := by
  have hsent : (atWork (Span.ofMillis 1000) (Span.ofMillis 200) 0).sent visit =
      [.connect, .connect] ++ .disconnect :: [] := by decide +kernel
  exact ⟨hsent, (commands_well_formed _ _ _ visit).1 _ _ hsent⟩

end TokenMonitor
end LiveSync
