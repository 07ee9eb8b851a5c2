import Mathlib.Data.List.Induction
import LiveSync.Proofs.Connection.Strides
import LiveSync.Proofs.Heartbeat.Calls
import LiveSync.Proofs.Router.Histories

/-!
# Counters and machine words

The counters are numbers without an end here.  Each of them counts one thing at most for each step
of its owner, so a counter that is a machine word does the same as long as the word has a number for
every step.

* `Router.nextId_on_le`, `Stage.issued_history_le` — the ids of registrations, in a history.
* `Heartbeat.seq_run_le` — the numbers of pings, in a row of calls.
* `Connection.count_stride_le`, `Connection.attempt_run_le` — the retries since the last handshake,
  in a run.
* `counters_in_range` — the three together.
-/

namespace LiveSync

/-! ## The ids of registrations -/

section

variable {L : Type} [DecidableEq L]

theorem Router.nextId_on_le (r : Router L) (event : String) (listener : L) :
    (r.on event listener).2.nextId ≤ r.nextId + 1 := by
  cases hfind : (r.registrations event).find? (fun x => x.listener = listener) with
  | some reg =>
    rw [Router.on_known hfind]
    exact Nat.le_succ _
  | none => rw [Router.on_new hfind]

namespace Stage

omit [DecidableEq L] in
/-- How many ids were issued; a router that was dropped issues none. -/
def issued (s : Stage L) : Nat :=
  (s.router.map Router.nextId).getD 0

omit [DecidableEq L] in
theorem issued_releaseHandle (s : Stage L) (name : String) :
    (s.releaseHandle name).issued = s.issued := by
  unfold releaseHandle issued
  split
  · rfl
  · cases s.router <;> rfl

theorem issued_operate_le (s : Stage L) (op : RouterOp L) :
    (s.operate op).issued ≤ s.issued + 1 := by
  cases op with
  | on event listener name =>
    show (s.register event listener name).2.issued ≤ _
    unfold register
    split
    · exact Nat.le_succ _
    · rename_i r hr
      have hissued : s.issued = r.nextId := by simp [issued, hr]
      rw [hissued]
      show (releaseHandle _ name).issued ≤ _
      rw [issued_releaseHandle]
      exact r.nextId_on_le event listener
  | off event listener =>
    obtain ⟨router, handles, calls⟩ := s
    cases router <;> exact Nat.le_succ _
  | clear =>
    obtain ⟨router, handles, calls⟩ := s
    cases router <;> exact Nat.le_succ _
  | drop name =>
    show (s.releaseHandle name).issued ≤ _
    rw [issued_releaseHandle]
    exact Nat.le_succ _
  | detach name => exact Nat.le_succ _

/-- **One id for each operation** at most. -/
theorem issued_history_le (ops : List (RouterOp L)) : (history ops).issued ≤ ops.length := by
  induction ops using List.reverseRecOn with
  | nil => exact Nat.le_refl 0
  | append_singleton ops op ih =>
    have hlast := issued_operate_le (history ops) op
    rw [history_append, List.length_append]
    exact Nat.le_trans hlast (Nat.add_le_add_right ih 1)

end Stage

end

/-! ## The numbers of pings -/

namespace Heartbeat

theorem seq_comes_le {h h' : Heartbeat} {now : Nat} {c : Call} {e : Event}
    (hc : Comes h now c e h') : h'.seq ≤ h.seq + 1 := by
  cases hc with
  | start | decline | stop => exact Nat.le_succ _
  | poll hp =>
    cases hp with
    | send => exact Nat.le_refl _
    | off | early | skip | expire => exact Nat.le_succ _
  | pong ht => cases ht <;> exact Nat.le_succ _

/-- **One number for each call** at most. -/
theorem seq_run_le (h : Heartbeat) (calls : List (Nat × Call)) :
    (h.run calls).2.seq ≤ h.seq + calls.length := by
  induction calls generalizing h with
  | nil => exact Nat.le_refl _
  | cons first rest ih =>
    have hfirst := seq_comes_le (comes_call h first.1 first.2)
    have hrest := ih (h.call first.1 first.2).2
    rw [List.length_cons]
    show ((h.call first.1 first.2).2.run rest).2.seq ≤ _
    omega

end Heartbeat

/-! ## The retries -/

namespace Pace

variable {options : Options} {p after : Pace} {told : List Effect}

/-- Giving up counts one retry at most. -/
theorem Sequel.count_le (h : p.Sequel options after told) : after.count ≤ p.count + 1 := by
  cases h with
  | withdrawn | spent => exact Nat.le_succ _
  | retried => exact Nat.le_refl _

theorem Onward.count_le (h : p.Onward options after told) : after.count ≤ p.count + 1 := by
  cases h with
  | stays => exact Nat.le_succ _
  | quits _ h => exact h.count_le

end Pace

namespace Connection

/-- A stride counts one retry at most. -/
theorem count_stride_le {c c' : Connection} {m : Moment} {i : Input} {told : List Effect}
    (h : c.Stride m i c' told) : c'.pace.count ≤ c.pace.count + 1 := by
  have hstays : ∀ {p : Pace}, c'.pace = p → p.count = c.pace.count →
      c'.pace.count ≤ c.pace.count + 1 := fun hpace hcount => by rw [hpace, hcount]; omega
  cases h with
  | calm _ hpace => exact hstays hpace rfl
  | abandoned h | refused _ _ _ h =>
    obtain ⟨_, _, _, _, hsequel⟩ := h.signals
    exact hsequel.count_le
  | passed _ _ h => exact hstays h.pace rfl
  | started _ h =>
    rw [h.pace]
    exact Nat.zero_le _
  | waited _ hpace | begun _ _ hpace | dialled _ _ hpace | opened _ _ hpace =>
    exact hstays hpace rfl
  | greeted _ _ h =>
    obtain ⟨_, _, _, _, honward⟩ := h.signals
    exact Nat.le_trans honward.count_le (Nat.succ_le_succ (Nat.zero_le _))

/-- **One retry for each input** at most. -/
theorem attempt_run_le {c : Connection} (h : c.Ready) (inputs : List (Moment × Input)) :
    (c.run inputs).1.snapshot.attempt ≤ c.snapshot.attempt + inputs.length := by
  induction inputs generalizing c with
  | nil => exact Nat.le_refl _
  | cons first rest ih =>
    obtain ⟨m, i⟩ := first
    have hfirst : (c.step m i).1.snapshot.attempt ≤ c.snapshot.attempt + 1 :=
      count_stride_le (stride_step h m i)
    have hrest := ih (ready_step h m i)
    rw [List.length_cons]
    show ((c.step m i).1.run rest).1.snapshot.attempt ≤ _
    omega

end Connection

/-- **The counters fit their words**: 64 bits for the ids of registrations and the numbers of pings,
and 32 bits for the retries, as long as there are fewer steps than the word has numbers. -/
theorem counters_in_range {L : Type} [DecidableEq L] (config : Config)
    (interval pongTimeout : Nat) :
    (∀ ops : List (RouterOp L), ops.length < UInt64.size →
      (Stage.history ops).issued < UInt64.size) ∧
    (∀ calls, calls.length < UInt64.size →
      ((Heartbeat.new interval pongTimeout).run calls).2.seq < UInt64.size) ∧
    ∀ inputs, inputs.length < UInt32.size →
      ((Connection.new config).run inputs).1.snapshot.attempt < UInt32.size := by
  refine ⟨fun ops hops => ?_, fun calls hcalls => ?_, fun inputs hinputs => ?_⟩
  · exact Nat.lt_of_le_of_lt (Stage.issued_history_le ops) hops
  · have hseq := (Heartbeat.new interval pongTimeout).seq_run_le calls
    exact Nat.lt_of_le_of_lt hseq (by simpa [Heartbeat.new] using hcalls)
  · have hattempt := Connection.attempt_run_le (Connection.ready_new config) inputs
    exact Nat.lt_of_le_of_lt hattempt (by simpa [Connection.new] using hinputs)

end LiveSync
