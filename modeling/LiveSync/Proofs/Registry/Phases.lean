import LiveSync.Proofs.Registry.Access

/-!
# Entries with and without a connection

What an entry may look like depends on whether there is a connection.  Without one it is *queued*:
pending, not sent, with no deadline and nobody waiting for its release.  With one it is *carried*:
its request went out, and it has a deadline exactly while an acknowledgement is awaited that may
not take for ever.

* `Entry.Queued`, `Entry.Carried` — what an entry looks like without a connection and with one.
* `queued_demoteAll`, `carried_reissue` — losing and gaining a connection lead from one to the
  other.
* `ascending_subscribe`, … and `timeouts_subscribe`, … — no operation disturbs the order or
  changes the times that a request may take.
-/

namespace LiveSync

/-- An entry that waits for a connection. -/
structure Entry.Queued (e : Entry) : Prop where
  /-- It is asked for. -/
  pending : e.status = .pending
  /-- Its request did not go out. -/
  unsent : e.sent = false
  /-- No acknowledgement is awaited. -/
  untimed : e.deadline = none
  /-- Nobody waits for its release. -/
  unreleased : e.releasers = []

/-- An entry on a connection, where a subscribe request may take the time `s` and an unsubscribe
request the time `u`; zero means any time. -/
structure Entry.Carried (s u : Nat) (e : Entry) : Prop where
  /-- Its request went out. -/
  sent : e.sent = true
  /-- A subscription that is awaited has a deadline unless it may take any time. -/
  pending : e.status = .pending → (e.deadline.isSome ↔ s ≠ 0)
  /-- So has a release that is awaited. -/
  releasing : e.status = .releasing → (e.deadline.isSome ↔ u ≠ 0)
  /-- An acknowledged subscription has none. -/
  active : e.status = .active → e.deadline = none
  /-- Only a release that is awaited has callers who wait for it. -/
  unreleased : e.status ≠ .releasing → e.releasers = []

namespace Registry

theorem deadlineAfter_isSome_iff (now timeout : Nat) :
    (deadlineAfter now timeout).isSome ↔ timeout ≠ 0 := by
  by_cases h : timeout = 0 <;> simp [deadlineAfter, h]

/-- Every entry has a property. -/
def All (r : Registry) (P : Entry → Prop) : Prop :=
  ∀ p ∈ r.entries, P p.2

/-- The times that the two requests may take. -/
def timeouts (r : Registry) : Nat × Nat :=
  (r.subscribeTimeout, r.unsubscribeTimeout)

section

variable {r : Registry} {P : Entry → Prop}

theorem All.of_get? (h : r.All P) {id : String} {e : Entry} (hg : r.get? id = some e) : P e :=
  h (id, e) (mem_of_get? hg)

theorem All.put (h : r.All P) (id : String) {e : Entry} (he : P e) : (r.put id e).All P := by
  intro p hp
  rcases mem_put hp with rfl | hp
  · exact he
  · exact h p hp

theorem All.drop (h : r.All P) (id : String) : (r.drop id).All P :=
  fun p hp => h p (mem_drop hp)

end

/-! ## From one to the other -/

/-- Losing the connection leaves every entry queued. -/
theorem queued_demoteAll {r : Registry}
    (h : r.All fun e => e.status ≠ .releasing → e.releasers = []) :
    r.demoteAll.2.All Entry.Queued := by
  intro p hp
  obtain ⟨q, hq, rfl⟩ := List.mem_map.1 hp
  obtain ⟨hm, hs⟩ := List.mem_filter.1 hq
  exact ⟨rfl, rfl, rfl, h q hm (by simpa using hs)⟩

/-- A new connection carries every entry that was queued. -/
theorem carried_reissue {r : Registry} (h : r.All Entry.Queued) (now : Nat) :
    (r.reissue now).2.All (Entry.Carried r.subscribeTimeout r.unsubscribeTimeout) := by
  intro p hp
  obtain ⟨q, hq, rfl⟩ := List.mem_map.1 hp
  have hq := h q hq
  have hunsent : q.2.isUnsent = true := by simp [Entry.isUnsent, hq.pending, hq.unsent]
  rw [if_pos hunsent]
  constructor
  case sent => rfl
  case pending => exact fun _ => deadlineAfter_isSome_iff now r.subscribeTimeout
  case releasing => exact fun hs => absurd (hq.pending.symm.trans hs) (by decide)
  case active => exact fun hs => absurd (hq.pending.symm.trans hs) (by decide)
  case unreleased => exact fun _ => hq.unreleased

/-! ## What no operation changes -/

section

variable {r : Registry} (h : r.Ascending)
include h

theorem ascending_subscribe (id : String) (ticket : Ticket) (now : Nat) (connected : Bool) :
    (r.subscribe id ticket now connected).2.2.Ascending := by
  unfold subscribe
  split
  · exact ascending_put h _ _
  · split
    · exact h
    · exact ascending_put h _ _
    · exact ascending_put h _ _

theorem ascending_unsubscribe (id : String) (ticket : Ticket) (now : Nat) (connected : Bool) :
    (r.unsubscribe id ticket now connected).2.2.Ascending := by
  unfold unsubscribe
  split
  · exact h
  · split
    · exact ascending_put h _ _
    · split
      · exact ascending_put h _ _
      · exact ascending_drop h _

theorem ascending_acknowledge (id : String) (watchers : List Json.Value) :
    (r.acknowledge id watchers).2.2.Ascending := by
  unfold acknowledge
  split
  · exact h
  · split
    · exact ascending_put h _ _
    · exact h

theorem ascending_reject (id why : String) : (r.reject id why).2.2.Ascending := by
  unfold reject
  split
  · exact h
  · split
    · exact ascending_drop h _
    · exact h

theorem ascending_release (id : String) : (r.release id).2.2.Ascending := by
  unfold release
  split
  · exact h
  · split
    · exact ascending_drop h _
    · exact h

theorem ascending_setWatchers (id : String) (watchers : List Json.Value) :
    (r.setWatchers id watchers).2.Ascending := by
  unfold setWatchers
  split
  · exact h
  · exact ascending_put h _ _

theorem ascending_expire (now : Nat) : (r.expire now).2.2.Ascending :=
  ascending_filter h _

theorem ascending_reissue (now : Nat) : (r.reissue now).2.Ascending :=
  ascending_map h fun p => by dsimp only; split <;> rfl

theorem ascending_demoteAll : r.demoteAll.2.Ascending :=
  ascending_map (ascending_filter h _) fun _ => rfl

theorem ascending_failSubscribers (f : Fault) : (r.failSubscribers f).2.Ascending :=
  ascending_map h fun _ => rfl

end

section

variable (r : Registry)

@[simp] theorem timeouts_subscribe (id : String) (ticket : Ticket) (now : Nat)
    (connected : Bool) : (r.subscribe id ticket now connected).2.2.timeouts = r.timeouts := by
  unfold subscribe
  split
  · rfl
  · split <;> rfl

@[simp] theorem timeouts_unsubscribe (id : String) (ticket : Ticket) (now : Nat)
    (connected : Bool) : (r.unsubscribe id ticket now connected).2.2.timeouts = r.timeouts := by
  unfold unsubscribe
  split
  · rfl
  · split
    · rfl
    · split <;> rfl

@[simp] theorem timeouts_acknowledge (id : String) (watchers : List Json.Value) :
    (r.acknowledge id watchers).2.2.timeouts = r.timeouts := by
  unfold acknowledge
  split
  · rfl
  · split <;> rfl

@[simp] theorem timeouts_reject (id why : String) :
    (r.reject id why).2.2.timeouts = r.timeouts := by
  unfold reject
  split
  · rfl
  · split <;> rfl

@[simp] theorem timeouts_release (id : String) : (r.release id).2.2.timeouts = r.timeouts := by
  unfold release
  split
  · rfl
  · split <;> rfl

@[simp] theorem timeouts_setWatchers (id : String) (watchers : List Json.Value) :
    (r.setWatchers id watchers).2.timeouts = r.timeouts := by
  unfold setWatchers
  split <;> rfl

end

end Registry
end LiveSync
