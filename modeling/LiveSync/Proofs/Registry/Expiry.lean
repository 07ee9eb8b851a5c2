import LiveSync.Proofs.Registry.Callers
import LiveSync.Proofs.Registry.Entries

/-!
# What is given up

Giving up what is overdue takes out the entries whose deadline has come, and nothing else: they are
named, their callers are told why, and every other entry is as it was.  What is active, or waits for
a connection, has no deadline and stays however late it is.

* `Entry.Due`, `mem_overdue` — what is due is named, with the request that is awaited.
* `get?_expire_eq_some_iff` — what is not due stays.
* `failures_expire` — who is told, and what.
* `Entry.Timed.not_due` — what has no deadline is never due.
* `expire_exact` — all of this, after every history.
-/

namespace LiveSync

/-- Who is answered, and with which fault. -/
def failures (replies : List Reply) : List (Caller × Option Fault) :=
  replies.map fun reply => ((reply.1, reply.2.kind), reply.2.fault?)

@[simp] theorem failures_append (a b : List Reply) :
    failures (a ++ b) = failures a ++ failures b :=
  List.map_append

theorem failures_flatMap {α : Type} (l : List α) (f : α → List Reply) :
    failures (l.flatMap f) = l.flatMap fun a => failures (f a) :=
  List.map_flatMap

namespace Entry

/-- The deadline has come. -/
def Due (now : Nat) (e : Entry) : Prop :=
  ∃ due, e.deadline = some due ∧ due ≤ now

theorem due_iff_isOverdue {now : Nat} {e : Entry} : e.Due now ↔ e.isOverdue now = true := by
  simp [Due, isOverdue, Option.any_eq_true]

/-- What is not awaited from the server is never due. -/
theorem Timed.not_due {e : Entry} (ht : e.Timed) (h : e.status = .active ∨ e.isUnsent = true)
    (now : Nat) : ¬e.Due now := by
  have hnone : e.deadline = none := h.elim ht.active ht.unsent
  rintro ⟨due, hdue, -⟩
  exact absurd (hnone.symm.trans hdue) nofun

/-- All callers of an entry are told that its request is overdue. -/
theorem failures_tellOverdue (id : String) (e : Entry) :
    failures (Registry.tellOverdue id e) =
      e.callers.map fun c => (c, some (.subscriptionTimeout id e.operation)) := by
  simp [Registry.tellOverdue, failures, tellSubscribers, tellReleasers, callers, Function.comp_def,
    Answer.kind, Answer.fault?]

end Entry

namespace Registry

section

variable {r : Registry} (h : r.Ascending) {now : Nat}
include h

/-- The entities that are given up, each with the request that was awaited. -/
theorem mem_overdue {id : String} {op : Operation} :
    (id, op) ∈ r.overdue now ↔ ∃ e, r.get? id = some e ∧ e.Due now ∧ op = e.operation := by
  simp only [overdue, List.mem_map, List.mem_filter, Prod.mk.injEq]
  constructor
  · rintro ⟨⟨key, e⟩, ⟨hmem, hdue⟩, rfl, rfl⟩
    exact ⟨e, get?_of_mem h hmem, Entry.due_iff_isOverdue.2 hdue, rfl⟩
  · rintro ⟨e, hg, hdue, rfl⟩
    exact ⟨(id, e), ⟨mem_of_get? hg, Entry.due_iff_isOverdue.1 hdue⟩, rfl, rfl⟩

/-- No entity is given up twice. -/
theorem nodup_overdue : ((r.overdue now).map (·.1)).Nodup := by
  have hkeys : (r.overdue now).map (·.1) =
      (r.entries.filter fun p => p.2.isOverdue now).map (·.1) := by
    simp [overdue, Function.comp_def]
  rw [hkeys]
  exact h.nodup_filter _

/-- What is not due stays as it is, and nothing else stays. -/
theorem get?_expire_eq_some_iff {id : String} {e : Entry} :
    (r.expire now).2.2.get? id = some e ↔ r.get? id = some e ∧ ¬e.Due now := by
  rw [get?_expire h, Option.filter_eq_some_iff, Entry.due_iff_isOverdue]
  simp

/-- The callers of what is given up, and nobody else, are told why. -/
theorem failures_expire :
    failures (r.expire now).2.1 = (r.expire now).1.flatMap fun p =>
      (r.callersOf p.1).map fun c => (c, some (.subscriptionTimeout p.1 p.2)) := by
  simp only [expire, overdue, failures_flatMap, List.flatMap_map]
  refine List.flatMap_congr ?_
  rintro ⟨id, e⟩ hp
  have hg := get?_of_mem h (List.mem_filter.1 hp).1
  rw [Entry.failures_tellOverdue, callersOf_of_get? hg]

end

/-- What is active, or waits for a connection, is not given up however late it is. -/
theorem kept_of_timed {r : Registry} (h : r.Ascending) (ht : r.All Entry.Timed) {id : String}
    {e : Entry} (hg : r.get? id = some e) (hs : e.status = .active ∨ e.isUnsent = true)
    (now : Nat) :
    id ∉ (r.expire now).1.map (·.1) ∧ (r.expire now).2.2.get? id = some e := by
  have hnot : ¬e.Due now := (ht.of_get? hg).not_due hs now
  refine ⟨?_, (get?_expire_eq_some_iff h).2 ⟨hg, hnot⟩⟩
  intro hmem
  obtain ⟨⟨key, op⟩, hp, rfl⟩ := List.mem_map.1 hmem
  obtain ⟨e', hg', hdue, -⟩ := (mem_overdue h).1 hp
  rw [Option.some.inj (hg.symm.trans hg')] at hnot
  exact hnot hdue

/-- **Exactly what is due is given up.**  After every history of a registry that was just built, and
at every time: the entities whose deadline has come are named once each, with the request to
unsubscribe if they were being released and with the request to subscribe if not; every caller that
waits for one of them is told that this request for it is overdue, and nobody else is told
anything; their entries are gone and all others are as they were.  What is active, or waits for a
connection, is never given up, however late it is. -/
theorem expire_exact (subscribeTimeout unsubscribeTimeout : Nat) (xs : List Change) (now : Nat) :
    let r := ((Registry.new subscribeTimeout unsubscribeTimeout).applyAll xs).2
    let (named, replies, after) := r.expire now
    (named.map (·.1)).Nodup ∧
    (∀ id op, (id, op) ∈ named ↔ ∃ e, r.get? id = some e ∧
      (∃ due, e.deadline = some due ∧ due ≤ now) ∧
      op = if e.status = .releasing then .unsubscribe else .subscribe) ∧
    (failures replies = named.flatMap fun p =>
      (r.callersOf p.1).map fun c => (c, some (.subscriptionTimeout p.1 p.2))) ∧
    (∀ id e, after.get? id = some e ↔
      r.get? id = some e ∧ ¬∃ due, e.deadline = some due ∧ due ≤ now) ∧
    ∀ id e, r.get? id = some e → e.status = .active ∨ (e.status = .pending ∧ e.sent = false) →
      ∀ late, id ∉ (r.expire late).1.map (·.1) ∧ (r.expire late).2.2.get? id = some e := by
  intro r
  have hasc : r.Ascending := ascending_applyAll (ascending_new ..) xs
  have htimed : r.All Entry.Timed :=
    timed_applyAll (r := Registry.new subscribeTimeout unsubscribeTimeout) nofun xs
  refine ⟨nodup_overdue hasc, ?_, failures_expire hasc, ?_, ?_⟩
  · intro id op
    exact mem_overdue hasc
  · intro id e
    exact get?_expire_eq_some_iff hasc
  · intro id e hg hs late
    refine kept_of_timed hasc htimed hg (hs.imp_right ?_) late
    rintro ⟨hpending, hsent⟩
    simp [Entry.isUnsent, hpending, hsent]

/-- A subscription and a release are overdue.  Beside them one entity is active, one was asked for
later, and one waits for a connection: that one is never given up. -/
theorem expire_exact_two_of_five :
    let xs : List Change := [.subscribe "A" 0 0 true, .subscribe "B" 1 0 true, .acknowledge "B" [],
      .unsubscribe "B" 2 0 true, .subscribe "C" 3 0 true, .acknowledge "C" [],
      .subscribe "D" 4 5 true, .subscribe "E" 5 0 false]
    let r := ((Registry.new 10 10).applyAll xs).2
    (r.expire 10).1 = [("A", .subscribe), ("B", .unsubscribe)] ∧
    (r.expire 10).2.1 = [(0, .subscribed (.error (.subscriptionTimeout "A" .subscribe))),
      (2, .unsubscribed (.error (.subscriptionTimeout "B" .unsubscribe)))] ∧
    (r.expire 10).2.2.entries.map (·.1) = ["C", "D", "E"] ∧
    ∀ late, "E" ∉ (r.expire late).1.map (·.1) := by
  intro xs r
  refine ⟨rfl, rfl, rfl, ?_⟩
  intro late
  obtain ⟨-, -, -, -, hkept⟩ := expire_exact 10 10 xs 10
  exact (hkept "E" _ rfl (Or.inr ⟨rfl, rfl⟩) late).1

end Registry
end LiveSync
