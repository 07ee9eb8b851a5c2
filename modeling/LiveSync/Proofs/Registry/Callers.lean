import LiveSync.Proofs.Registry.Entries
import Mathlib.Data.List.Nodup
import Mathlib.Data.List.Perm.Basic

/-!
# No caller is lost

A caller that is handed to the registry is answered, or it waits in an entry.  The answers given
and the callers that wait are together a permutation of the callers handed in, after every history:
nobody is answered twice, nobody is dropped, and nobody is answered who did not call.

What makes it true is that an entry is *tidy*: only a pending entry has callers that wait to be
subscribed, and exactly those entries that are being released have callers that wait for it.  So
whoever drops an entry has to answer one of its two lists only.

* `tidy_of_leaves`, `tidy_applyAll` — every history leaves tidy entries.
* `balanced_apply`, `perm_applyAll` — callers are neither lost nor made up.
* `every_caller_accounted` — what that means for one caller.
-/

namespace LiveSync

/-! ## Callers -/

/-- The kinds of calls. -/
inductive CallKind where
  /-- To be subscribed. -/
  | subscribe
  /-- To have a subscription released. -/
  | unsubscribe
  /-- To have an event sent. -/
  | emit
  /-- To be told how a subscription stands. -/
  | info
  deriving DecidableEq

/-- A caller and the kind of its call. -/
abbrev Caller := Ticket × CallKind

/-- The kind of call that an answer belongs to. -/
def Answer.kind : Answer → CallKind
  | .subscribed _ => .subscribe
  | .unsubscribed _ => .unsubscribe
  | .emitted _ => .emit
  | .info _ => .info

/-- The fault that an answer tells of. -/
def Answer.fault? : Answer → Option Fault
  | .subscribed (.error f) | .unsubscribed (.error f) | .emitted (.error f) => some f
  | _ => none

/-- The callers that got an answer, each as often as it got one. -/
def answered (replies : List Reply) : List Caller :=
  replies.map fun r => (r.1, r.2.kind)

@[simp] theorem answered_nil : answered [] = [] := rfl

@[simp] theorem answered_append (a b : List Reply) :
    answered (a ++ b) = answered a ++ answered b :=
  List.map_append

namespace Entry

/-- The callers that wait in an entry. -/
def callers (e : Entry) : List Caller :=
  e.subscribers.map (·, .subscribe) ++ e.releasers.map (·, .unsubscribe)

@[simp] theorem answered_tellSubscribers (e : Entry) (outcome : Except Fault Ack) :
    answered (e.tellSubscribers outcome) = e.subscribers.map (·, .subscribe) := by
  simp [answered, tellSubscribers, Function.comp_def, Answer.kind]

@[simp] theorem answered_tellReleasers (e : Entry) (outcome : Except Fault Unit) :
    answered (e.tellReleasers outcome) = e.releasers.map (·, .unsubscribe) := by
  simp [answered, tellReleasers, Function.comp_def, Answer.kind]

/-- The lists of callers fit the status. -/
structure Tidy (e : Entry) : Prop where
  /-- Only a pending entry has callers that wait to be subscribed. -/
  subscribers : e.status ≠ .pending → e.subscribers = []
  /-- Exactly the entries that are being released have callers that wait for it. -/
  releasers : e.releasers = [] ↔ e.status ≠ .releasing

theorem Tidy.callers_of_pending {e : Entry} (h : e.Tidy) (hs : e.status = .pending) :
    e.callers = e.subscribers.map (·, .subscribe) := by
  simp [callers, h.releasers.2 (by rw [hs]; decide)]

theorem Tidy.callers_of_releasing {e : Entry} (h : e.Tidy) (hs : e.status = .releasing) :
    e.callers = e.releasers.map (·, .unsubscribe) := by
  simp [callers, h.subscribers (by rw [hs]; decide)]

end Entry

/-- Where no two have the same key, only one has a given key. -/
theorem filter_key {α β : Type} [DecidableEq β] {key : α → β} {l : List α}
    (h : (l.map key).Nodup) {a : α} (ha : a ∈ l) : l.filter (fun b => key b = key a) = [a] := by
  induction l with
  | nil => exact absurd ha List.not_mem_nil
  | cons b rest ih =>
    rw [List.map_cons, List.nodup_cons, List.mem_map] at h
    rcases List.mem_cons.1 ha with rfl | ha
    · rw [List.filter_cons_of_pos (by simp), List.filter_eq_nil_iff.2 fun c hc => ?_]
      simpa using fun heq => h.1 ⟨c, hc, heq⟩
    · rw [List.filter_cons_of_neg (by simpa using fun heq => h.1 ⟨a, ha, heq.symm⟩), ih h.2 ha]

namespace Registry

theorem Ascending.nodup {r : Registry} (h : r.Ascending) : (r.entries.map (·.1)).Nodup :=
  List.pairwise_map.2 (List.Pairwise.imp String.ne_of_lt h)

theorem Ascending.nodup_filter {r : Registry} (h : r.Ascending) (keep : String × Entry → Bool) :
    ((r.entries.filter keep).map (·.1)).Nodup :=
  h.nodup.sublist (List.Sublist.map _ List.filter_sublist)

/-- The caller that a change hands in. -/
def Change.caller? : Change → Option Caller
  | .subscribe _ ticket _ _ => some (ticket, .subscribe)
  | .unsubscribe _ ticket _ _ => some (ticket, .unsubscribe)
  | _ => none

/-- The callers that wait. -/
def waiting (r : Registry) : List Caller :=
  r.entries.flatMap fun p => p.2.callers

/-! ## Who waits after one entry was written -/

theorem perm_putEntry {l : List (String × Entry)} (h : l.Pairwise fun a b => a.1 < b.1)
    (id : String) (e : Entry) :
    (putEntry id e l).Perm ((id, e) :: l.filter fun p => p.1 ≠ id) := by
  induction l with
  | nil => exact List.Perm.refl _
  | cons q rest ih =>
    obtain ⟨k, x⟩ := q
    rw [List.pairwise_cons] at h
    have hrest : ∀ {id'}, id' = k ∨ id' < k → (rest.filter fun p => p.1 ≠ id') = rest := by
      intro id' hid
      refine List.filter_eq_self.2 fun p hp => ?_
      have hlt : id' < p.1 := by
        rcases hid with rfl | hid
        · exact h.1 p hp
        · exact String.lt_trans hid (h.1 p hp)
      simpa using (String.ne_of_lt hlt).symm
    unfold putEntry
    by_cases h1 : k = id
    · rw [if_pos h1, List.filter_cons_of_neg (by simp [h1]), hrest (Or.inl h1.symm)]
    · rw [if_neg h1, List.filter_cons_of_pos (by simpa using h1)]
      by_cases h2 : k < id
      · rw [if_pos h2]
        exact ((ih h.2).cons _).trans (List.Perm.swap _ _ _)
      · have h3 : id < k := by
          rcases Std.lt_trichotomy k id with h4 | h4 | h4
          · exact absurd h4 h2
          · exact absurd h4 h1
          · exact h4
        rw [if_neg h2, hrest (Or.inr h3)]

/-- After an entry was stored its callers wait, and those of all other entities. -/
theorem perm_waiting_put {r : Registry} (h : r.Ascending) (id : String) (e : Entry) :
    (r.put id e).waiting.Perm (e.callers ++ (r.drop id).waiting) :=
  (perm_putEntry h id e).flatMap_right _

/-- The callers that wait for one entity. -/
def callersOf (r : Registry) (id : String) : List Caller :=
  ((r.get? id).map Entry.callers).getD []

/-- The callers of one entity wait, and those of all others. -/
theorem perm_waiting {r : Registry} (h : r.Ascending) (id : String) :
    r.waiting.Perm (r.callersOf id ++ (r.drop id).waiting) := by
  unfold callersOf
  cases hg : r.get? id with
  | none =>
    have hkeep : (r.entries.filter fun p => p.1 ≠ id) = r.entries :=
      List.filter_eq_self.2 fun p hp => by simpa using get?_eq_none_iff.1 hg p hp
    simp only [Option.map_none, Option.getD_none, List.nil_append, waiting, drop, hkeep]
    exact List.Perm.refl _
  | some e =>
    have hone : r.entries.filter (fun q => q.1 = id) = [(id, e)] :=
      filter_key h.nodup (mem_of_get? hg)
    have hsplit := List.filter_append_perm (fun q : String × Entry => q.1 = id) r.entries
    rw [hone] at hsplit
    refine (hsplit.symm.flatMap_right _).trans ?_
    simp [waiting, drop]

/-- Nobody is lost and nobody is made up: the callers answered, and those that wait in the end, are
those that waited and perhaps a new one. -/
def Balanced (r : Registry) (new : Option Caller) (after : List Reply × Registry) : Prop :=
  (answered after.1 ++ after.2.waiting).Perm (new.toList ++ r.waiting)

theorem balanced_same (r : Registry) : Balanced r none ([], r) :=
  List.Perm.refl _

section

variable {r : Registry} (h : r.Ascending) {id : String} {new : Option Caller} {replies : List Reply}
include h

/-- Storing an entry loses nobody if it takes over, or answers, the callers of its entity. -/
theorem balanced_put {e : Entry}
    (he : (answered replies ++ e.callers).Perm (new.toList ++ r.callersOf id)) :
    Balanced r new (replies, r.put id e) := by
  have hafter := (perm_waiting_put h id e).append_left (answered replies)
  have hbefore := (perm_waiting h id).append_left new.toList
  rw [← List.append_assoc] at hafter hbefore
  exact hafter.trans ((he.append_right _).trans hbefore.symm)

/-- Dropping an entry loses nobody if the callers of its entity are answered. -/
theorem balanced_drop (he : (answered replies).Perm (new.toList ++ r.callersOf id)) :
    Balanced r new (replies, r.drop id) := by
  have hbefore := (perm_waiting h id).append_left new.toList
  rw [← List.append_assoc] at hbefore
  exact (he.append_right _).trans hbefore.symm

end

/-! ## Every change keeps the entries tidy -/

theorem tidy_fresh (r : Registry) (ticket : Ticket) (now : Nat) (connected : Bool) :
    (r.fresh ticket now connected).Tidy :=
  ⟨fun hs => absurd rfl hs, by simp [fresh]⟩

theorem tidy_of_leaves {r : Registry} (h : r.All Entry.Tidy) {x : Change} {id : String} {e : Entry}
    (hl : r.Leaves x id e) : e.Tidy := by
  cases hl with
  | kept hm => exact h _ hm
  | opened ticket now connected => exact tidy_fresh r ticket now connected
  | joined _ _ _ hm hs => exact ⟨fun hne => absurd hs hne, (h _ hm).releasers⟩
  | rejoined _ _ _ hm hs => exact ⟨(h _ hm).subscribers, by simp [hs]⟩
  | parted _ _ hm hs => exact ⟨fun _ => (h _ hm).subscribers (by rw [hs]; decide), by simp⟩
  | acknowledged _ hm hs =>
    have hnobody := (h _ hm).releasers.2 (by rw [hs]; decide)
    exact ⟨fun _ => rfl, by simpa using hnobody⟩
  | watched _ hm => exact ⟨(h _ hm).subscribers, (h _ hm).releasers⟩
  | demoted hm hs =>
    have hnobody := (h _ hm).releasers.2 hs
    exact ⟨fun hne => absurd rfl hne, by simpa [Entry.demoted] using hnobody⟩
  | reissued _ hm => exact ⟨(h _ hm).subscribers, (h _ hm).releasers⟩
  | failed _ hm => exact ⟨fun _ => rfl, (h _ hm).releasers⟩

/-- **Every change leaves tidy entries.** -/
theorem tidy_apply {r : Registry} (h : r.All Entry.Tidy) (x : Change) :
    (r.apply x).2.All Entry.Tidy :=
  all_apply fun _ _ => tidy_of_leaves h

theorem tidy_applyAll {r : Registry} (h : r.All Entry.Tidy) (xs : List Change) :
    (r.applyAll xs).2.All Entry.Tidy :=
  applyAll_induction (P := (Registry.All · Entry.Tidy)) (fun _ x h => tidy_apply h x) h xs

/-! ## No change loses a caller -/

theorem callersOf_of_get? {r : Registry} {id : String} {e : Entry} (hg : r.get? id = some e) :
    r.callersOf id = e.callers := by
  simp [callersOf, hg]

theorem callersOf_of_none {r : Registry} {id : String} (hg : r.get? id = none) :
    r.callersOf id = [] := by
  simp [callersOf, hg]

section

variable {r : Registry} (h : r.Ascending) (ht : r.All Entry.Tidy)
include h ht

theorem balanced_subscribe (id : String) (ticket : Ticket) (now : Nat) (connected : Bool) :
    Balanced r (some (ticket, .subscribe)) (r.subscribe id ticket now connected).2 := by
  have hfresh : (r.fresh ticket now connected).callers = [(ticket, .subscribe)] := rfl
  unfold subscribe
  split
  · rename_i hg
    refine balanced_put h ?_
    rw [callersOf_of_none hg, hfresh]
    exact List.Perm.refl _
  · rename_i e hg
    have he := ht.of_get? hg
    split
    · exact List.Perm.refl _
    · rename_i hs
      refine balanced_put h ?_
      have htaken : Entry.callers { e with subscribers := e.subscribers ++ [ticket] } =
          e.subscribers.map (·, .subscribe) ++ [(ticket, .subscribe)] := by
        simp [Entry.callers, he.releasers.2 (by rw [hs]; decide)]
      rw [callersOf_of_get? hg, he.callers_of_pending hs, htaken]
      exact List.perm_append_singleton ..
    · rename_i hs
      refine balanced_put h ?_
      rw [callersOf_of_get? hg, he.callers_of_releasing hs, hfresh, Entry.answered_tellReleasers]
      exact List.perm_append_comm

theorem balanced_unsubscribe (id : String) (ticket : Ticket) (now : Nat) (connected : Bool) :
    Balanced r (some (ticket, .unsubscribe)) (r.unsubscribe id ticket now connected).2 := by
  unfold unsubscribe
  split
  · exact List.Perm.refl _
  · rename_i e hg
    have he := ht.of_get? hg
    -- whoever takes the new caller in has nobody that waits to be subscribed
    have htaken : e.subscribers = [] → ∀ {e' : Entry}, e'.subscribers = e.subscribers →
        e'.releasers = e.releasers ++ [ticket] →
        (answered [] ++ e'.callers).Perm ([(ticket, .unsubscribe)] ++ r.callersOf id) := by
      intro hnone e' hsubscribers hreleasers
      rw [callersOf_of_get? hg]
      simp only [Entry.callers, hsubscribers, hreleasers, hnone, List.map_nil, List.nil_append,
        List.map_append, answered_nil]
      exact List.perm_append_comm
    split
    · rename_i hs
      exact balanced_put h (htaken (he.subscribers (by rw [hs]; decide)) rfl rfl)
    · rename_i hs
      split
      · rename_i hactive
        exact balanced_put h (htaken (he.subscribers (by rw [hactive.1]; decide)) rfl rfl)
      · refine balanced_drop h ?_
        rw [callersOf_of_get? hg, answered_append, Entry.answered_tellSubscribers]
        simp only [Entry.callers, he.releasers.2 hs, List.map_nil, List.append_nil]
        exact List.perm_append_comm

theorem balanced_acknowledge (id : String) (watchers : List Json.Value) :
    Balanced r none (r.acknowledge id watchers).2 := by
  unfold acknowledge
  split
  · exact balanced_same r
  · rename_i e hg
    have he := ht.of_get? hg
    split
    · rename_i hs
      refine balanced_put h ?_
      rw [callersOf_of_get? hg, Entry.answered_tellSubscribers]
      exact List.Perm.refl _
    · exact balanced_same r

theorem balanced_reject (id why : String) : Balanced r none (r.reject id why).2 := by
  unfold reject
  split
  · exact balanced_same r
  · rename_i e hg
    split
    · rename_i hs
      refine balanced_drop h ?_
      rw [callersOf_of_get? hg, Entry.answered_tellSubscribers,
        (ht.of_get? hg).callers_of_pending hs]
      exact List.Perm.refl _
    · exact balanced_same r

theorem balanced_release (id : String) : Balanced r none (r.release id).2 := by
  unfold release
  split
  · exact balanced_same r
  · rename_i e hg
    split
    · rename_i hs
      refine balanced_drop h ?_
      rw [callersOf_of_get? hg, Entry.answered_tellReleasers,
        (ht.of_get? hg).callers_of_releasing hs]
      exact List.Perm.refl _
    · exact balanced_same r

omit ht in
theorem balanced_setWatchers (id : String) (watchers : List Json.Value) :
    Balanced r none ([], (r.setWatchers id watchers).2) := by
  unfold setWatchers
  split
  · exact balanced_same r
  · rename_i e hg
    refine balanced_put h ?_
    rw [callersOf_of_get? hg]
    exact List.Perm.refl _

end

section

variable {r : Registry}

/-- Those who are told that their request is overdue are the callers of its entry. -/
theorem answered_tellOverdue (id : String) (e : Entry) :
    answered (tellOverdue id e) = e.callers := by
  simp [tellOverdue, Entry.callers]

theorem answered_flatMap {α : Type} (l : List α) (f : α → List Reply) :
    answered (l.flatMap f) = l.flatMap fun a => answered (f a) :=
  List.map_flatMap

theorem balanced_expire (now : Nat) : Balanced r none (r.expire now).2 := by
  have hsplit := List.filter_append_perm (fun p : String × Entry => p.2.isOverdue now) r.entries
  have hcallers := hsplit.flatMap_right fun p => p.2.callers
  rw [List.flatMap_append] at hcallers
  unfold Balanced
  simp only [expire, answered_flatMap, answered_tellOverdue]
  exact hcallers

theorem balanced_demoteAll (ht : r.All Entry.Tidy) : Balanced r none r.demoteAll := by
  let going (p : String × Entry) : Bool := p.2.status = .releasing
  have hsplit := (List.filter_append_perm going r.entries).flatMap_right fun p => p.2.callers
  have hgone : answered r.demoteAll.1 =
      (r.entries.filter going).flatMap fun p => p.2.callers := by
    simp only [demoteAll, answered_flatMap, Entry.answered_tellReleasers]
    refine List.flatMap_congr fun p hp => ?_
    obtain ⟨hm, hs⟩ := List.mem_filter.1 hp
    exact ((ht p hm).callers_of_releasing (by simpa [going] using hs)).symm
  have hstay : r.demoteAll.2.waiting =
      (r.entries.filter fun p => !going p).flatMap fun p => p.2.callers := by
    simp [demoteAll, waiting, List.flatMap_map, going, Entry.callers, Entry.demoted]
  unfold Balanced
  rw [hgone, hstay, ← List.flatMap_append]
  exact hsplit

theorem balanced_reissue (now : Nat) : Balanced r none ([], (r.reissue now).2) := by
  have hsame : (r.reissue now).2.waiting = r.waiting := by
    simp only [reissue, waiting, List.flatMap_map]
    refine List.flatMap_congr fun p _ => ?_
    split <;> rfl
  unfold Balanced
  rw [hsame]
  exact List.Perm.refl _

theorem balanced_failSubscribers (fault : Fault) : Balanced r none (r.failSubscribers fault) := by
  unfold Balanced
  simp only [failSubscribers, waiting, answered_flatMap, List.flatMap_map, Entry.callers,
    Entry.answered_tellSubscribers, List.map_nil, List.nil_append]
  exact List.flatMap_append_perm ..

theorem balanced_clear (fault : Fault) : Balanced r none (r.clear fault) := by
  unfold Balanced
  simp [clear, waiting, answered_flatMap, Entry.callers]

end

/-- **No change loses a caller**, as long as the entries are tidy. -/
theorem balanced_apply {r : Registry} (h : r.Ascending) (ht : r.All Entry.Tidy) (x : Change) :
    Balanced r x.caller? (r.apply x) := by
  cases x with
  | subscribe id ticket now connected => exact balanced_subscribe h ht id ticket now connected
  | unsubscribe id ticket now connected => exact balanced_unsubscribe h ht id ticket now connected
  | acknowledge id watchers => exact balanced_acknowledge h ht id watchers
  | reject id why => exact balanced_reject h ht id why
  | release id => exact balanced_release h ht id
  | setWatchers id watchers => exact balanced_setWatchers h id watchers
  | expire now => exact balanced_expire now
  | demoteAll => exact balanced_demoteAll ht
  | reissue now => exact balanced_reissue now
  | failSubscribers fault => exact balanced_failSubscribers fault
  | clear fault => exact balanced_clear fault

/-- **No history loses a caller.**  Those answered and those that wait in the end are those handed
in and those that waited before. -/
theorem perm_applyAll {r : Registry} (h : r.Ascending) (ht : r.All Entry.Tidy) (xs : List Change) :
    (answered (r.applyAll xs).1 ++ (r.applyAll xs).2.waiting).Perm
      (xs.filterMap Change.caller? ++ r.waiting) := by
  induction xs generalizing r with
  | nil => exact List.Perm.refl _
  | cons x rest ih =>
    have hx : (answered (r.apply x).1 ++ (r.apply x).2.waiting).Perm
        (x.caller?.toList ++ r.waiting) := balanced_apply h ht x
    have hrest := ih (ascending_apply h x) (tidy_apply ht x)
    have hcallers : (x :: rest).filterMap Change.caller? =
        x.caller?.toList ++ rest.filterMap Change.caller? := by
      cases hc : x.caller? <;> simp [hc]
    rw [hcallers]
    refine List.perm_iff_count.2 fun c => ?_
    have hx := hx.count_eq c
    have hrest := hrest.count_eq c
    simp only [applyAll, answered_append, List.count_append] at hx hrest ⊢
    omega

/-! ## One caller -/

/-- The caller waits in one entry, and there once. -/
def HeldOnce (r : Registry) (c : Caller) : Prop :=
  ∃ id e, r.get? id = some e ∧ e.callers.count c = 1 ∧
    ∀ other e', r.get? other = some e' → c ∈ e'.callers → other = id

theorem mem_waiting {r : Registry} (h : r.Ascending) {c : Caller} :
    c ∈ r.waiting ↔ ∃ id e, r.get? id = some e ∧ c ∈ e.callers := by
  simp only [waiting, List.mem_flatMap]
  constructor
  · rintro ⟨⟨id, e⟩, hm, hc⟩
    exact ⟨id, e, get?_of_mem h hm, hc⟩
  · rintro ⟨id, e, hg, hc⟩
    exact ⟨(id, e), mem_of_get? hg, hc⟩

/-- Where nobody waits twice, whoever waits does so in one entry. -/
theorem heldOnce_of_mem {r : Registry} (h : r.Ascending) (hw : r.waiting.Nodup) {c : Caller}
    (hc : c ∈ r.waiting) : r.HeldOnce c := by
  obtain ⟨id, e, hg, hc⟩ := (mem_waiting h).1 hc
  have hparts := (perm_waiting h id).nodup_iff.1 hw
  rw [callersOf_of_get? hg, List.nodup_append] at hparts
  obtain ⟨hown, -, hapart⟩ := hparts
  refine ⟨id, e, hg, List.count_eq_one_of_mem hown hc, fun other e' hg' hc' => ?_⟩
  by_contra hne
  have hother : (r.drop id).get? other = some e' := by
    rw [get?_drop_of_ne h (Ne.symm hne), hg']
  exact hapart c hc c ((mem_waiting (ascending_drop h id)).2 ⟨other, e', hother, hc'⟩) rfl

end Registry

/-- The caller has its answer, and no other. -/
def AnsweredOnce (replies : List Reply) (c : Caller) : Prop :=
  ∃ a, a.kind = c.2 ∧ replies.filter (·.1 = c.1) = [(c.1, a)]

/-- Where nobody is answered twice, whoever is answered is answered once. -/
theorem answeredOnce_of_mem {replies : List Reply} (h : ((answered replies).map (·.1)).Nodup)
    {c : Caller} (hc : c ∈ answered replies) : AnsweredOnce replies c := by
  obtain ⟨⟨ticket, a⟩, hm, rfl⟩ := List.mem_map.1 hc
  rw [answered, List.map_map] at h
  exact ⟨a, rfl, filter_key h hm⟩

/-- Of those that were handed in under names of their own, and are answered or wait, each has one
answer or waits, and not both. -/
theorem answeredOnce_or_waits {handed : List Caller} {replies : List Reply} {waiting : List Caller}
    (hdistinct : (handed.map (·.1)).Nodup) (hperm : (answered replies ++ waiting).Perm handed)
    {c : Caller} (hc : c ∈ handed) :
    (AnsweredOnce replies c ∧ ∀ d ∈ waiting, d.1 ≠ c.1) ∨
      (c ∈ waiting ∧ ∀ a ∈ replies, a.1 ≠ c.1) := by
  have hnodup := (hperm.map (·.1)).nodup_iff.2 hdistinct
  rw [List.map_append, List.nodup_append] at hnodup
  obtain ⟨hone, -, hapart⟩ := hnodup
  rcases List.mem_append.1 (hperm.mem_iff.2 hc) with hanswered | hwaits
  · refine Or.inl ⟨answeredOnce_of_mem hone hanswered, fun d hd heq => ?_⟩
    exact hapart c.1 (List.mem_map_of_mem hanswered) d.1 (List.mem_map_of_mem hd) heq.symm
  · refine Or.inr ⟨hwaits, fun a ha heq => ?_⟩
    have hmem : (a.1, a.2.kind) ∈ answered replies := List.mem_map_of_mem ha
    exact hapart a.1 (List.mem_map_of_mem hmem) c.1 (List.mem_map_of_mem hwaits) heq

namespace Registry

theorem ascending_new (subscribeTimeout unsubscribeTimeout : Nat) :
    (Registry.new subscribeTimeout unsubscribeTimeout).Ascending :=
  List.Pairwise.nil

theorem tidy_new (subscribeTimeout unsubscribeTimeout : Nat) :
    (Registry.new subscribeTimeout unsubscribeTimeout).All Entry.Tidy :=
  nofun

/-- **Every caller is accounted for.**  Take any history of a registry that was just built, in
which no two callers have the same ticket.  Every caller handed in has one answer and waits
nowhere, or it has none and waits in one entry; only pending entries have callers that wait to be
subscribed, and exactly those that are being released have callers that wait for it.  Once
everything is dropped, nobody waits, and every caller has its one answer. -/
theorem every_caller_accounted (subscribeTimeout unsubscribeTimeout : Nat) (xs : List Change)
    (hdistinct : ((xs.filterMap Change.caller?).map (·.1)).Nodup) :
    let (replies, r) := (Registry.new subscribeTimeout unsubscribeTimeout).applyAll xs
    (∀ c ∈ xs.filterMap Change.caller?,
      (AnsweredOnce replies c ∧ ∀ d ∈ r.waiting, d.1 ≠ c.1) ∨
        (r.HeldOnce c ∧ ∀ a ∈ replies, a.1 ≠ c.1)) ∧
    (∀ id e, r.get? id = some e → e.Tidy) ∧
    ∀ fault, (r.clear fault).2.waiting = [] ∧
      ∀ c ∈ xs.filterMap Change.caller?, AnsweredOnce (replies ++ (r.clear fault).1) c := by
  have hnew := ascending_new subscribeTimeout unsubscribeTimeout
  have htidy := tidy_new subscribeTimeout unsubscribeTimeout
  generalize hr₀ : Registry.new subscribeTimeout unsubscribeTimeout = r₀ at hnew htidy ⊢
  have hnone : r₀.waiting = [] := by rw [← hr₀]; rfl
  have hasc := ascending_applyAll hnew xs
  have hperm := perm_applyAll hnew htidy xs
  rw [hnone, List.append_nil] at hperm
  have hend := tidy_applyAll htidy xs
  generalize r₀.applyAll xs = after at hasc hperm hend ⊢
  obtain ⟨replies, r⟩ := after
  refine ⟨fun c hc => ?_, fun id e hg => hend.of_get? hg, fun fault => ⟨rfl, fun c hc => ?_⟩⟩
  · rcases answeredOnce_or_waits hdistinct hperm hc with hone | ⟨hwaits, hunanswered⟩
    · exact Or.inl hone
    · have hnodup := List.Nodup.of_map _ ((hperm.map (·.1)).nodup_iff.2 hdistinct)
      exact Or.inr ⟨heldOnce_of_mem hasc (List.nodup_append.1 hnodup).2.1 hwaits, hunanswered⟩
  · have hclear : (answered (r.clear fault).1).Perm r.waiting := by
      simpa [Balanced, clear, waiting] using balanced_clear (r := r) fault
    have hall : (answered (replies ++ (r.clear fault).1) ++ []).Perm
        (xs.filterMap Change.caller?) := by
      rw [answered_append, List.append_nil]
      exact (hclear.append_left _).trans hperm
    exact ((answeredOnce_or_waits hdistinct hall hc).resolve_right fun h =>
      List.not_mem_nil h.1).1

/-- A caller wants the subscription released and another one wants it back before the server has
answered: the first has its answer and the second one waits. -/
theorem every_caller_accounted_superseded :
    let xs : List Change := [.subscribe "A" 0 0 true, .acknowledge "A" [],
      .unsubscribe "A" 1 5 true, .subscribe "A" 2 6 true, .release "A", .expire 7]
    let (replies, r) := (Registry.new 10 10).applyAll xs
    ((xs.filterMap Change.caller?).map (·.1)).Nodup ∧
    (∀ c ∈ [((0, .subscribe) : Caller), (1, .unsubscribe), (2, .subscribe)],
      (AnsweredOnce replies c ∧ ∀ d ∈ r.waiting, d.1 ≠ c.1) ∨
        (r.HeldOnce c ∧ ∀ a ∈ replies, a.1 ≠ c.1)) ∧
    (∀ id e, r.get? id = some e → e.Tidy) ∧
    ∀ fault, (r.clear fault).2.waiting = [] ∧
      ∀ c ∈ [((0, .subscribe) : Caller), (1, .unsubscribe), (2, .subscribe)],
        AnsweredOnce (replies ++ (r.clear fault).1) c :=
  ⟨by decide, every_caller_accounted 10 10
    [.subscribe "A" 0 0 true, .acknowledge "A" [], .unsubscribe "A" 1 5 true,
      .subscribe "A" 2 6 true, .release "A", .expire 7] (by decide)⟩

end Registry
end LiveSync
