import LiveSync.Proofs.Registry.Callers
import LiveSync.Proofs.Registry.Entries
import Mathlib.Data.List.Pairwise

/-!
# Answers tell the truth

Several callers may wait in one entry, and what answers them may be the server, a deadline, another
caller or the loss of the connection.  Whoever it is, an answer says what is so right after the
change that gave it: a caller who is told that it is subscribed finds the entity active, with the
watchers that it was told, and a caller who is told of a failure or of the release finds no entry,
or one that another caller has just opened.

* `Asked` — the calls of a history.
* `Party` — who may be answered by a change: those that wait, and the one that calls.
* `Truthful`, `Sincere` — what a caller for an entity may be told, and what has to be so then.
* `sincere_of_entity?`, `sincere_apply` — every change, on tidy entries.
* `asked_applyAll` — after every history, those that wait for an entity are callers for it.
* `replies_truthful` — what every caller for an entity is told, after every history.
-/

namespace LiveSync
namespace Entry

theorem mem_callers {e : Entry} {c : Caller} :
    c ∈ e.callers ↔ (c.1 ∈ e.subscribers ∧ c.2 = .subscribe) ∨
      (c.1 ∈ e.releasers ∧ c.2 = .unsubscribe) := by
  obtain ⟨ticket, kind⟩ := c
  simp only [callers, List.mem_append, List.mem_map, Prod.mk.injEq]
  constructor
  · rintro (⟨t, ht, rfl, rfl⟩ | ⟨t, ht, rfl, rfl⟩)
    · exact Or.inl ⟨ht, rfl⟩
    · exact Or.inr ⟨ht, rfl⟩
  · rintro (⟨ht, rfl⟩ | ⟨ht, rfl⟩)
    · exact Or.inl ⟨ticket, ht, rfl, rfl⟩
    · exact Or.inr ⟨ticket, ht, rfl, rfl⟩

end Entry

namespace Registry

/-! ## Who calls, and who waits -/

/-- Somebody called for the entity: under that ticket, and in that way. -/
def Asked (xs : List Change) (c : Caller) (id : String) : Prop :=
  ∃ x ∈ xs, x.caller? = some c ∧ x.entity? = some id

/-- The caller waits for the entity, or the change is its call for it. -/
def Party (r : Registry) (x : Change) (c : Caller) (id : String) : Prop :=
  c ∈ r.callersOf id ∨ (x.caller? = some c ∧ x.entity? = some id)

theorem mem_callersOf {r : Registry} {id : String} {c : Caller} :
    c ∈ r.callersOf id ↔ ∃ e, r.get? id = some e ∧ c ∈ e.callers := by
  unfold callersOf
  cases r.get? id with
  | none => simp
  | some e => simp

section

variable {r : Registry} {x : Change} {id : String} {e : Entry}

theorem Party.of_subscribers (hg : r.get? id = some e) {ticket : Ticket}
    (ht : ticket ∈ e.subscribers) : r.Party x (ticket, .subscribe) id :=
  Or.inl (mem_callersOf.2 ⟨e, hg, Entry.mem_callers.2 (Or.inl ⟨ht, rfl⟩)⟩)

theorem Party.of_releasers (hg : r.get? id = some e) {ticket : Ticket}
    (ht : ticket ∈ e.releasers) : r.Party x (ticket, .unsubscribe) id :=
  Or.inl (mem_callersOf.2 ⟨e, hg, Entry.mem_callers.2 (Or.inr ⟨ht, rfl⟩)⟩)

/-- Whoever waits in an entry that a change leaves, waited before or calls. -/
theorem party_of_leaves (h : r.Ascending) (hl : r.Leaves x id e) {c : Caller}
    (hc : c ∈ e.callers) : r.Party x c id := by
  obtain ⟨ticket, kind⟩ := c
  rcases Entry.mem_callers.1 hc with ⟨ht, hkind⟩ | ⟨ht, hkind⟩
  · obtain rfl : kind = .subscribe := hkind
    cases hl with
    | opened =>
      obtain rfl := List.mem_singleton.1 ht
      exact Or.inr ⟨rfl, rfl⟩
    | joined _ _ _ hm =>
      rcases List.mem_append.1 ht with ht | ht
      · exact .of_subscribers (get?_of_mem h hm) ht
      · obtain rfl := List.mem_singleton.1 ht
        exact Or.inr ⟨rfl, rfl⟩
    | acknowledged => exact absurd ht List.not_mem_nil
    | failed => exact absurd ht List.not_mem_nil
    | kept hm | rejoined _ _ _ hm | parted _ _ hm | watched _ hm | demoted hm | reissued _ hm =>
      exact .of_subscribers (get?_of_mem h hm) ht
  · obtain rfl : kind = .unsubscribe := hkind
    cases hl with
    | opened => exact absurd ht List.not_mem_nil
    | rejoined _ _ _ hm | parted _ _ hm =>
      rcases List.mem_append.1 ht with ht | ht
      · exact .of_releasers (get?_of_mem h hm) ht
      · obtain rfl := List.mem_singleton.1 ht
        exact Or.inr ⟨rfl, rfl⟩
    | kept hm | joined _ _ _ hm | acknowledged _ hm | watched _ hm | demoted hm | reissued _ hm
    | failed _ hm =>
      exact .of_releasers (get?_of_mem h hm) ht

/-- Whoever waits after a change, waited before or calls. -/
theorem party_apply (h : r.Ascending) {c : Caller} (hc : c ∈ (r.apply x).2.callersOf id) :
    r.Party x c id := by
  obtain ⟨e, hg, hc⟩ := mem_callersOf.1 hc
  exact party_of_leaves h (leaves_of_mem (mem_of_get? hg)) hc

end

theorem Asked.cons {xs : List Change} {c : Caller} {id : String} (ha : Asked xs c id)
    (x : Change) : Asked (x :: xs) c id := by
  obtain ⟨y, hy, hcall⟩ := ha
  exact ⟨y, List.mem_cons_of_mem x hy, hcall⟩

/-- Whoever waits after a history, waited before or called in it. -/
theorem asked_applyAll {r : Registry} (h : r.Ascending) (xs : List Change) {c : Caller}
    {id : String} (hc : c ∈ (r.applyAll xs).2.callersOf id) :
    c ∈ r.callersOf id ∨ Asked xs c id := by
  induction xs generalizing r with
  | nil => exact Or.inl hc
  | cons x rest ih =>
    rcases ih (ascending_apply h x) hc with hwaits | hasked
    · rcases party_apply h hwaits with hbefore | hcall
      · exact Or.inl hbefore
      · exact Or.inr ⟨x, List.mem_cons_self, hcall⟩
    · exact Or.inr (hasked.cons x)

/-- Two changes are not calls under one ticket. -/
def Change.Apart (x y : Change) : Prop :=
  ∀ c, x.caller? = some c → ∀ d, y.caller? = some d → c.1 ≠ d.1

instance : Std.Symm Change.Apart where
  symm _ _ hxy d hd c hc := (hxy c hc d hd).symm

/-- Where no two callers have the same ticket, a ticket stands for one call. -/
theorem Asked.unique {xs : List Change}
    (hdistinct : ((xs.filterMap Change.caller?).map (·.1)).Nodup) {c d : Caller} {id key : String}
    (hc : Asked xs c id) (hd : Asked xs d key) (hticket : c.1 = d.1) : c = d ∧ id = key := by
  obtain ⟨x, hx, hxc, hxid⟩ := hc
  obtain ⟨y, hy, hyd, hykey⟩ := hd
  have hapart : xs.Pairwise Change.Apart := by
    rw [List.Nodup, List.pairwise_map, List.pairwise_filterMap] at hdistinct
    exact hdistinct
  have hsame : x = y := by
    by_contra hne
    exact hapart.forall hx hy hne c hxc d hyd hticket
  subst hsame
  exact ⟨Option.some.inj (hxc.symm.trans hyd), Option.some.inj (hxid.symm.trans hykey)⟩

/-! ## What a caller is told -/

/-- What a caller for an entity may be told by a change, and what is so afterwards. -/
inductive Truthful (r : Registry) (x : Change) (id : String) : Answer → Prop where
  /-- It is subscribed: the entity is active, and the answer has its watchers. -/
  | subscribed {e : Entry} (hg : (r.apply x).2.get? id = some e) (hs : e.status = .active) :
      Truthful r x id (.subscribed (.ok ⟨id, e.watchers⟩))
  /-- It was given up: another caller wanted the release, and there is no entry. -/
  | cancelled (ticket : Ticket) (now : Nat) (connected : Bool)
      (hx : x = .unsubscribe id ticket now connected) (hg : (r.apply x).2.get? id = none) :
      Truthful r x id (.subscribed (.error .cancelled))
  /-- The server refused this entity, and there is no entry. -/
  | rejected (why : String) (hx : x = .reject id why) (hg : (r.apply x).2.get? id = none) :
      Truthful r x id (.subscribed (.error (.subscriptionRejected id why)))
  /-- This entity was not acknowledged in time, and there is no entry. -/
  | overdue (now : Nat) (hx : x = .expire now) (hg : (r.apply x).2.get? id = none) :
      Truthful r x id (.subscribed (.error (.subscriptionTimeout id .subscribe)))
  /-- It is released: there is no entry. -/
  | released (hg : (r.apply x).2.get? id = none) : Truthful r x id (.unsubscribed (.ok ()))
  /-- It is released: another caller wants it back, and the change has put a new entry in the place
  of the one that was being released. -/
  | superseded {e : Entry} (ticket : Ticket) (now : Nat) (connected : Bool)
      (hx : x = .subscribe id ticket now connected) (hg : r.get? id = some e)
      (hs : e.status = .releasing)
      (hnew : (r.apply x).2.get? id = some (r.fresh ticket now connected)) :
      Truthful r x id (.unsubscribed (.ok ()))
  /-- The release of this entity was not acknowledged in time, and there is no entry. -/
  | unreleased (now : Nat) (hx : x = .expire now) (hg : (r.apply x).2.get? id = none) :
      Truthful r x id (.unsubscribed (.error (.subscriptionTimeout id .unsubscribe)))

/-- The answer goes to a caller for the entity who waits or calls, and tells it the truth. -/
structure Sincere (r : Registry) (x : Change) (id : String) (reply : Reply) : Prop where
  /-- It goes to a caller for the entity, and answers the kind of call. -/
  party : r.Party x (reply.1, reply.2.kind) id
  /-- It tells the truth. -/
  truthful : r.Truthful x id reply.2

section

variable {r : Registry} {x : Change} {id : String} {e : Entry}

theorem sincere_tellSubscribers (hg : r.get? id = some e) {outcome : Except Fault Ack}
    (htrue : r.Truthful x id (.subscribed outcome)) :
    ∀ reply ∈ e.tellSubscribers outcome, r.Sincere x id reply := by
  intro reply hreply
  obtain ⟨ticket, ht, rfl⟩ := List.mem_map.1 hreply
  exact ⟨.of_subscribers hg ht, htrue⟩

theorem sincere_tellReleasers (hg : r.get? id = some e) {outcome : Except Fault Unit}
    (htrue : r.Truthful x id (.unsubscribed outcome)) :
    ∀ reply ∈ e.tellReleasers outcome, r.Sincere x id reply := by
  intro reply hreply
  obtain ⟨ticket, ht, rfl⟩ := List.mem_map.1 hreply
  exact ⟨.of_releasers hg ht, htrue⟩

end

section

variable {r : Registry}

theorem sincere_subscribe (id : String) (ticket : Ticket) (now : Nat) (connected : Bool) :
    ∀ reply ∈ (r.subscribe id ticket now connected).2.1,
      r.Sincere (.subscribe id ticket now connected) id reply := by
  cases hg : r.get? id with
  | none => simp [subscribe, hg]
  | some e =>
    cases hs : e.status with
    | pending => simp [subscribe, hg, hs]
    | active =>
      have hsame : r.subscribe id ticket now connected =
          (false, [(ticket, .subscribed (.ok (e.ack id)))], r) := by
        simp [subscribe, hg, hs]
      intro reply hreply
      rw [hsame] at hreply
      obtain rfl := List.mem_singleton.1 hreply
      refine ⟨Or.inr ⟨rfl, rfl⟩, .subscribed ?_ hs⟩
      rw [apply, hsame]
      exact hg
    | releasing =>
      have hafter : r.subscribe id ticket now connected =
          (connected, e.tellReleasers (.ok ()), r.put id (r.fresh ticket now connected)) := by
        simp [subscribe, hg, hs]
      rw [hafter]
      refine sincere_tellReleasers hg (.superseded ticket now connected rfl hg hs ?_)
      rw [apply, hafter, get?_put_self]

end

section

variable {r : Registry} (h : r.Ascending)
include h

theorem sincere_unsubscribe (id : String) (ticket : Ticket) (now : Nat) (connected : Bool) :
    ∀ reply ∈ (r.unsubscribe id ticket now connected).2.1,
      r.Sincere (.unsubscribe id ticket now connected) id reply := by
  cases hg : r.get? id with
  | none =>
    have hsame : r.unsubscribe id ticket now connected =
        (false, [(ticket, .unsubscribed (.ok ()))], r) := by
      simp [unsubscribe, hg]
    intro reply hreply
    rw [hsame] at hreply
    obtain rfl := List.mem_singleton.1 hreply
    refine ⟨Or.inr ⟨rfl, rfl⟩, .released ?_⟩
    rw [apply, hsame]
    exact hg
  | some e =>
    by_cases hs : e.status = .releasing
    · simp [unsubscribe, hg, hs]
    · by_cases ha : e.status = .active ∧ connected
      · simp [unsubscribe, hg, ha]
      · have hafter : r.unsubscribe id ticket now connected =
            (connected && e.sent,
              e.tellSubscribers (.error .cancelled) ++ [(ticket, .unsubscribed (.ok ()))],
              r.drop id) := by
          simp only [unsubscribe, hg, if_neg hs, if_neg ha]
        have hgone : (r.apply (.unsubscribe id ticket now connected)).2.get? id = none := by
          rw [apply, hafter, get?_drop_self h]
        intro reply hreply
        rw [hafter] at hreply
        rcases List.mem_append.1 hreply with hreply | hreply
        · exact sincere_tellSubscribers hg (.cancelled ticket now connected rfl hgone) reply hreply
        · obtain rfl := List.mem_singleton.1 hreply
          exact ⟨Or.inr ⟨rfl, rfl⟩, .released hgone⟩

omit h in
theorem sincere_acknowledge (id : String) (watchers : List Json.Value) :
    ∀ reply ∈ (r.acknowledge id watchers).2.1, r.Sincere (.acknowledge id watchers) id reply := by
  cases hg : r.get? id with
  | none => simp [acknowledge, hg]
  | some e =>
    by_cases hs : e.status = .pending
    · let active : Entry := { e with
        status := .active, deadline := none, watchers := watchers, subscribers := [] }
      have hafter : r.acknowledge id watchers =
          (true, e.tellSubscribers (.ok ⟨id, watchers⟩), r.put id active) := by
        simp only [acknowledge, hg, if_pos hs, active]
      have hactive : (r.apply (.acknowledge id watchers)).2.get? id = some active := by
        rw [apply, hafter, get?_put_self]
      rw [hafter]
      exact sincere_tellSubscribers hg (.subscribed hactive rfl)
    · simp [acknowledge, hg, hs]

theorem sincere_reject (id why : String) :
    ∀ reply ∈ (r.reject id why).2.1, r.Sincere (.reject id why) id reply := by
  cases hg : r.get? id with
  | none => simp [reject, hg]
  | some e =>
    by_cases hs : e.status = .pending
    · have hafter : r.reject id why =
          (true, e.tellSubscribers (.error (.subscriptionRejected id why)), r.drop id) := by
        simp only [reject, hg, if_pos hs]
      have hgone : (r.apply (.reject id why)).2.get? id = none := by
        rw [apply, hafter, get?_drop_self h]
      rw [hafter]
      exact sincere_tellSubscribers hg (.rejected why rfl hgone)
    · simp [reject, hg, hs]

theorem sincere_release (id : String) :
    ∀ reply ∈ (r.release id).2.1, r.Sincere (.release id) id reply := by
  cases hg : r.get? id with
  | none => simp [release, hg]
  | some e =>
    by_cases hs : e.status = .releasing
    · have hafter : r.release id = (true, e.tellReleasers (.ok ()), r.drop id) := by
        simp only [release, hg, if_pos hs]
      have hgone : (r.apply (.release id)).2.get? id = none := by
        rw [apply, hafter, get?_drop_self h]
      rw [hafter]
      exact sincere_tellReleasers hg (.released hgone)
    · simp [release, hg, hs]

/-- A change that names an entity answers callers for that entity only. -/
theorem sincere_of_entity? {x : Change} {id : String} (hid : x.entity? = some id) :
    ∀ reply ∈ (r.apply x).1, r.Sincere x id reply := by
  cases x with
  | subscribe key ticket now connected =>
    obtain rfl := Option.some.inj hid
    exact sincere_subscribe key ticket now connected
  | unsubscribe key ticket now connected =>
    obtain rfl := Option.some.inj hid
    exact sincere_unsubscribe h key ticket now connected
  | acknowledge key watchers =>
    obtain rfl := Option.some.inj hid
    exact sincere_acknowledge key watchers
  | reject key why =>
    obtain rfl := Option.some.inj hid
    exact sincere_reject h key why
  | release key =>
    obtain rfl := Option.some.inj hid
    exact sincere_release h key
  | setWatchers key watchers => exact nofun
  | _ => exact absurd hid nofun

theorem sincere_demoteAll : ∀ reply ∈ r.demoteAll.1, ∃ id, r.Sincere .demoteAll id reply := by
  intro reply hreply
  obtain ⟨⟨id, e⟩, hp, hreply⟩ := List.mem_flatMap.1 hreply
  obtain ⟨hmem, hs⟩ := List.mem_filter.1 hp
  have hg := get?_of_mem h hmem
  have hgone : (r.apply .demoteAll).2.get? id = none := by
    rw [apply, get?_demoteAll h, hg, Option.filter_some, if_neg (by simpa using hs)]
    rfl
  exact ⟨id, sincere_tellReleasers hg (.released hgone) reply hreply⟩

variable (ht : r.All Entry.Tidy)
include ht

/-- Who is told that a request is overdue waits for that very request: only a pending entry has
callers that wait to be subscribed, and only one that is being released others. -/
theorem sincere_expire (now : Nat) :
    ∀ reply ∈ (r.expire now).2.1, ∃ id, r.Sincere (.expire now) id reply := by
  intro reply hreply
  obtain ⟨⟨id, e⟩, hp, hreply⟩ := List.mem_flatMap.1 hreply
  obtain ⟨hmem, hdue⟩ := List.mem_filter.1 hp
  have hg := get?_of_mem h hmem
  have hgone : (r.apply (.expire now)).2.get? id = none := by
    rw [apply, get?_expire h, hg, Option.filter_some, if_neg (by simpa using hdue)]
  have he := ht.of_get? hg
  rcases List.mem_append.1 hreply with hreply | hreply
  · obtain ⟨ticket, hticket, rfl⟩ := List.mem_map.1 hreply
    have hs : e.status = .pending := by
      by_contra hne
      rw [he.subscribers hne] at hticket
      exact absurd hticket List.not_mem_nil
    have hop : e.operation = .subscribe := by simp [Entry.operation, hs]
    refine ⟨id, .of_subscribers hg hticket, ?_⟩
    rw [hop]
    exact .overdue now rfl hgone
  · obtain ⟨ticket, hticket, rfl⟩ := List.mem_map.1 hreply
    have hs : e.status = .releasing := by
      by_contra hne
      rw [he.releasers.2 hne] at hticket
      exact absurd hticket List.not_mem_nil
    have hop : e.operation = .unsubscribe := by simp [Entry.operation, hs]
    refine ⟨id, .of_releasers hg hticket, ?_⟩
    rw [hop]
    exact .unreleased now rfl hgone

/-- **Every change tells the truth** to those that it answers, unless the answer is given to it. -/
theorem sincere_apply {x : Change} (hx : ∀ fault, x ≠ .failSubscribers fault ∧ x ≠ .clear fault) :
    ∀ reply ∈ (r.apply x).1, ∃ id, r.Sincere x id reply := by
  intro reply hreply
  cases hid : x.entity? with
  | some id => exact ⟨id, sincere_of_entity? h hid reply hreply⟩
  | none =>
    obtain ⟨now, rfl⟩ | rfl | ⟨now, rfl⟩ | ⟨fault, rfl⟩ | ⟨fault, rfl⟩ :=
      Change.cases_of_nameless hid
    · exact sincere_expire h ht now reply hreply
    · exact sincere_demoteAll h reply hreply
    · exact absurd hreply List.not_mem_nil
    · exact absurd rfl (hx fault).1
    · exact absurd rfl (hx fault).2

end

/-- **Answers tell the truth.**  Take any history of a registry that was just built, in which no
two callers have the same ticket, and any change after it to which no answer is given.  Whoever the
change answers called for some entity, in the history or by the change itself; and every caller for
an entity whom it answers is answered in the way in which it called, and is told what is so of that
entity right after the change. -/
theorem replies_truthful (subscribeTimeout unsubscribeTimeout : Nat) (xs : List Change) (x : Change)
    (hdistinct : (((xs ++ [x]).filterMap Change.caller?).map (·.1)).Nodup)
    (hx : ∀ fault, x ≠ .failSubscribers fault ∧ x ≠ .clear fault) :
    let r := ((Registry.new subscribeTimeout unsubscribeTimeout).applyAll xs).2
    ∀ ticket answer, (ticket, answer) ∈ (r.apply x).1 →
      (∃ kind id, Asked (xs ++ [x]) (ticket, kind) id) ∧
      ∀ kind id, Asked (xs ++ [x]) (ticket, kind) id →
        answer.kind = kind ∧ r.Truthful x id answer := by
  intro r ticket answer hreply
  have hnew := ascending_new subscribeTimeout unsubscribeTimeout
  have htidy := tidy_new subscribeTimeout unsubscribeTimeout
  obtain ⟨id, hsincere⟩ := sincere_apply (ascending_applyAll hnew xs)
    (tidy_applyAll htidy xs) hx (ticket, answer) hreply
  have hasked : Asked (xs ++ [x]) (ticket, answer.kind) id := by
    rcases hsincere.party with hwaits | hcall
    · rcases asked_applyAll hnew xs hwaits with hbefore | ⟨y, hy, hcall⟩
      · exact absurd hbefore List.not_mem_nil
      · exact ⟨y, List.mem_append_left _ hy, hcall⟩
    · exact ⟨x, List.mem_append_right _ (List.mem_singleton_self x), hcall⟩
  refine ⟨⟨answer.kind, id, hasked⟩, ?_⟩
  intro kind key hother
  obtain ⟨hcaller, rfl⟩ := hasked.unique hdistinct hother rfl
  exact ⟨(Prod.mk.inj hcaller).2, hsincere.truthful⟩

/-- Two callers wait for the release of an entity when a third one wants it back: both are told that
it is released, and the third one waits. -/
theorem replies_truthful_superseded :
    let xs : List Change := [.subscribe "A" 0 0 true, .acknowledge "A" [],
      .unsubscribe "A" 1 5 true, .unsubscribe "A" 2 5 true]
    let x : Change := .subscribe "A" 3 6 true
    let r := ((Registry.new 10 10).applyAll xs).2
    (((xs ++ [x]).filterMap Change.caller?).map (·.1)).Nodup ∧
    (∀ fault, x ≠ .failSubscribers fault ∧ x ≠ .clear fault) ∧
    (r.apply x).1 = [(1, .unsubscribed (.ok ())), (2, .unsubscribed (.ok ()))] ∧
    ∀ ticket answer, (ticket, answer) ∈ (r.apply x).1 →
      (∃ kind id, Asked (xs ++ [x]) (ticket, kind) id) ∧
      ∀ kind id, Asked (xs ++ [x]) (ticket, kind) id →
        answer.kind = kind ∧ r.Truthful x id answer := by
  intro xs x r
  have hdistinct : (((xs ++ [x]).filterMap Change.caller?).map (·.1)).Nodup := by decide
  have hx : ∀ fault, x ≠ .failSubscribers fault ∧ x ≠ .clear fault := by
    intro fault
    exact ⟨nofun, nofun⟩
  exact ⟨hdistinct, hx, rfl, replies_truthful 10 10 xs x hdistinct hx⟩

end Registry
end LiveSync
