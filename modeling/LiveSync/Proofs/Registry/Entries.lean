import LiveSync.Proofs.Registry.Changes

/-!
# What becomes of an entry

A change leaves an entity with the entry that it had, with a new one, or with an altered one, and
there are few ways to alter an entry.  `Registry.Leaves` lists them, so that whatever is claimed of
all entries after a change is a matter of going through that list.

* `leaves_of_mem` — an entry that is there after a change is one that the change leaves.
* `all_apply` — what holds of every entry that a change leaves, holds of all entries.
* `queued_apply`, `carried_apply` — without a connection entries stay queued, and on a connection
  they stay carried.
* `Entry.Timed`, `timed_applyAll` — only a request that went out and is not acknowledged has a
  deadline, after every history.
-/

namespace LiveSync
namespace Registry

/-- The change leaves the entity with that entry. -/
inductive Leaves (r : Registry) : Change → String → Entry → Prop where
  /-- One that it had. -/
  | kept {x : Change} {id : String} {e : Entry} (hm : (id, e) ∈ r.entries) : Leaves r x id e
  /-- A new one; it had none, or one that was being released. -/
  | opened {id : String} (ticket : Ticket) (now : Nat) (connected : Bool)
      (hnew : ∀ e, r.get? id = some e → e.status = .releasing) :
      Leaves r (.subscribe id ticket now connected) id (r.fresh ticket now connected)
  /-- One more caller waits to be subscribed. -/
  | joined {id : String} {e : Entry} (ticket : Ticket) (now : Nat) (connected : Bool)
      (hm : (id, e) ∈ r.entries) (hs : e.status = .pending) :
      Leaves r (.subscribe id ticket now connected) id
        { e with subscribers := e.subscribers ++ [ticket] }
  /-- One more caller waits for the release. -/
  | rejoined {id : String} {e : Entry} (ticket : Ticket) (now : Nat) (connected : Bool)
      (hm : (id, e) ∈ r.entries) (hs : e.status = .releasing) :
      Leaves r (.unsubscribe id ticket now connected) id
        { e with releasers := e.releasers ++ [ticket] }
  /-- Its release was asked for. -/
  | parted {id : String} {e : Entry} (ticket : Ticket) (now : Nat)
      (hm : (id, e) ∈ r.entries) (hs : e.status = .active) :
      Leaves r (.unsubscribe id ticket now true) id { e with
        status := .releasing
        deadline := deadlineAfter now r.unsubscribeTimeout
        releasers := e.releasers ++ [ticket] }
  /-- It was acknowledged. -/
  | acknowledged {id : String} {e : Entry} (watchers : List Json.Value)
      (hm : (id, e) ∈ r.entries) (hs : e.status = .pending) :
      Leaves r (.acknowledge id watchers) id { e with
        status := .active, deadline := none, watchers := watchers, subscribers := [] }
  /-- It has other watchers. -/
  | watched {id : String} {e : Entry} (watchers : List Json.Value) (hm : (id, e) ∈ r.entries) :
      Leaves r (.setWatchers id watchers) id { e with watchers := watchers }
  /-- It lost the connection. -/
  | demoted {id : String} {e : Entry} (hm : (id, e) ∈ r.entries) (hs : e.status ≠ .releasing) :
      Leaves r .demoteAll id e.demoted
  /-- Its request went out. -/
  | reissued {id : String} {e : Entry} (now : Nat) (hm : (id, e) ∈ r.entries)
      (hu : e.isUnsent = true) :
      Leaves r (.reissue now) id
        { e with sent := true, deadline := deadlineAfter now r.subscribeTimeout }
  /-- Nobody waits to be subscribed any more. -/
  | failed {id : String} {e : Entry} (fault : Fault) (hm : (id, e) ∈ r.entries) :
      Leaves r (.failSubscribers fault) id { e with subscribers := [] }

section

variable {r : Registry} {x : Change} {key id : String} {e : Entry}

/-- After an entry was stored, an entity has that one or one that it had. -/
theorem leaves_put {e' : Entry} (hx : r.Leaves x key e') (hm : (id, e) ∈ (r.put key e').entries) :
    r.Leaves x id e := by
  rcases mem_put hm with heq | hm
  · obtain ⟨rfl, rfl⟩ := Prod.mk.inj heq
    exact hx
  · exact .kept hm

/-- After an entry was dropped, an entity has one that it had. -/
theorem leaves_drop (hm : (id, e) ∈ (r.drop key).entries) : r.Leaves x id e :=
  .kept (mem_drop hm)

theorem leaves_subscribe {ticket : Ticket} {now : Nat} {connected : Bool}
    (hm : (id, e) ∈ (r.subscribe key ticket now connected).2.2.entries) :
    r.Leaves (.subscribe key ticket now connected) id e := by
  unfold subscribe at hm
  split at hm
  · rename_i hnone
    refine leaves_put (.opened ticket now connected ?_) hm
    intro e' hg
    exact absurd (hnone.symm.trans hg) nofun
  · rename_i e' hg
    split at hm
    · exact .kept hm
    · rename_i hs
      exact leaves_put (.joined ticket now connected (mem_of_get? hg) hs) hm
    · rename_i hs
      refine leaves_put (.opened ticket now connected ?_) hm
      intro e'' hg'
      rw [Option.some.inj (hg'.symm.trans hg)]
      exact hs

theorem leaves_unsubscribe {ticket : Ticket} {now : Nat} {connected : Bool}
    (hm : (id, e) ∈ (r.unsubscribe key ticket now connected).2.2.entries) :
    r.Leaves (.unsubscribe key ticket now connected) id e := by
  unfold unsubscribe at hm
  split at hm
  · exact .kept hm
  · rename_i e' hg
    split at hm
    · rename_i hs
      exact leaves_put (.rejoined ticket now connected (mem_of_get? hg) hs) hm
    · split at hm
      · rename_i hactive
        obtain ⟨hs, rfl⟩ := hactive
        exact leaves_put (.parted ticket now (mem_of_get? hg) hs) hm
      · exact leaves_drop hm

theorem leaves_acknowledge {watchers : List Json.Value}
    (hm : (id, e) ∈ (r.acknowledge key watchers).2.2.entries) :
    r.Leaves (.acknowledge key watchers) id e := by
  unfold acknowledge at hm
  split at hm
  · exact .kept hm
  · rename_i e' hg
    split at hm
    · rename_i hs
      exact leaves_put (.acknowledged watchers (mem_of_get? hg) hs) hm
    · exact .kept hm

theorem leaves_reject {why : String} (hm : (id, e) ∈ (r.reject key why).2.2.entries) :
    r.Leaves (.reject key why) id e := by
  unfold reject at hm
  split at hm
  · exact .kept hm
  · split at hm
    · exact leaves_drop hm
    · exact .kept hm

theorem leaves_release (hm : (id, e) ∈ (r.release key).2.2.entries) :
    r.Leaves (.release key) id e := by
  unfold release at hm
  split at hm
  · exact .kept hm
  · split at hm
    · exact leaves_drop hm
    · exact .kept hm

theorem leaves_setWatchers {watchers : List Json.Value}
    (hm : (id, e) ∈ (r.setWatchers key watchers).2.entries) :
    r.Leaves (.setWatchers key watchers) id e := by
  unfold setWatchers at hm
  split at hm
  · exact .kept hm
  · rename_i e' hg
    exact leaves_put (.watched watchers (mem_of_get? hg)) hm

theorem leaves_demoteAll (hm : (id, e) ∈ r.demoteAll.2.entries) : r.Leaves .demoteAll id e := by
  obtain ⟨⟨key, e'⟩, hkept, heq⟩ := List.mem_map.1 hm
  obtain ⟨rfl, rfl⟩ := Prod.mk.inj heq
  obtain ⟨hm', hs⟩ := List.mem_filter.1 hkept
  exact .demoted hm' (by simpa using hs)

theorem leaves_reissue {now : Nat} (hm : (id, e) ∈ (r.reissue now).2.entries) :
    r.Leaves (.reissue now) id e := by
  obtain ⟨⟨key, e'⟩, hm', heq⟩ := List.mem_map.1 hm
  split at heq
  · rename_i hu
    obtain ⟨rfl, rfl⟩ := Prod.mk.inj heq
    exact .reissued now hm' hu
  · obtain ⟨rfl, rfl⟩ := Prod.mk.inj heq
    exact .kept hm'

theorem leaves_failSubscribers {fault : Fault}
    (hm : (id, e) ∈ (r.failSubscribers fault).2.entries) :
    r.Leaves (.failSubscribers fault) id e := by
  obtain ⟨⟨key, e'⟩, hm', heq⟩ := List.mem_map.1 hm
  obtain ⟨rfl, rfl⟩ := Prod.mk.inj heq
  exact .failed fault hm'

/-- **An entry that is there after a change** is one that the change leaves. -/
theorem leaves_of_mem (hm : (id, e) ∈ (r.apply x).2.entries) : r.Leaves x id e := by
  cases x with
  | subscribe key ticket now connected => exact leaves_subscribe hm
  | unsubscribe key ticket now connected => exact leaves_unsubscribe hm
  | acknowledge key watchers => exact leaves_acknowledge hm
  | reject key why => exact leaves_reject hm
  | release key => exact leaves_release hm
  | setWatchers key watchers => exact leaves_setWatchers hm
  | expire now => exact .kept (List.mem_filter.1 hm).1
  | demoteAll => exact leaves_demoteAll hm
  | reissue now => exact leaves_reissue hm
  | failSubscribers fault => exact leaves_failSubscribers hm
  | clear fault => exact absurd hm List.not_mem_nil

/-- What holds of every entry that a change leaves, holds of all entries afterwards. -/
theorem all_apply {P : Entry → Prop} (hP : ∀ id e, r.Leaves x id e → P e) :
    (r.apply x).2.All P := by
  rintro ⟨id, e⟩ hm
  exact hP id e (leaves_of_mem hm)

end

/-! ## Without a connection and with one -/

/-- The change can be made while there is no connection. -/
def Change.Offline : Change → Prop
  | .subscribe _ _ _ connected | .unsubscribe _ _ _ connected => connected = false
  | .acknowledge .. | .reissue _ => False
  | .reject .. | .release _ | .setWatchers .. | .expire _ | .demoteAll | .failSubscribers _
  | .clear _ => True

/-- The change can be made on a connection that stays. -/
def Change.Online : Change → Prop
  | .subscribe _ _ _ connected | .unsubscribe _ _ _ connected => connected = true
  | .demoteAll => False
  | .acknowledge .. | .reject .. | .release _ | .setWatchers .. | .expire _ | .reissue _
  | .failSubscribers _ | .clear _ => True

section

variable {r : Registry} {x : Change} {id : String} {e : Entry}

theorem queued_of_leaves (h : r.All Entry.Queued) (hx : x.Offline) (hl : r.Leaves x id e) :
    e.Queued := by
  cases hl with
  | kept hm => exact h _ hm
  | opened ticket now connected =>
    obtain rfl : connected = false := hx
    exact ⟨rfl, rfl, rfl, rfl⟩
  | joined _ _ _ hm | watched _ hm | failed _ hm =>
    obtain ⟨hpending, hunsent, huntimed, hunreleased⟩ := h _ hm
    exact ⟨hpending, hunsent, huntimed, hunreleased⟩
  | rejoined _ _ _ hm hs | parted _ _ hm hs =>
    exact absurd ((h _ hm).pending.symm.trans hs) nofun
  | demoted hm => exact ⟨rfl, rfl, rfl, (h _ hm).unreleased⟩
  | acknowledged | reissued => exact hx.elim

/-- **Without a connection entries stay queued.** -/
theorem queued_apply (h : r.All Entry.Queued) (hx : x.Offline) : (r.apply x).2.All Entry.Queued :=
  all_apply fun _ _ => queued_of_leaves h hx

variable {s u : Nat} (hs : r.subscribeTimeout = s) (hu : r.unsubscribeTimeout = u)

include hs in
theorem carried_fresh (ticket : Ticket) (now : Nat) : (r.fresh ticket now true).Carried s u := by
  constructor
  case sent => rfl
  case pending => exact fun _ => hs ▸ deadlineAfter_isSome_iff now r.subscribeTimeout
  case releasing => exact nofun
  case active => exact nofun
  case unreleased => exact fun _ => rfl

include hs hu

theorem carried_of_leaves (h : r.All (Entry.Carried s u)) (hx : x.Online) (hl : r.Leaves x id e) :
    e.Carried s u := by
  cases hl with
  | kept hm => exact h _ hm
  | opened ticket now connected =>
    obtain rfl : connected = true := hx
    exact carried_fresh hs ticket now
  | joined _ _ _ hm | watched _ hm | failed _ hm =>
    obtain ⟨hsent, hpending, hreleasing, hactive, hunreleased⟩ := h _ hm
    exact ⟨hsent, hpending, hreleasing, hactive, hunreleased⟩
  | rejoined _ _ _ hm hstatus =>
    obtain ⟨hsent, hpending, hreleasing, hactive, -⟩ := h _ hm
    exact ⟨hsent, hpending, hreleasing, hactive, fun hne => absurd hstatus hne⟩
  | parted _ now hm =>
    constructor
    case sent => exact (h _ hm).sent
    case pending => exact nofun
    case releasing => exact fun _ => hu ▸ deadlineAfter_isSome_iff now r.unsubscribeTimeout
    case active => exact nofun
    case unreleased => exact fun hne => absurd rfl hne
  | acknowledged _ hm hstatus =>
    constructor
    case sent => exact (h _ hm).sent
    case pending => exact nofun
    case releasing => exact nofun
    case active => exact fun _ => rfl
    case unreleased => exact fun _ => (h _ hm).unreleased (by rw [hstatus]; decide)
  | reissued _ hm hunsent =>
    simp only [Entry.isUnsent, Bool.and_eq_true, Bool.not_eq_true'] at hunsent
    exact absurd (hunsent.2.symm.trans (h _ hm).sent) Bool.false_ne_true
  | demoted => exact hx.elim

/-- **On a connection entries stay carried.** -/
theorem carried_apply (h : r.All (Entry.Carried s u)) (hx : x.Online) :
    (r.apply x).2.All (Entry.Carried s u) :=
  all_apply fun _ _ => carried_of_leaves hs hu h hx

end

end Registry

/-! ## Deadlines -/

/-- Only a request that went out and is not acknowledged has a deadline. -/
structure Entry.Timed (e : Entry) : Prop where
  /-- An acknowledged subscription has none. -/
  active : e.status = .active → e.deadline = none
  /-- A subscription that waits for a connection has none. -/
  unsent : e.isUnsent = true → e.deadline = none

theorem Entry.Timed.of_untimed {e : Entry} (h : e.deadline = none) : e.Timed :=
  ⟨fun _ => h, fun _ => h⟩

/-- What is being released may have any deadline. -/
theorem Entry.Timed.of_releasing {e : Entry} (h : e.status = .releasing) : e.Timed := by
  constructor
  case active =>
    intro hs
    exact absurd (h.symm.trans hs) nofun
  case unsent =>
    intro hu
    simp [isUnsent, h] at hu

/-- What is asked for may have any deadline once its request went out. -/
theorem Entry.Timed.of_sent {e : Entry} (hp : e.status = .pending) (h : e.sent = true) :
    e.Timed := by
  constructor
  case active =>
    intro hs
    exact absurd (hp.symm.trans hs) nofun
  case unsent =>
    intro hu
    simp [isUnsent, h] at hu

namespace Registry

theorem timed_fresh (r : Registry) (ticket : Ticket) (now : Nat) (connected : Bool) :
    (r.fresh ticket now connected).Timed := by
  cases connected with
  | false => exact .of_untimed rfl
  | true => exact .of_sent rfl rfl

theorem timed_of_leaves {r : Registry} (ht : r.All Entry.Timed) {x : Change} {id : String}
    {e : Entry} (hl : r.Leaves x id e) : e.Timed := by
  cases hl with
  | kept hm => exact ht _ hm
  | opened ticket now connected => exact timed_fresh r ticket now connected
  | joined _ _ _ hm => exact ⟨(ht _ hm).active, (ht _ hm).unsent⟩
  | rejoined _ _ _ _ hs => exact .of_releasing hs
  | parted => exact .of_releasing rfl
  | acknowledged => exact .of_untimed rfl
  | watched _ hm => exact ⟨(ht _ hm).active, (ht _ hm).unsent⟩
  | demoted => exact .of_untimed rfl
  | reissued _ _ hu =>
    simp only [Entry.isUnsent, Bool.and_eq_true, decide_eq_true_eq] at hu
    exact .of_sent hu.1 rfl
  | failed _ hm => exact ⟨(ht _ hm).active, (ht _ hm).unsent⟩

/-- **Only a request that went out and is not acknowledged has a deadline**, after every history. -/
theorem timed_applyAll {r : Registry} (ht : r.All Entry.Timed) (xs : List Change) :
    (r.applyAll xs).2.All Entry.Timed :=
  applyAll_induction (P := (Registry.All · Entry.Timed))
    (fun _ _ ht => all_apply fun _ _ => timed_of_leaves ht) ht xs

end Registry
end LiveSync
