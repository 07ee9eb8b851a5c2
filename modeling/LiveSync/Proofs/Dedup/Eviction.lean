import Mathlib.Data.List.Induction
import Mathlib.Data.List.Perm.Subperm
import Mathlib.Logic.Relation
import LiveSync.Proofs.Dedup.Window

/-!
# A filter remembers no more than it may

The queue of a memo is cleaned lazily: it may hold things that were noted again later, and when the
clock goes back it is not in order of time either.  What keeps the two together all the same is that
everything that is remembered waits in the queue with the very time it was noted at.  So taking
things off the front of the queue forgets something in the end, whatever the queue holds besides.

* `Memo.evictOldest`, `Memo.Round` — one round of the loop that makes room, and the loop.
* `Memo.Sound` — nothing is remembered twice, and everything remembered waits in the queue.
* `Memo.seen_forget`, `subset_of_forget` — taking one thing off the queue forgets that very thing or
  nothing.
* `Memo.evictOldest_erases` — a round forgets exactly one thing.
* `Memo.rounds_shrink` — the rounds lead from a memo that is too full to one that fits.
* `Memo.kept_offer` — an offer keeps a memo sound and within its capacity.
* `DedupFilter.passed_of_mem_seen` — what is remembered passed since the filter was last cleared.
* `DedupFilter.bounded_and_truthful` — the three together, after any calls with any clock.
* `DedupFilter.held_back_by_collision` — the original may be another event, which collides.
-/

namespace LiveSync

open LiveSync.Json Relation

namespace Memo

variable {α : Type} [DecidableEq α]

/-! ## The loop that makes room -/

/-- Take things off the front of a queue until one of them is forgotten. -/
def evictFrom (m : Memo α) : (queue : List (α × Nat)) → Memo α
  | [] => { m with queue := [] }
  | e :: rest =>
    if m.lookup e.1 = some e.2 then { m.forget e with queue := rest } else m.evictFrom rest

/-- Forget the thing that waits first in the queue. -/
def evictOldest (m : Memo α) : Memo α :=
  m.evictFrom m.queue

/-- One round of the loop: a memo that is too full gives up a thing. -/
def Round (m m' : Memo α) : Prop :=
  m.capacity < m.size ∧ m' = m.evictOldest

/-- A memo when a thing has just been noted, before room is made. -/
def noted (m : Memo α) (a : α) (now : Nat) : Memo α :=
  { m with
    queue := m.queue ++ [(a, now)]
    seen := m.seen.filter (fun s => s.1 ≠ a) ++ [(a, now)] }

/-- A loop that makes room. -/
structure Loop (begun ended : Memo α) : Prop where
  /-- Rounds lead from its beginning to its end. -/
  rounds : ReflTransGen Round begun ended
  /-- In the end nothing more has to go. -/
  ends : ended.size ≤ ended.capacity
  /-- All the way what is remembered waits in the queue. -/
  queued : ∀ m, ReflTransGen Round begun m → m.seen ⊆ m.queue
  /-- Every round forgets one thing. -/
  forgets : ∀ m m', ReflTransGen Round begun m → m.Round m' → ∃ s ∈ m.seen, m'.seen = m.seen.erase s

/-- Nothing is remembered twice, and everything that is remembered waits in the queue. -/
structure Sound (m : Memo α) : Prop where
  /-- Nothing is remembered twice. -/
  once : (m.seen.map Prod.fst).Nodup
  /-- What is remembered waits in the queue with the time it was noted at. -/
  queued : m.seen ⊆ m.queue

/-! ## Taking one thing off the queue -/

section

variable {m : Memo α} {e : α × Nat} {rest : List (α × Nat)}

theorem lookup_eq_some_iff (ho : (m.seen.map Prod.fst).Nodup) :
    m.lookup e.1 = some e.2 ↔ e ∈ m.seen := by
  constructor
  · exact mem_of_lookup
  · intro he
    obtain ⟨time, hlookup, hmem⟩ := exists_lookup (List.mem_map_of_mem he)
    have heq : (e.1, time) = e := List.inj_on_of_nodup_map ho hmem he rfl
    rw [hlookup, ← heq]

/-- What comes off the queue is forgotten if it was noted last at that time; nothing else is. -/
theorem seen_forget (ho : (m.seen.map Prod.fst).Nodup) : (m.forget e).seen = m.seen.erase e := by
  unfold forget
  by_cases he : e ∈ m.seen
  · rw [if_pos ((lookup_eq_some_iff ho).2 he), ho.of_map.erase_eq_filter]
    apply List.filter_congr
    intro s hs
    have hiff : s.1 = e.1 ↔ s = e := ⟨List.inj_on_of_nodup_map ho hs he, congrArg Prod.fst⟩
    rw [Bool.eq_iff_iff]
    simp [hiff]
  · rw [if_neg (mt (lookup_eq_some_iff ho).1 he), List.erase_of_not_mem he]

theorem forget_of_not_mem (ho : (m.seen.map Prod.fst).Nodup) (he : e ∉ m.seen) : m.forget e = m :=
  if_neg (mt (lookup_eq_some_iff ho).1 he)

theorem once_forget (ho : (m.seen.map Prod.fst).Nodup) :
    ((m.forget e).seen.map Prod.fst).Nodup := by
  rw [seen_forget ho]
  exact ho.sublist (List.erase_sublist.map _)

/-- What is still remembered waits behind. -/
theorem subset_of_forget (ho : (m.seen.map Prod.fst).Nodup) (hq : m.seen ⊆ e :: rest) :
    (m.forget e).seen ⊆ rest := by
  intro s hs
  rw [seen_forget ho, ho.of_map.mem_erase_iff] at hs
  exact (List.mem_cons.1 (hq hs.2)).resolve_left hs.1

theorem queue_forget : (m.forget e).queue = m.queue := by
  unfold forget; split <;> rfl

theorem evictFrom_of_mem (ho : (m.seen.map Prod.fst).Nodup) (he : e ∈ m.seen) :
    m.evictFrom (e :: rest) = { m.forget e with queue := rest } :=
  if_pos ((lookup_eq_some_iff ho).2 he)

theorem evictFrom_of_not_mem (ho : (m.seen.map Prod.fst).Nodup) (he : e ∉ m.seen) :
    m.evictFrom (e :: rest) = m.evictFrom rest :=
  if_neg (mt (lookup_eq_some_iff ho).1 he)

end

/-! ## A round -/

section

variable {m : Memo α} {queue : List (α × Nat)}

/-- Whatever the queue holds besides, a round forgets one thing and leaves the others in the
queue. -/
theorem evictFrom_erases (ho : (m.seen.map Prod.fst).Nodup) (hq : m.seen ⊆ queue)
    (hm : 0 < m.size) :
    ∃ s ∈ m.seen, (m.evictFrom queue).seen = m.seen.erase s ∧
      m.seen.erase s ⊆ (m.evictFrom queue).queue := by
  induction queue with
  | nil => exact absurd (List.eq_nil_of_subset_nil hq) (List.ne_nil_of_length_pos hm)
  | cons e rest ih =>
    have hbehind : (m.forget e).seen ⊆ rest := subset_of_forget ho hq
    by_cases he : e ∈ m.seen
    · rw [evictFrom_of_mem ho he]
      refine ⟨e, he, seen_forget ho, ?_⟩
      rwa [seen_forget ho] at hbehind
    · -- `e` was noted again later, or is long forgotten
      rw [evictFrom_of_not_mem ho he]
      rw [forget_of_not_mem ho he] at hbehind
      exact ih hbehind

variable (h : m.Sound)
include h

/-- **A round forgets one thing**, and leaves the others as they are. -/
theorem evictOldest_erases (hm : 0 < m.size) :
    ∃ s ∈ m.seen, m.evictOldest.seen = m.seen.erase s ∧ m.seen.erase s ⊆ m.evictOldest.queue :=
  evictFrom_erases h.once h.queued hm

theorem sound_evictOldest (hm : 0 < m.size) : m.evictOldest.Sound := by
  obtain ⟨s, -, hseen, hqueue⟩ := evictOldest_erases h hm
  constructor
  · rw [hseen]
    exact h.once.sublist (List.erase_sublist.map _)
  · rwa [hseen]

theorem size_evictOldest (hm : 0 < m.size) : m.evictOldest.size + 1 = m.size := by
  obtain ⟨s, hs, hseen, -⟩ := evictOldest_erases h hm
  unfold size at hm ⊢
  rw [hseen, List.length_erase_of_mem hs]
  omega

end

/-! ## The whole loop -/

section

variable {m : Memo α} {queue : List (α × Nat)}

theorem forget_queue (e : α × Nat) :
    ({ m with queue := queue } : Memo α).forget e = { m.forget e with queue := queue } := by
  unfold forget lookup
  split <;> rfl

/-- Making room for a queue does not look at the queue that is there. -/
theorem shrink_queue (q : List (α × Nat)) :
    ({ m with queue := queue } : Memo α).shrink q = m.shrink q := by
  induction q generalizing m with
  | nil => rfl
  | cons e rest ih =>
    unfold shrink
    rw [forget_queue, ih]

/-- A memo that is too full makes room by a round first. -/
theorem shrink_eq_evictFrom (ho : (m.seen.map Prod.fst).Nodup) (hover : m.capacity < m.size) :
    m.shrink queue = (m.evictFrom queue).shrink (m.evictFrom queue).queue := by
  induction queue with
  | nil => rfl
  | cons e rest ih =>
    have hshrink : m.shrink (e :: rest) = (m.forget e).shrink rest := if_neg (Nat.not_le.2 hover)
    by_cases he : e ∈ m.seen
    · rw [hshrink, evictFrom_of_mem ho he]
      exact (shrink_queue rest).symm
    · rw [hshrink, evictFrom_of_not_mem ho he, forget_of_not_mem ho he]
      exact ih

theorem sound_round {m' : Memo α} (h : m.Sound) (hround : m.Round m') : m'.Sound := by
  obtain ⟨hover, rfl⟩ := hround
  exact sound_evictOldest h (Nat.zero_lt_of_lt hover)

theorem sound_rounds {m' : Memo α} (h : m.Sound) (hrounds : ReflTransGen Round m m') :
    m'.Sound := by
  induction hrounds with
  | refl => exact h
  | tail _ hround ih => exact sound_round ih hround

/-- **The loop ends**: rounds lead to a memo that fits. -/
theorem rounds_shrink (h : m.Sound) :
    ReflTransGen Round m (m.shrink m.queue) ∧
      (m.shrink m.queue).size ≤ (m.shrink m.queue).capacity := by
  induction hn : m.size using Nat.strong_induction_on generalizing m with
  | _ n ih =>
    by_cases hfits : m.size ≤ m.capacity
    · rw [shrink_fits hfits]
      exact ⟨.refl, hfits⟩
    · have hover : m.capacity < m.size := Nat.not_le.1 hfits
      have hm : 0 < m.size := Nat.zero_lt_of_lt hover
      have hsize : m.evictOldest.size + 1 = m.size := size_evictOldest h hm
      obtain ⟨hrounds, hends⟩ := ih m.evictOldest.size (by omega) (sound_evictOldest h hm) rfl
      rw [shrink_eq_evictFrom h.once hover]
      exact ⟨.head ⟨hover, rfl⟩ hrounds, hends⟩

theorem loop_shrink (h : m.Sound) : m.Loop (m.shrink m.queue) where
  rounds := (rounds_shrink h).1
  ends := (rounds_shrink h).2
  queued := fun _ hrounds => (sound_rounds h hrounds).queued
  forgets := by
    rintro m' _ hrounds ⟨hover, rfl⟩
    obtain ⟨s, hs, hseen, -⟩ :=
      evictOldest_erases (sound_rounds h hrounds) (Nat.zero_lt_of_lt hover)
    exact ⟨s, hs, hseen⟩

end

/-! ## An offer -/

section

variable {m : Memo α}

theorem note_eq_shrink (m : Memo α) (a : α) (now : Nat) :
    m.note a now = (m.noted a now).shrink (m.noted a now).queue :=
  (shrink_queue _).symm

theorem sound_foldl_forget {old : List (α × Nat)} (ho : (m.seen.map Prod.fst).Nodup)
    (hq : m.seen ⊆ old ++ m.queue) : (old.foldl forget m).Sound := by
  induction old generalizing m with
  | nil => exact ⟨ho, hq⟩
  | cons e old ih =>
    rw [List.foldl_cons]
    refine ih (once_forget ho) ?_
    rw [queue_forget]
    exact subset_of_forget ho hq

theorem sound_dropStale (h : m.Sound) (now : Nat) : (m.dropStale now).Sound := by
  refine sound_foldl_forget h.once ?_
  rw [List.takeWhile_append_dropWhile]
  exact h.queued

theorem sound_noted (h : m.Sound) (a : α) (now : Nat) : (m.noted a now).Sound where
  once := by
    have hothers : ((m.seen.filter fun s => s.1 ≠ a).map Prod.fst).Nodup :=
      h.once.sublist (List.filter_sublist.map _)
    unfold noted
    rw [List.map_append, List.nodup_append]
    refine ⟨hothers, List.nodup_singleton a, ?_⟩
    intro x hx y hy
    obtain rfl : y = a := List.mem_singleton.1 hy
    obtain ⟨s, hs, rfl⟩ := List.mem_map.1 hx
    simpa using (List.mem_filter.1 hs).2
  queued := by
    refine List.append_subset.2 ⟨?_, List.subset_append_right ..⟩
    intro s hs
    exact List.mem_append_left _ (h.queued (List.mem_filter.1 hs).1)

/-- A memo between two offers: sound, and within a limit that never changes. -/
structure Kept (m : Memo α) (limit : Nat) : Prop where
  /-- What is remembered waits in the queue. -/
  sound : m.Sound
  /-- So many things may be remembered. -/
  capacity : m.capacity = limit
  /-- No more are. -/
  short : m.size ≤ limit

variable {limit : Nat} (h : m.Kept limit)
include h

theorem kept_dropStale (now : Nat) : (m.dropStale now).Kept limit where
  sound := sound_dropStale h.sound now
  capacity := (congrArg Prod.snd (limits_dropStale m now)).trans h.capacity
  short := by
    have hsub : (m.dropStale now).seen ⊆ m.seen := fun _ => mem_seen_dropStale
    have honce := (sound_dropStale h.sound now).once.of_map
    exact Nat.le_trans (List.subperm_of_subset honce hsub).length_le h.short

theorem kept_note (a : α) (now : Nat) : (m.note a now).Kept limit := by
  have hcapacity : (m.note a now).capacity = limit :=
    (congrArg Prod.snd (limits_note m a now)).trans h.capacity
  have hnoted : (m.noted a now).Sound := sound_noted h.sound a now
  have hloop : (m.noted a now).Loop (m.note a now) := note_eq_shrink m a now ▸ loop_shrink hnoted
  exact ⟨sound_rounds hnoted hloop.rounds, hcapacity, hcapacity ▸ hloop.ends⟩

/-- **An offer keeps a memo sound and short.** -/
theorem kept_offer (a : α) (now : Nat) : (m.offer a now).2.Kept limit := by
  have hdrop : (m.dropStale now).Kept limit := kept_dropStale h now
  unfold offer
  dsimp only
  split
  · split
    · exact hdrop
    · exact kept_note hdrop a now
  · exact kept_note hdrop a now

end

omit [DecidableEq α] in
theorem kept_empty (window maxEntries : Nat) :
    (Memo.empty window maxEntries : Memo α).Kept (max 1 maxEntries) where
  sound := ⟨List.nodup_nil, List.nil_subset _⟩
  capacity := Nat.max_comm ..
  short := Nat.zero_le _

/-- What passes is noted, and then room is made for it. -/
theorem loop_of_offer {m : Memo α} (h : m.Sound) {a : α} {now : Nat}
    (hpassed : (m.offer a now).1 = false) :
    ((m.dropStale now).noted a now).Loop (m.offer a now).2 := by
  have hnote : (m.offer a now).2 = (m.dropStale now).note a now := by
    unfold offer at hpassed ⊢
    dsimp only at hpassed ⊢
    split at hpassed
    · split at hpassed
      · exact absurd hpassed.symm Bool.false_ne_true
      · rename_i hstale
        rw [if_neg hstale]
    · rfl
  rw [hnote, note_eq_shrink]
  exact loop_shrink (sound_noted (sound_dropStale h now) a now)

end Memo

namespace DedupFilter

/-! ## Calls -/

/-- Among the calls on a filter the event passed at that time, and nothing was cleared since. -/
def Passed (f : DedupFilter) (calls : List DedupCall) (event : String) (payload : Value)
    (time : Nat) : Prop :=
  ∃ earlier later, calls = earlier ++ .offer event payload time :: later ∧
    DedupCall.clear ∉ later ∧ ((f.after earlier).offer event payload time).1 = false

section

variable {f : DedupFilter} {calls : List DedupCall} {event : String} {payload : Value} {time : Nat}

theorem after_snoc (f : DedupFilter) (calls : List DedupCall) (c : DedupCall) :
    f.after (calls ++ [c]) = ((f.after calls).call c).2 := by
  unfold after
  rw [List.foldl_append, List.foldl_cons, List.foldl_nil]

theorem rules_after (f : DedupFilter) (calls : List DedupCall) :
    (f.after calls).rules = f.rules := by
  induction calls using List.reverseRecOn with
  | nil => rfl
  | append_singleton calls c ih =>
    rw [after_snoc, ← ih]
    cases c with
    | offer event payload now => exact rules_offer ..
    | clear => exact rules_clear _

theorem Passed.snoc (h : f.Passed calls event payload time) {c : DedupCall} (hc : c ≠ .clear) :
    f.Passed (calls ++ [c]) event payload time := by
  obtain ⟨earlier, later, rfl, hlater, hpassed⟩ := h
  refine ⟨earlier, later ++ [c], by simp, ?_, hpassed⟩
  rw [List.mem_append, List.mem_singleton]
  exact not_or.2 ⟨hlater, hc.symm⟩

theorem passed_snoc (h : ((f.after calls).offer event payload time).1 = false) :
    f.Passed (calls ++ [.offer event payload time]) event payload time :=
  ⟨calls, [], rfl, List.not_mem_nil, h⟩

/-- **What is remembered is listed and passed**, and nothing was cleared since. -/
theorem passed_of_mem_seen (hf : f.memo.seen = []) {s : Fingerprint × Nat}
    (hs : s ∈ (f.after calls).memo.seen) :
    ∃ event payload, event ∈ f.events ∧ fingerprint event payload = s.1 ∧
      f.Passed calls event payload s.2 := by
  induction calls using List.reverseRecOn with
  | nil =>
    have hnone : s ∈ f.memo.seen := hs
    rw [hf] at hnone
    exact absurd hnone List.not_mem_nil
  | append_singleton calls c ih =>
    rw [after_snoc] at hs
    cases c with
    | clear => exact absurd hs List.not_mem_nil
    | offer event payload now =>
      rcases mem_seen_offer hs with hold | ⟨hlisted, hpassed, rfl⟩
      · obtain ⟨event, payload, hlisted, hprint, hpassed⟩ := ih hold
        exact ⟨event, payload, hlisted, hprint, hpassed.snoc nofun⟩
      · have hevents : (f.after calls).events = f.events :=
          congrArg Prod.fst (rules_after f calls)
        exact ⟨event, payload, hevents ▸ hlisted, rfl, passed_snoc hpassed⟩

theorem kept_call {limit : Nat} (h : f.memo.Kept limit) (c : DedupCall) :
    (f.call c).2.memo.Kept limit := by
  cases c with
  | clear => exact ⟨⟨List.nodup_nil, List.nil_subset _⟩, h.capacity, Nat.zero_le _⟩
  | offer event payload now =>
    unfold call offer
    dsimp only
    split
    · exact Memo.kept_offer h (fingerprint event payload) now
    · exact h

theorem kept_after {limit : Nat} (h : f.memo.Kept limit) (calls : List DedupCall) :
    (f.after calls).memo.Kept limit := by
  induction calls using List.reverseRecOn with
  | nil => exact h
  | append_singleton calls c ih => rw [after_snoc]; exact kept_call ih c

end

/-- **A filter remembers no more than it may, and no more than what passed.**  After any calls, also
when the clock goes back: as many events are remembered as may be, at most; what is remembered waits
in the queue; when an event passes, the loop that makes room for it forgets one thing in every round
and ends; and an event is held back only if it is listed and passed within the window before, itself
or a listed event whose message collides with it, with nothing cleared since. -/
theorem bounded_and_truthful (window maxEntries : Nat) (events : List String)
    (calls : List DedupCall) :
    let filter := new window maxEntries events
    let f := filter.after calls
    f.size ≤ max 1 maxEntries ∧ f.memo.seen ⊆ f.memo.queue ∧
      ∀ event payload now,
        (event ∈ events → (f.offer event payload now).1 = false →
          ((f.memo.dropStale now).noted (fingerprint event payload) now).Loop
            (f.offer event payload now).2.memo) ∧
        ((f.offer event payload now).1 = true → event ∈ events ∧
          ∃ name original time, name ∈ events ∧ Twins name original event payload ∧
            filter.Passed calls name original time ∧ now - time < window) := by
  intro filter f
  have hkept : f.memo.Kept (max 1 maxEntries) :=
    kept_after (Memo.kept_empty window maxEntries) calls
  obtain ⟨hevents, hwindow⟩ : f.events = events ∧ f.memo.window = window :=
    Prod.mk.inj (rules_after filter calls)
  refine ⟨hkept.short, hkept.sound.queued, ?_⟩
  intro event payload now
  constructor
  · intro hlisted hpassed
    have hcontains : f.events.contains event = true := by simpa [hevents] using hlisted
    unfold offer at hpassed ⊢
    rw [if_pos hcontains] at hpassed ⊢
    exact Memo.loop_of_offer hkept.sound hpassed
  · intro hheld
    obtain ⟨hlisted, noted, hmem, hfresh⟩ := seen_of_offer hheld
    obtain ⟨name, original, hname, hprint, hpassed⟩ := passed_of_mem_seen rfl hmem
    exact ⟨hevents ▸ hlisted, name, original, noted, hname, twins_iff.2 hprint, hpassed,
      hwindow ▸ hfresh⟩

/-- The clock goes back, and the second event passes again while it still waits in the queue with
its first time.  When a fourth event comes, the round passes over that place and forgets the second
event at the next one; the third one is still held back. -/
theorem bounded_and_truthful_clock_back :
    let calls : List DedupCall := [.offer "pong" (.ofNat 1) 20, .offer "pong" (.ofNat 2) 5,
      .offer "pong" (.ofNat 2) 16, .offer "pong" (.ofNat 3) 17]
    let f := (new 10 2 ["pong"]).after calls
    let print (n : Nat) := fingerprint "pong" (.ofNat n)
    f.memo.queue = [(print 2, 5), (print 2, 16), (print 3, 17)] ∧
      f.memo.seen = [(print 2, 16), (print 3, 17)] ∧
      (f.offer "pong" (.ofNat 4) 5).1 = false ∧
      (f.offer "pong" (.ofNat 4) 5).2.memo.seen = [(print 3, 17), (print 4, 5)] ∧
      ((f.memo.dropStale 5).noted (print 4) 5).Loop (f.offer "pong" (.ofNat 4) 5).2.memo ∧
      (f.offer "pong" (.ofNat 3) 0).1 = true ∧
      ∃ name original time, name ∈ ["pong"] ∧ Twins name original "pong" (.ofNat 3) ∧
        (new 10 2 ["pong"]).Passed calls name original time ∧ 0 - time < 10 := by
  intro calls f print
  have hpassed : (f.offer "pong" (.ofNat 4) 5).1 = false := by decide +kernel
  have hheld : (f.offer "pong" (.ofNat 3) 0).1 = true := by decide +kernel
  -- as a local definition the filter would be evaluated at every step
  have hf : f = (new 10 2 ["pong"]).after calls := rfl
  clear_value f
  subst hf
  obtain ⟨-, -, hoffer⟩ := bounded_and_truthful 10 2 ["pong"] calls
  obtain ⟨hloop, -⟩ := hoffer "pong" (.ofNat 4) 5
  obtain ⟨-, horiginal⟩ := hoffer "pong" (.ofNat 3) 0
  refine ⟨by decide +kernel, by decide +kernel, hpassed, by decide +kernel, ?_, hheld, ?_⟩
  · exact hloop List.mem_cons_self hpassed
  · exact (horiginal hheld).2

/-- An answer to a ping is held back although it was never offered before: the answer to another
ping, which passed, collides with it. -/
theorem held_back_by_collision :
    let calls : List DedupCall := [.offer "pong" (pongOf 3951985255804785492) 0]
    let filter := new 10 2 ["pong"]
    ((filter.after calls).offer "pong" (pongOf 1399741059917809693) 1).1 = true ∧
      ∀ time, ¬ filter.Passed calls "pong" (pongOf 1399741059917809693) time := by
  intro calls filter
  refine ⟨by decide +kernel, ?_⟩
  rintro time ⟨earlier, later, hcalls, -, -⟩
  have hmem : DedupCall.offer "pong" (pongOf 1399741059917809693) time ∈ calls := by
    rw [hcalls]
    exact List.mem_append_right _ List.mem_cons_self
  obtain ⟨-, hpayload, -⟩ := DedupCall.offer.inj (List.mem_singleton.1 hmem)
  exact absurd hpayload (by decide +kernel)

end DedupFilter
end LiveSync
