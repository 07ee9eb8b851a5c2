import Mathlib.Data.List.Nodup
import LiveSync.Proofs.Dedup.Log
import LiveSync.Proofs.Dedup.Provenance

/-!
# A filter is a window over one list

The filter keeps a queue that it cleans lazily, and beside it what it remembers.  As long as the
clock does not go back the two are the same list, and the filter does what one plain list does:
drop what is too old, look for the fingerprint, note it at the end, and give up the head when there
are too many.

* `Memo.Follows` — queue and memory are the list of a log, sorted by time and without repetition.
* `follows_dropStale`, `follows_note`, `follows_offer` — each step of a memo keeps it so.
* `follows_call` — so does a call on a filter, beside the log of fingerprints.
* `answers_eq_log` — filter and log give the same answers and have the same size after every call,
  and the log may as well be kept of the events themselves where no fingerprints collide.
-/

namespace LiveSync

open LiveSync.Json

/-! ## Lists in order of time -/

/-- What holds of a later element only if it holds of the earlier ones is dropped from the front
or not at all. -/
theorem dropWhile_eq_filter {α : Type} {p : α → Bool} {l : List α}
    (h : l.Pairwise fun x y => p y = true → p x = true) :
    l.dropWhile p = l.filter fun x => !p x := by
  induction l with
  | nil => rfl
  | cons x l ih =>
    obtain ⟨hx, hl⟩ := List.pairwise_cons.1 h
    cases hp : p x with
    | true =>
      rw [List.dropWhile_cons_of_pos hp, List.filter_cons_of_neg (by simp [hp]), ih hl]
    | false =>
      rw [List.dropWhile_cons_of_neg (by simp [hp]), List.filter_cons_of_pos (by simp [hp])]
      refine congrArg (x :: ·) (List.filter_eq_self.2 fun y hy => ?_).symm
      cases hy' : p y with
      | true => exact absurd (hx y hy hy') (by simp [hp])
      | false => rfl

namespace Memo

variable {α : Type} [DecidableEq α]

/-- Queue and memory are the list of a log, in which every thing occurs once, in order of time, and
not too many; nothing in it passed after `last`. -/
structure Follows (m : Memo α) (l : Log α) (last : Nat) : Prop where
  /-- They have the same window. -/
  window : m.window = l.window
  /-- They hold equally many things. -/
  capacity : m.capacity = l.capacity
  /-- There is room for one thing. -/
  room : 0 < l.capacity
  /-- The queue is the list. -/
  queue : m.queue = l.entries
  /-- The memory is the list. -/
  seen : m.seen = l.entries
  /-- Nothing is listed twice. -/
  once : (l.entries.map Prod.fst).Nodup
  /-- The list is in order of time. -/
  sorted : l.entries.Pairwise fun x y => x.2 ≤ y.2
  /-- Nothing is listed that passed after `last`. -/
  past : ∀ e ∈ l.entries, e.2 ≤ last
  /-- The list is not too long. -/
  short : l.entries.length ≤ l.capacity

section

variable {m : Memo α} {a : α} {now : Nat}

theorem lookup_eq_none (h : a ∉ m.seen.map Prod.fst) : m.lookup a = none := by
  unfold lookup
  rw [Option.map_eq_none_iff, List.find?_eq_none]
  exact fun e he hea => h (List.mem_map.2 ⟨e, he, by simpa using hea⟩)

theorem exists_lookup (h : a ∈ m.seen.map Prod.fst) :
    ∃ noted, m.lookup a = some noted ∧ (a, noted) ∈ m.seen := by
  obtain ⟨e, he, rfl⟩ := List.mem_map.1 h
  obtain ⟨noted, hnoted⟩ : ∃ noted, m.lookup e.1 = some noted := by
    refine Option.isSome_iff_exists.1 ?_
    rw [lookup, Option.isSome_map, List.find?_isSome]
    exact ⟨e, he, decide_eq_true rfl⟩
  exact ⟨noted, hnoted, mem_of_lookup hnoted⟩

/-- The first thing that is remembered is forgotten when its turn comes. -/
theorem forget_head {e : α × Nat} {rest : List (α × Nat)} (hs : m.seen = e :: rest)
    (ho : e.1 ∉ rest.map Prod.fst) : m.forget e = { m with seen := rest } := by
  have hlookup : m.lookup e.1 = some e.2 := by simp [lookup, hs]
  have hrest : rest.filter (fun s => decide (s.1 ≠ e.1)) = rest :=
    List.filter_eq_self.2 fun s hsm =>
      by simpa using fun heq : s.1 = e.1 => ho (List.mem_map.2 ⟨s, hsm, heq⟩)
  unfold forget
  rw [if_pos hlookup, hs, List.filter_cons_of_neg (by simp), hrest]

/-- So are the first ones, one after the other. -/
theorem foldl_forget {old rest : List (α × Nat)} (hs : m.seen = old ++ rest)
    (ho : (m.seen.map Prod.fst).Nodup) : old.foldl forget m = { m with seen := rest } := by
  induction old generalizing m with
  | nil => rw [List.foldl_nil, ← List.nil_append rest, ← hs]
  | cons e old ih =>
    rw [hs, List.cons_append, List.map_cons, List.nodup_cons] at ho
    rw [List.foldl_cons, forget_head hs ho.1]
    exact ih rfl ho.2

/-- What is new is noted last. -/
theorem note_eq (ha : a ∉ m.seen.map Prod.fst) :
    m.note a now = ({ m with seen := m.seen ++ [(a, now)] } : Memo α).shrink
      (m.queue ++ [(a, now)]) := by
  have hothers : m.seen.filter (fun s => decide (s.1 ≠ a)) = m.seen :=
    List.filter_eq_self.2 fun s hs =>
      by simpa using fun heq : s.1 = a => ha (List.mem_map.2 ⟨s, hs, heq⟩)
  unfold note
  rw [hothers]

/-- What fits stays. -/
theorem shrink_fits (hfits : m.seen.length ≤ m.capacity) (queue : List (α × Nat)) :
    m.shrink queue = { m with queue := queue } := by
  cases queue with
  | nil => rfl
  | cons e rest =>
    unfold shrink
    rw [if_pos hfits]

/-- Of one thing too many the first one goes. -/
theorem shrink_over {e : α × Nat} {rest : List (α × Nat)} (hs : m.seen = e :: rest)
    (ho : e.1 ∉ rest.map Prod.fst) (hover : m.capacity < (e :: rest).length)
    (hfits : rest.length ≤ m.capacity) :
    m.shrink (e :: rest) = { m with queue := rest, seen := rest } := by
  unfold shrink
  rw [if_neg (by rw [hs]; omega), forget_head hs ho]
  exact shrink_fits (m := { m with seen := rest }) hfits rest

end

section

variable {m : Memo α} {l : Log α} {last now : Nat} (h : m.Follows l last)
include h

/-- What is too old is at the front of the queue, and nothing else is. -/
theorem follows_dropStale (hnow : last ≤ now) :
    (m.dropStale now).Follows { l with entries := l.fresh now } now := by
  have hold : l.entries.Pairwise fun x y =>
      (!m.isFresh y.2 now) = true → (!m.isFresh x.2 now) = true :=
    h.sorted.imp fun hle hy => by
      simp only [isFresh, Bool.not_eq_true', decide_eq_false_iff_not] at hy ⊢
      omega
  have hfresh : l.entries.dropWhile (fun e => !m.isFresh e.2 now) = l.fresh now := by
    rw [dropWhile_eq_filter hold]
    refine List.filter_congr fun e _ => ?_
    rw [isFresh, h.window, Bool.not_not, ← decide_not, decide_eq_decide, Nat.not_le]
  have hsplit : m.seen = l.entries.takeWhile (fun e => !m.isFresh e.2 now) ++ l.fresh now := by
    rw [← hfresh, List.takeWhile_append_dropWhile, h.seen]
  have heq : m.dropStale now = { m with queue := l.fresh now, seen := l.fresh now } := by
    unfold dropStale
    rw [h.queue, hfresh]
    exact foldl_forget (m := { m with queue := l.fresh now }) hsplit
      (by simpa [h.seen] using h.once)
  rw [heq]
  exact { window := h.window, capacity := h.capacity, room := h.room, queue := rfl, seen := rfl
          once := h.once.sublist (List.filter_sublist.map _)
          sorted := h.sorted.sublist List.filter_sublist
          past := fun e he => Nat.le_trans (h.past e (List.mem_filter.1 he).1) hnow
          short := Nat.le_trans (List.length_filter_le ..) h.short }

/-- A thing that is not listed is listed last, and the head has to go if there are too many. -/
theorem follows_note {a : α} (ha : a ∉ l.entries.map Prod.fst) (hnow : last ≤ now) :
    let noted := l.entries ++ [(a, now)]
    (m.note a now).Follows
      { l with entries := if l.capacity < noted.length then noted.tail else noted } now := by
  intro noted
  have hnoted : m.note a now = ({ m with seen := noted } : Memo α).shrink noted := by
    rw [note_eq (by rwa [h.seen]), h.queue, h.seen]
  have honce : (noted.map Prod.fst).Nodup := by
    rw [List.map_append, List.nodup_append]
    refine ⟨h.once, List.nodup_singleton a, ?_⟩
    rintro x hx y hy rfl
    obtain rfl : x = a := List.mem_singleton.1 hy
    exact ha hx
  have hsorted : noted.Pairwise fun x y => x.2 ≤ y.2 := by
    refine List.pairwise_append.2 ⟨h.sorted, List.pairwise_singleton .., fun e he x hx => ?_⟩
    rw [List.mem_singleton.1 hx]
    exact Nat.le_trans (h.past e he) hnow
  have hpast : ∀ e ∈ noted, e.2 ≤ now := fun e he =>
    (List.mem_append.1 he).elim (fun he => Nat.le_trans (h.past e he) hnow)
      fun he => Nat.le_of_eq (congrArg Prod.snd (List.mem_singleton.1 he))
  have hlength : noted.length = l.entries.length + 1 := by simp [noted]
  have hshort := h.short
  rw [hnoted]
  by_cases hfull : l.capacity < noted.length
  · obtain ⟨e, rest, hcons⟩ : ∃ e rest, noted = e :: rest :=
      List.exists_cons_of_length_pos (by omega)
    have hlen : rest.length = l.entries.length := by
      have : noted.length = rest.length + 1 := by rw [hcons, List.length_cons]
      omega
    have hfirst : e.1 ∉ rest.map Prod.fst := by
      rw [hcons, List.map_cons, List.nodup_cons] at honce
      exact honce.1
    have hsub : rest.Sublist noted := hcons ▸ List.sublist_cons_self ..
    rw [if_pos hfull, hcons, List.tail_cons,
      shrink_over rfl hfirst (by rw [← hcons, h.capacity]; omega) (by rw [h.capacity]; omega)]
    exact { window := h.window, capacity := h.capacity, room := h.room, queue := rfl, seen := rfl
            once := honce.sublist (hsub.map _)
            sorted := hsorted.sublist hsub
            past := fun x hx => hpast x (hsub.subset hx)
            short := by show rest.length ≤ l.capacity; omega }
  · have hfits : noted.length ≤ m.capacity := by rw [h.capacity]; omega
    rw [if_neg hfull, shrink_fits (m := { m with seen := noted }) hfits]
    exact { window := h.window, capacity := h.capacity, room := h.room, queue := rfl, seen := rfl
            once := honce, sorted := hsorted, past := hpast
            short := by show noted.length ≤ l.capacity; omega }

/-- **A memo does what the list does**: it gives the same answer and follows it again. -/
theorem follows_offer (a : α) (hnow : last ≤ now) :
    (m.offer a now).1 = (l.offer a now).1 ∧ (m.offer a now).2.Follows (l.offer a now).2 now := by
  have hfresh := follows_dropStale h hnow
  unfold offer Log.offer
  dsimp only
  by_cases ha : a ∈ (l.fresh now).map Prod.fst
  · have hseen : a ∈ (m.dropStale now).seen.map Prod.fst := by rw [hfresh.seen]; exact ha
    obtain ⟨noted, hlookup, hmem⟩ := exists_lookup hseen
    rw [hfresh.seen] at hmem
    -- what is left after the old ones are gone is not too old
    have hisFresh : (m.dropStale now).isFresh noted now = true := by
      have hyoung := (List.mem_filter.1 hmem).2
      have hwindow : (m.dropStale now).window = l.window := hfresh.window
      simp only [Bool.not_eq_true', decide_eq_false_iff_not] at hyoung
      simp only [isFresh, hwindow, decide_eq_true_eq]
      omega
    rw [if_pos ha, hlookup]
    simp only [hisFresh, if_true]
    exact ⟨trivial, hfresh⟩
  · have hlookup : (m.dropStale now).lookup a = none :=
      lookup_eq_none (by rw [hfresh.seen]; exact ha)
    rw [if_neg ha, hlookup]
    exact ⟨rfl, follows_note hfresh ha (Nat.le_refl now)⟩

omit [DecidableEq α] in
theorem follows_clear : m.clear.Follows l.clear last where
  window := h.window
  capacity := h.capacity
  room := h.room
  queue := rfl
  seen := rfl
  once := List.nodup_nil
  sorted := List.Pairwise.nil
  past := nofun
  short := Nat.zero_le _

end

omit [DecidableEq α] in
theorem follows_empty (window maxEntries : Nat) :
    (Memo.empty window maxEntries : Memo α).Follows (Log.empty window maxEntries) 0 where
  window := rfl
  capacity := Nat.max_comm ..
  room := Nat.lt_of_lt_of_le Nat.zero_lt_one (Nat.le_max_left ..)
  queue := rfl
  seen := rfl
  once := List.nodup_nil
  sorted := List.Pairwise.nil
  past := nofun
  short := Nat.zero_le _

end Memo

/-! ## Calls -/

namespace DedupFilter

/-- Make a call; what an event is offered for is answered. -/
def call (f : DedupFilter) : DedupCall → Option Bool × DedupFilter
  | .offer event payload now => (some (f.offer event payload now).1, (f.offer event payload now).2)
  | .clear => (none, f.clear)

/-- The filter after several calls. -/
def after (f : DedupFilter) (calls : List DedupCall) : DedupFilter :=
  calls.foldl (fun f c => (f.call c).2) f

/-- What several calls are answered, and how many events are remembered after each. -/
def answers (f : DedupFilter) : List DedupCall → List (Option Bool × Nat)
  | [] => []
  | c :: rest => ((f.call c).1, (f.call c).2.size) :: (f.call c).2.answers rest

/-- A filter goes with a list filter: the same events, and a memo that follows the log. -/
structure Follows (f : DedupFilter) (g : LogFilter Fingerprint) (last : Nat) : Prop where
  /-- The same events may be held back. -/
  events : f.events = g.events
  /-- The list is one of fingerprints. -/
  key : g.key = fingerprint
  /-- The memo follows the log. -/
  memo : f.memo.Follows g.log last

section

variable {f : DedupFilter} {g : LogFilter Fingerprint} {last : Nat} (h : f.Follows g last)
include h

theorem Follows.size : f.size = g.log.entries.length :=
  congrArg List.length h.memo.seen

theorem Follows.queue : f.memo.queue.length = f.size := by
  rw [h.size, h.memo.queue]

/-- **A call is answered alike**, and the filters go together afterwards. -/
theorem follows_call (c : DedupCall) (hc : ∀ now, c.time? = some now → last ≤ now) :
    (f.call c).1 = (g.call c).1 ∧ (f.call c).2.Follows (g.call c).2 (c.time?.getD last) := by
  cases c with
  | clear => exact ⟨rfl, h.events, h.key, Memo.follows_clear h.memo⟩
  | offer event payload now =>
    have hnow : last ≤ now := hc now rfl
    unfold call LogFilter.call offer
    dsimp only
    rw [h.key]
    by_cases he : event ∈ g.events
    · obtain ⟨hanswer, hfollows⟩ := Memo.follows_offer h.memo (fingerprint event payload) hnow
      rw [if_pos (by simpa [h.events] using he), if_pos he]
      exact ⟨congrArg some hanswer, h.events, rfl, hfollows⟩
    · rw [if_neg (by simpa [h.events] using he), if_neg he]
      exact ⟨rfl, h.events, h.key,
        { h.memo with past := fun e hm => Nat.le_trans (h.memo.past e hm) hnow }⟩

theorem answers_of_follows {calls : List DedupCall}
    (hcalls : (calls.filterMap DedupCall.time?).Pairwise (· ≤ ·))
    (hlast : ∀ now ∈ calls.filterMap DedupCall.time?, last ≤ now) :
    f.answers calls = g.answers calls ∧
      (f.after calls).memo.queue.length = (f.after calls).size := by
  induction calls generalizing f g last with
  | nil => exact ⟨rfl, h.queue⟩
  | cons c rest ih =>
    have hfirst : ∀ now, c.time? = some now → last ≤ now := fun now hc =>
      hlast now (List.mem_filterMap.2 ⟨c, List.mem_cons_self, hc⟩)
    obtain ⟨hanswer, hnext⟩ := follows_call h c hfirst
    have hrest : (rest.filterMap DedupCall.time?).Pairwise (· ≤ ·) ∧
        ∀ now ∈ rest.filterMap DedupCall.time?, c.time?.getD last ≤ now := by
      cases hc : c.time? with
      | none =>
        rw [List.filterMap_cons_none hc] at hcalls hlast
        exact ⟨hcalls, hlast⟩
      | some now =>
        rw [List.filterMap_cons_some hc, List.pairwise_cons] at hcalls
        exact ⟨hcalls.2, hcalls.1⟩
    obtain ⟨hanswers, hqueue⟩ := ih hnext hrest.1 hrest.2
    refine ⟨?_, hqueue⟩
    unfold answers LogFilter.answers
    rw [hanswer, hnext.size, hanswers]

end

/-- **A filter is a window over one list.**  As long as the clock does not go back, a filter gives
the same answers as one plain list of the fingerprints that passed and when, and remembers as many
after every call.  Where a fingerprint stands for one event and payload text among those that are
offered, it is a list of events and payload texts.  And the queue holds nothing but what is
remembered. -/
theorem answers_eq_log (window maxEntries : Nat) (events : List String) (calls : List DedupCall)
    (hclock : (calls.filterMap DedupCall.time?).Pairwise (· ≤ ·)) :
    let filter := new window maxEntries events
    let offered := DedupCall.offered events calls
    filter.answers calls = (LogFilter.new window maxEntries events fingerprint).answers calls ∧
      ((∀ x ∈ offered, ∀ y ∈ offered,
          SipHash.hash (hashed x.1 x.2) = SipHash.hash (hashed y.1 y.2) → x = y) →
        filter.answers calls =
          (LogFilter.new window maxEntries events fun event payload =>
            (event, payload.render)).answers calls) ∧
      (filter.after calls).memo.queue.length ≤ (filter.after calls).size := by
  intro filter offered
  have hnew : filter.Follows (LogFilter.new window maxEntries events fingerprint) 0 :=
    ⟨rfl, rfl, Memo.follows_empty window maxEntries⟩
  obtain ⟨hanswers, hqueue⟩ := answers_of_follows hnew hclock fun now _ => Nat.zero_le now
  refine ⟨hanswers, fun hapart => hanswers.trans ?_, Nat.le_of_eq hqueue⟩
  refine LogFilter.answers_map (f := LogFilter.new window maxEntries events fun event payload =>
    (event, payload.render)) (h := fun x => SipHash.hash (hashed x.1 x.2)) hapart ?_ nofun
  intro event payload now hc hlisted
  exact List.mem_filterMap.2 ⟨_, hc, if_pos hlisted⟩

/-- Two events are remembered for ten units of time.  The first one goes when a third one comes, and
passes again; what is still remembered is held back, until it is too old. -/
theorem answers_eq_log_full :
    let calls : List DedupCall := [.offer "pong" (.ofNat 1) 0, .offer "pong" (.ofNat 2) 3,
      .offer "pong" (.ofNat 1) 3, .offer "ping" .null 3, .offer "pong" (.ofNat 3) 5,
      .offer "pong" (.ofNat 1) 5, .offer "pong" (.ofNat 3) 14, .offer "pong" (.ofNat 3) 15, .clear]
    let filter := new 10 2 ["pong"]
    (calls.filterMap DedupCall.time?).Pairwise (· ≤ ·) ∧
      filter.answers calls = [(some false, 1), (some false, 2), (some true, 2), (some false, 2),
        (some false, 2), (some false, 2), (some true, 2), (some false, 1), (none, 0)] ∧
      filter.answers calls = (LogFilter.new 10 2 ["pong"] fingerprint).answers calls ∧
      filter.answers calls = (LogFilter.new 10 2 ["pong"] fun event payload =>
        (event, payload.render)).answers calls ∧
      (filter.after calls).memo.queue.length ≤ (filter.after calls).size := by
  intro calls filter
  have hclock : (calls.filterMap DedupCall.time?).Pairwise (· ≤ ·) := by decide +kernel
  have hapart : ∀ x ∈ DedupCall.offered ["pong"] calls, ∀ y ∈ DedupCall.offered ["pong"] calls,
      SipHash.hash (hashed x.1 x.2) = SipHash.hash (hashed y.1 y.2) → x = y := by decide +kernel
  have hanswers : filter.answers calls = [(some false, 1), (some false, 2), (some true, 2),
      (some false, 2), (some false, 2), (some false, 2), (some true, 2), (some false, 1),
      (none, 0)] := by decide +kernel
  -- as a local definition the filter would be evaluated at every step
  have hfilter : filter = new 10 2 ["pong"] := rfl
  clear_value filter
  subst hfilter
  obtain ⟨hprints, htexts, hqueue⟩ := answers_eq_log 10 2 ["pong"] calls hclock
  exact ⟨hclock, hanswers, hprints, htexts hapart, hqueue⟩

end DedupFilter
end LiveSync
