import LiveSync.Dedup

/-!
# One plain list of what passed

The reference that a filter is compared with: a list of keys and times, oldest first.  Stale keys
are dropped, a key that is listed is held back, and any other is listed at the end, at the cost of
the head when there are too many.  Which keys are taken makes no difference, as long as they tell
apart what is offered.

* `Log`, `LogFilter` — the list, and the list with the events that may be held back.
* `Log.offer_map`, `LogFilter.call_map` — an offer and a call with other keys.
* `LogFilter.answers_map` — all calls with other keys.
-/

namespace LiveSync

open LiveSync.Json

/-! ## The plain list -/

/-- What passed and when, oldest first, in one list. -/
structure Log (α : Type) where
  /-- How long a thing is remembered. -/
  window : Nat
  /-- How many things are remembered at most. -/
  capacity : Nat
  /-- What passed, and when. -/
  entries : List (α × Nat)

namespace Log

variable {α : Type} [DecidableEq α]

/-- A log of nothing. -/
def empty (window maxEntries : Nat) : Log α :=
  ⟨window, max 1 maxEntries, []⟩

/-- What is not too old yet. -/
def fresh (l : Log α) (now : Nat) : List (α × Nat) :=
  l.entries.filter fun e => !decide (l.window ≤ now - e.2)

/-- Drop what is too old.  Then hold back what is listed, and list everything else. -/
def offer (l : Log α) (a : α) (now : Nat) : Bool × Log α :=
  let fresh := l.fresh now
  if a ∈ fresh.map Prod.fst then (true, { l with entries := fresh })
  else
    let noted := fresh ++ [(a, now)]
    (false, { l with entries := if l.capacity < noted.length then noted.tail else noted })

/-- Forget everything. -/
def clear (l : Log α) : Log α :=
  { l with entries := [] }

/-- The log of other keys. -/
def map {β : Type} (h : α → β) (l : Log α) : Log β :=
  ⟨l.window, l.capacity, l.entries.map (Prod.map h id)⟩

section

variable {β : Type} [DecidableEq β] {l : Log α} {h : α → β} {a : α} {now : Nat}

omit [DecidableEq α] [DecidableEq β] in
theorem fresh_map : (l.map h).fresh now = (l.fresh now).map (Prod.map h id) := by
  unfold fresh map
  rw [List.filter_map]
  rfl

omit [DecidableEq α] [DecidableEq β] in
theorem mem_of_mem_fresh {e : α × Nat} (he : e ∈ l.fresh now) : e ∈ l.entries :=
  (List.mem_filter.1 he).1

/-- An offer does not depend on the keys, if the new one is told apart from those listed. -/
theorem offer_map (hinj : ∀ e ∈ l.entries, h e.1 = h a → e.1 = a) :
    (l.map h).offer (h a) now = ((l.offer a now).1, (l.offer a now).2.map h) := by
  have hlisted : h a ∈ ((l.map h).fresh now).map Prod.fst ↔ a ∈ (l.fresh now).map Prod.fst := by
    rw [fresh_map, List.map_map]
    constructor
    · intro hmem
      obtain ⟨e, he, heq⟩ := List.mem_map.1 hmem
      exact List.mem_map.2 ⟨e, he, hinj e (mem_of_mem_fresh he) heq⟩
    · intro hmem
      obtain ⟨e, he, rfl⟩ := List.mem_map.1 hmem
      exact List.mem_map.2 ⟨e, he, rfl⟩
  unfold offer
  dsimp only
  by_cases ha : a ∈ (l.fresh now).map Prod.fst
  · rw [if_pos (hlisted.2 ha), if_pos ha, fresh_map]
    rfl
  · rw [if_neg (mt hlisted.1 ha), if_neg ha, fresh_map]
    by_cases hfull : l.capacity < (l.fresh now ++ [(a, now)]).length
    · rw [if_pos hfull, if_pos (by simpa [map] using hfull)]
      simp [map, List.map_tail]
    · rw [if_neg hfull, if_neg (by simpa [map] using hfull)]
      simp [map]

omit [DecidableEq β] in
/-- What is listed after an offer was listed before, or was offered. -/
theorem mem_entries_offer {e : α × Nat} (he : e ∈ (l.offer a now).2.entries) :
    e ∈ l.entries ∨ e = (a, now) := by
  have hnoted (he : e ∈ l.fresh now ++ [(a, now)]) : e ∈ l.entries ∨ e = (a, now) :=
    (List.mem_append.1 he).imp mem_of_mem_fresh List.mem_singleton.1
  unfold offer at he
  dsimp only at he
  split at he
  · exact Or.inl (mem_of_mem_fresh he)
  · dsimp only at he
    split at he
    · exact hnoted (List.mem_of_mem_tail he)
    · exact hnoted he

end

end Log

/-! ## Calls -/

/-- A call on a filter. -/
inductive DedupCall where
  /-- An event is offered. -/
  | offer (event : String) (payload : Value) (now : Nat)
  /-- Everything is forgotten. -/
  | clear

namespace DedupCall

/-- When the call is made, as far as the filter is told. -/
def time? : DedupCall → Option Nat
  | .offer _ _ now => some now
  | .clear => none

/-- The events that may be held back, of all that are offered, with the texts of their payloads. -/
def offered (events : List String) (calls : List DedupCall) : List (String × String) :=
  calls.filterMap fun
    | .offer event payload _ => if event ∈ events then some (event, payload.render) else none
    | .clear => none

end DedupCall

/-- A filter that is one plain list. -/
structure LogFilter (α : Type) where
  /-- The events that may be held back. -/
  events : List String
  /-- What an event is recognised by. -/
  key : String → Value → α
  /-- What passed lately. -/
  log : Log α

namespace LogFilter

variable {α : Type} [DecidableEq α]

/-- A filter that has seen nothing yet. -/
def new (window maxEntries : Nat) (events : List String) (key : String → Value → α) : LogFilter α :=
  ⟨events, key, Log.empty window maxEntries⟩

/-- Make a call: an event that is not on the list passes and leaves everything as it is. -/
def call (f : LogFilter α) : DedupCall → Option Bool × LogFilter α
  | .offer event payload now =>
    if event ∈ f.events then
      let (held, log) := f.log.offer (f.key event payload) now
      (some held, { f with log := log })
    else (some false, f)
  | .clear => (none, { f with log := f.log.clear })

/-- What several calls are answered, and how many events are listed after each. -/
def answers (f : LogFilter α) : List DedupCall → List (Option Bool × Nat)
  | [] => []
  | c :: rest => ((f.call c).1, (f.call c).2.log.entries.length) :: (f.call c).2.answers rest

/-- The filter with other keys. -/
def map {β : Type} (h : α → β) (f : LogFilter α) : LogFilter β :=
  ⟨f.events, fun event payload => h (f.key event payload), f.log.map h⟩

section

variable {β : Type} [DecidableEq β] {f : LogFilter α} {h : α → β} {keys : List α}

theorem events_call (f : LogFilter α) (c : DedupCall) : (f.call c).2.events = f.events := by
  cases c with
  | offer event payload now => unfold call; dsimp only; split <;> rfl
  | clear => rfl

theorem key_call (f : LogFilter α) (c : DedupCall) : (f.call c).2.key = f.key := by
  cases c with
  | offer event payload now => unfold call; dsimp only; split <;> rfl
  | clear => rfl

omit [DecidableEq α] [DecidableEq β] in
theorem length_map : (f.map h).log.entries.length = f.log.entries.length :=
  List.length_map ..

/-- A call does not depend on the keys, as long as they are told apart. -/
theorem call_map {c : DedupCall} (hinj : ∀ x ∈ keys, ∀ y ∈ keys, h x = h y → x = y)
    (hc : ∀ event payload now, c = .offer event payload now → event ∈ f.events →
      f.key event payload ∈ keys) (hlog : ∀ e ∈ f.log.entries, e.1 ∈ keys) :
    (f.map h).call c = ((f.call c).1, (f.call c).2.map h) ∧
      ∀ e ∈ (f.call c).2.log.entries, e.1 ∈ keys := by
  cases c with
  | clear => exact ⟨rfl, fun e he => absurd he List.not_mem_nil⟩
  | offer event payload now =>
    unfold call
    dsimp only
    by_cases hlisted : event ∈ f.events
    · have hkey := hc event payload now rfl hlisted
      have hoffer : (f.log.map h).offer (h (f.key event payload)) now = _ :=
        Log.offer_map fun e he => hinj _ (hlog e he) _ hkey
      rw [if_pos hlisted, if_pos (show event ∈ (f.map h).events from hlisted)]
      refine ⟨?_, fun e he => (Log.mem_entries_offer he).elim (hlog e) fun hnew => hnew ▸ hkey⟩
      show (some ((f.log.map h).offer (h (f.key event payload)) now).1,
        { f.map h with log := ((f.log.map h).offer (h (f.key event payload)) now).2 }) = _
      rw [hoffer]
      rfl
    · rw [if_neg hlisted, if_neg (show event ∉ (f.map h).events from hlisted)]
      exact ⟨rfl, hlog⟩

/-- **The keys make no difference** while they tell apart what is offered. -/
theorem answers_map {calls : List DedupCall} (hinj : ∀ x ∈ keys, ∀ y ∈ keys, h x = h y → x = y)
    (hcalls : ∀ event payload now, .offer event payload now ∈ calls → event ∈ f.events →
      f.key event payload ∈ keys) (hlog : ∀ e ∈ f.log.entries, e.1 ∈ keys) :
    (f.map h).answers calls = f.answers calls := by
  induction calls generalizing f with
  | nil => rfl
  | cons c rest ih =>
    obtain ⟨hcall, hnext⟩ := call_map hinj
      (fun event payload now hc => hcalls event payload now (hc ▸ List.mem_cons_self)) hlog
    have hrest : ((f.call c).2.map h).answers rest = (f.call c).2.answers rest := by
      refine ih (fun event payload now hc hlisted => ?_) hnext
      rw [events_call] at hlisted
      rw [key_call]
      exact hcalls event payload now (List.mem_cons_of_mem c hc) hlisted
    unfold answers
    rw [hcall, hrest, length_map]

end

end LogFilter

end LiveSync
