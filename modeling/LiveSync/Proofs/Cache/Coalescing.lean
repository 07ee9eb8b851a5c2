import LiveSync.Proofs.Cache.Store

/-!
# What is left of a burst

A rule with a window gathers the payloads of a slot and applies the last one when the timer of the
slot fires.  Here a run is any row of payloads and firing timers; only the payloads that are not
overtaken in their slot count for the cache.

* `Happening` — a payload comes in, or the timer of a slot fires.
* `survivors` — the payloads that were not overtaken.
* `get?_gather` — what a run makes of an entry: the survivors patch it.
* `getLast?_applied` — the last payload about an entry is never lost.
-/

namespace LiveSync.Cache

open LiveSync.Json

namespace Bridge

theorem pending?_await (b : Bridge) (slot : Slot) (payload : Value) (other : Slot) :
    (b.await slot payload).pending? other =
      if slot = other then some payload else b.pending? other := by
  unfold pending? await
  dsimp only
  rw [List.find?_cons]
  by_cases h : slot = other
  · simp [h]
  · have hne : ∀ p : Slot × Value, p.1 = other → p.1 ≠ slot := fun p hp hc => h (hc.symm.trans hp)
    simp only [h, decide_false, if_false, List.find?_filter]
    congr 2
    funext p
    by_cases hp : p.1 = other
    · simp [hp, Ne.symm h]
    · simp [hp]

/-- Once a timer has fired, nothing waits in its slot, and the other slots are as before. -/
theorem pending?_fire (b : Bridge) (store : Store) (timer : BurstTimer) (other : Slot) :
    (b.fire store timer).2.pending? other =
      if timer.slot = other then none else b.pending? other := by
  have hfilter : ((b.pending.filter fun p => p.1 ≠ timer.slot).find? fun p => p.1 = other).map
      (·.2) = if timer.slot = other then none else b.pending? other := by
    rw [List.find?_filter]
    by_cases h : timer.slot = other
    · subst h
      simp
    · rw [if_neg h]
      unfold pending?
      congr 2
      funext p
      by_cases hp : p.1 = other
      · simp [hp, Ne.symm h]
      · simp [hp]
  unfold fire
  dsimp only
  split <;> exact hfilter

theorem rules_fire (b : Bridge) (store : Store) (timer : BurstTimer) :
    (b.fire store timer).2.rules = b.rules := by
  unfold fire
  dsimp only
  split <;> rfl

theorem timers_fire (b : Bridge) (store : Store) (timer : BurstTimer) :
    (b.fire store timer).2.timers = b.timers.filter (· ≠ timer) := by
  unfold fire
  dsimp only
  split <;> rfl

end Bridge

/-! ## Runs of one event -/

/-- What happens to a bridge that takes in one event. -/
inductive Happening where
  /-- A payload comes in at a time; `order` is the place of a timer that is armed then. -/
  | payload (now order : Nat) (p : Value)
  /-- At a time, the timer of a slot fires. -/
  | timer (now : Nat) (slot : Slot)

namespace Happening

/-- The payloads that come in, in order. -/
def payloads : List Happening → List Value
  | [] => []
  | .payload _ _ p :: rest => p :: payloads rest
  | .timer .. :: rest => payloads rest

/-- The slot of a payload. -/
def slotOf (event : String) (rule : Rule) (p : Value) : Slot :=
  ⟨event, rule.detailKey p⟩

/-- Does the timer of a slot fire before another payload comes into the slot? -/
def firesFirst (event : String) (rule : Rule) (slot : Slot) : List Happening → Bool
  | [] => false
  | .payload _ _ p :: rest =>
    if slotOf event rule p = slot then false else firesFirst event rule slot rest
  | .timer _ fired :: rest => if fired = slot then true else firesFirst event rule slot rest

/-- The payloads that no later one overtakes before the timer of their slot fires, in order. -/
def survivors (event : String) (rule : Rule) : List Happening → List Value
  | [] => []
  | .payload _ _ p :: rest =>
    if firesFirst event rule (slotOf event rule p) rest then p :: survivors event rule rest
    else survivors event rule rest
  | .timer .. :: rest => survivors event rule rest

/-- What is applied to an entry: first what waits for it, if its timer fires before another payload
comes, and then the survivors about it. -/
def applied (event : String) (rule : Rule) (key : Key) (waiting : Option Value)
    (hs : List Happening) : List Value :=
  (if firesFirst event rule ⟨event, some key⟩ hs then waiting.toList else []) ++
    rule.about key (survivors event rule hs)

section

variable {event : String} {rule : Rule} {key : Key}

/-- With nothing waiting, only survivors are applied. -/
@[simp] theorem applied_none (hs : List Happening) :
    applied event rule key none hs = rule.about key (survivors event rule hs) := by
  unfold applied
  rw [Option.toList_none, ite_self, List.nil_append]

/-- A payload about the entry takes the place of what waits. -/
theorem applied_payload_of_eq {p : Value} (h : rule.detailKey p = some key) (now order : Nat)
    (waiting : Option Value) (rest : List Happening) :
    applied event rule key waiting (.payload now order p :: rest) =
      applied event rule key (some p) rest := by
  have hslot : slotOf event rule p = ⟨event, some key⟩ := by rw [slotOf, h]
  unfold applied
  rw [firesFirst, if_pos hslot, survivors, hslot]
  by_cases hf : firesFirst event rule ⟨event, some key⟩ rest = true
  · rw [if_pos hf, if_pos hf, Rule.about_cons_of_eq h]
    rfl
  · rw [if_neg hf, if_neg hf]
    rfl

theorem applied_payload_of_ne {p : Value} (h : rule.detailKey p ≠ some key) (now order : Nat)
    (waiting : Option Value) (rest : List Happening) :
    applied event rule key waiting (.payload now order p :: rest) =
      applied event rule key waiting rest := by
  have hslot : slotOf event rule p ≠ ⟨event, some key⟩ := fun hc => h (Slot.mk.inj hc).2
  unfold applied
  rw [firesFirst, if_neg hslot, survivors]
  by_cases hf : firesFirst event rule (slotOf event rule p) rest = true
  · rw [if_pos hf, Rule.about_cons_of_ne h]
  · rw [if_neg hf]

/-- The timer of the entry applies what waits. -/
theorem applied_timer_self (now : Nat) (waiting : Option Value) (rest : List Happening) :
    applied event rule key waiting (.timer now ⟨event, some key⟩ :: rest) =
      waiting.toList ++ applied event rule key none rest := by
  rw [applied_none]
  unfold applied
  rw [firesFirst, if_pos rfl, if_pos rfl, survivors]

theorem applied_timer_of_ne {fired : Slot} (h : fired ≠ ⟨event, some key⟩) (now : Nat)
    (waiting : Option Value) (rest : List Happening) :
    applied event rule key waiting (.timer now fired :: rest) =
      applied event rule key waiting rest := by
  unfold applied
  rw [firesFirst, if_neg h, survivors]

end

end Happening

open Happening

namespace Sync

/-- Let something happen.  A timer that is not armed does not fire. -/
def happen (event : String) (s : Sync) : Happening → Sync
  | .payload now order p => s.handle now order event p
  | .timer now slot =>
    match s.timers.find? fun t => t.slot = slot with
    | some t => s.fire now t
    | none => s

/-- Let several things happen. -/
def gather (event : String) (s : Sync) (hs : List Happening) : Sync :=
  hs.foldl (happen event) s

/-- The bridge gathers the payloads of an event: each waits in its own slot, and there is a timer
for every slot in which one waits. -/
structure Gathers (event : String) (rule : Rule) (s : Sync) (b : Bridge) : Prop where
  /-- The bridge is there. -/
  bridge : s.bridge = some b
  /-- It has the rule. -/
  known : b.rules.rule? event = some rule
  /-- What waits in a slot belongs there. -/
  filed : ∀ slot p, b.pending? slot = some p → slot = slotOf event rule p
  /-- Where something waits a timer is armed. -/
  armed : ∀ slot, (b.pending? slot).isSome → ∃ t ∈ b.timers, t.slot = slot

section

variable {event : String} {rule : Rule} {window : Nat} {s : Sync} {b : Bridge}

/-- A payload waits in its slot; the store is as before. -/
theorem gathers_handle (hw : rule.window? = some window) (h : Gathers event rule s b)
    (now order : Nat) (p : Value) :
    ∃ b', Gathers event rule (s.handle now order event p) b' ∧
      (s.handle now order event p).store = s.store ∧
      ∀ slot, b'.pending? slot =
        if slotOf event rule p = slot then some p else b.pending? slot := by
  let slot₀ := slotOf event rule p
  let waiting := (b.pending? slot₀).isSome
  let timer : BurstTimer := ⟨now + window, order, slot₀⟩
  let b' : Bridge := if waiting then b.await slot₀ p
    else { b.await slot₀ p with timers := b.timers ++ [timer] }
  have hhandle : b.handle s.store event p now order = ([], b') := by
    unfold Bridge.handle
    simp only [h.known, hw]
    show (if waiting then _ else _) = _
    by_cases hwait : waiting = true
    · simp only [b', if_pos hwait]
      rfl
    · simp only [b', if_neg hwait]
      rfl
  have hsync : s.handle now order event p =
      { s with bridge := some b' }.carryOut (some now) [] := by
    unfold handle
    rw [h.bridge]
    simp only [hhandle]
  have hpending : ∀ slot, b'.pending? slot =
      if slot₀ = slot then some p else b.pending? slot := by
    intro slot
    rw [← Bridge.pending?_await]
    by_cases hwait : waiting = true
    · simp only [b', if_pos hwait]
    · simp only [b', if_neg hwait]
      rfl
  refine ⟨b', ?_, by rw [hsync]; rfl, hpending⟩
  constructor
  case bridge => rw [hsync]; rfl
  case known =>
    by_cases hwait : waiting = true
    · simp only [b', if_pos hwait]
      exact h.known
    · simp only [b', if_neg hwait]
      exact h.known
  case filed =>
    intro slot q hq
    rw [hpending] at hq
    by_cases hs : slot₀ = slot
    · rw [if_pos hs] at hq
      rw [← hs, ← Option.some.inj hq]
    · rw [if_neg hs] at hq
      exact h.filed slot q hq
  case armed =>
    intro slot hsome
    rw [hpending] at hsome
    by_cases hwait : waiting = true
    · have htimers : b'.timers = b.timers := by simp only [b', if_pos hwait]; rfl
      rw [htimers]
      by_cases hs : slot₀ = slot
      · exact h.armed slot (hs ▸ hwait)
      · rw [if_neg hs] at hsome
        exact h.armed slot hsome
    · have htimers : b'.timers = b.timers ++ [timer] := by simp only [b', if_neg hwait]
      rw [htimers]
      by_cases hs : slot₀ = slot
      · exact ⟨timer, by simp, hs⟩
      · rw [if_neg hs] at hsome
        obtain ⟨t, ht, htslot⟩ := h.armed slot hsome
        exact ⟨t, List.mem_append_left _ ht, htslot⟩

/-- A timer applies what waits in its slot. -/
theorem gathers_fire (h : Gathers event rule s b) (now : Nat) (t : BurstTimer) (key : Key) :
    ∃ b', Gathers event rule (s.fire now t) b' ∧
      (∀ slot, b'.pending? slot = if t.slot = slot then none else b.pending? slot) ∧
      (s.fire now t).store.get? key =
        if t.slot = ⟨event, some key⟩ then
          (s.store.get? key).map (rule.patchAll · (b.pending? t.slot).toList)
        else s.store.get? key := by
  have hpending := Bridge.pending?_fire b s.store t
  have hsync : s.fire now t = { s with bridge := some (b.fire s.store t).2 }.carryOut (some now)
      (b.fire s.store t).1 := by
    unfold fire
    rw [h.bridge]
  refine ⟨(b.fire s.store t).2, ?_, hpending, ?_⟩
  · constructor
    case bridge => rw [hsync]; rfl
    case known => rw [Bridge.rules_fire]; exact h.known
    case filed =>
      intro slot p hp
      rw [hpending] at hp
      by_cases hs : t.slot = slot
      · rw [if_pos hs] at hp
        exact absurd hp nofun
      · rw [if_neg hs] at hp
        exact h.filed slot p hp
    case armed =>
      intro slot hsome
      rw [hpending] at hsome
      by_cases hs : t.slot = slot
      · rw [if_pos hs] at hsome
        exact absurd hsome nofun
      · rw [if_neg hs] at hsome
        obtain ⟨t', ht', hslot⟩ := h.armed slot hsome
        rw [Bridge.timers_fire]
        have hne : t' ≠ t := fun hc => hs (hc ▸ hslot)
        exact ⟨t', List.mem_filter.2 ⟨ht', by simpa using hne⟩, hslot⟩
  · rw [hsync]
    show (s.store.applyAll (b.fire s.store t).1).get? key = _
    unfold Bridge.fire
    cases hp : b.pending? t.slot with
    | none =>
      have hid : (s.store.get? key).map (rule.patchAll · (none : Option Value).toList) =
          s.store.get? key := Option.map_id'
      rw [hid, ite_self]
      rfl
    | some p =>
      have hslot := h.filed t.slot p hp
      have hevent : t.slot.event = event := by rw [hslot]; rfl
      show (s.store.applyAll (b.apply s.store t.slot.event p).2).get? key = _
      unfold Bridge.apply
      rw [hevent, h.known, get?_applyRule]
      by_cases hkey : rule.detailKey p = some key
      · have hs : t.slot = ⟨event, some key⟩ := by rw [hslot, slotOf, hkey]
        rw [if_pos hkey, if_pos hs]
        rfl
      · have hs : t.slot ≠ ⟨event, some key⟩ := fun hc =>
          hkey (Slot.mk.inj (hslot.symm.trans hc)).2
        rw [if_neg hkey, if_neg hs]

/-- Whether or not a timer is armed for a slot: when it is its turn, what waits is applied. -/
theorem gathers_timer (h : Gathers event rule s b) (now : Nat) (fired : Slot) (key : Key) :
    ∃ b', Gathers event rule (s.happen event (.timer now fired)) b' ∧
      (∀ slot, b'.pending? slot = if fired = slot then none else b.pending? slot) ∧
      (s.happen event (.timer now fired)).store.get? key =
        if fired = ⟨event, some key⟩ then
          (s.store.get? key).map (rule.patchAll · (b.pending? fired).toList)
        else s.store.get? key := by
  have htimers : s.timers = b.timers := by
    unfold timers
    rw [h.bridge]
    rfl
  cases hfind : s.timers.find? fun t => t.slot = fired with
  | some t =>
    have hslot : t.slot = fired := by simpa using List.find?_some hfind
    have hhappen : s.happen event (.timer now fired) = s.fire now t := by
      unfold happen
      simp only [hfind]
    rw [hhappen, ← hslot]
    exact gathers_fire h now t key
  | none =>
    have hhappen : s.happen event (.timer now fired) = s := by
      unfold happen
      simp only [hfind]
    -- no timer is armed, so that nothing waits in the slot
    have hnone : b.pending? fired = none := by
      cases hp : b.pending? fired with
      | none => rfl
      | some p =>
        obtain ⟨t, ht, hslot⟩ := h.armed fired (by rw [hp]; rfl)
        rw [htimers] at hfind
        exact absurd hslot (by simpa using List.find?_eq_none.1 hfind t ht)
    rw [hhappen]
    refine ⟨b, h, fun slot => ?_, ?_⟩
    · by_cases hs : fired = slot
      · rw [if_pos hs, ← hs, hnone]
      · rw [if_neg hs]
    · have hid : (s.store.get? key).map (rule.patchAll · (none : Option Value).toList) =
          s.store.get? key := Option.map_id'
      rw [hnone, hid, ite_self]

/-- **What a run makes of an entry.**  What is applied to the entry patches it. -/
theorem get?_gather (hw : rule.window? = some window) (h : Gathers event rule s b)
    (hs : List Happening) (key : Key) :
    (s.gather event hs).store.get? key = (s.store.get? key).map
      (rule.patchAll · (applied event rule key (b.pending? ⟨event, some key⟩) hs)) := by
  induction hs generalizing s b with
  | nil => exact Option.map_id'.symm
  | cons first rest ih =>
    cases first with
    | payload now order p =>
      obtain ⟨b', hgathers, hstore, hpending⟩ := gathers_handle hw h now order p
      show ((s.handle now order event p).gather event rest).store.get? key = _
      rw [ih hgathers, hstore, hpending]
      by_cases hp : rule.detailKey p = some key
      · rw [slotOf, hp, if_pos rfl, applied_payload_of_eq hp]
      · have hslot : slotOf event rule p ≠ ⟨event, some key⟩ := fun hc => hp (Slot.mk.inj hc).2
        rw [if_neg hslot, applied_payload_of_ne hp]
    | timer now fired =>
      obtain ⟨b', hgathers, hpending, hstore⟩ := gathers_timer h now fired key
      show ((s.happen event (.timer now fired)).gather event rest).store.get? key = _
      rw [ih hgathers, hstore, hpending]
      by_cases hs : fired = ⟨event, some key⟩
      · subst hs
        rw [if_pos rfl, if_pos rfl, applied_timer_self, Option.map_map]
        congr 1
        funext v
        exact (Rule.patchAll_append ..).symm
      · rw [if_neg hs, if_neg hs, applied_timer_of_ne hs]

/-- Once every timer has fired, nothing waits. -/
theorem Gathers.pending_none (h : Gathers event rule s b) (hfired : s.timers = []) (slot : Slot) :
    b.pending? slot = none := by
  cases hp : b.pending? slot with
  | none => rfl
  | some p =>
    obtain ⟨t, ht, -⟩ := h.armed slot (by rw [hp]; rfl)
    have htimers : b.timers = [] := by
      unfold timers at hfired
      rw [h.bridge] at hfired
      exact hfired
    rw [htimers] at ht
    exact absurd ht List.not_mem_nil

/-- **The last payload about an entry is never lost.**  Once every timer has fired it is the last
one that was applied. -/
theorem getLast?_applied (hw : rule.window? = some window) (h : Gathers event rule s b)
    {hs : List Happening} (hfired : (s.gather event hs).timers = []) (key : Key) :
    (applied event rule key (b.pending? ⟨event, some key⟩) hs).getLast? =
      ((b.pending? ⟨event, some key⟩).toList ++ rule.about key (payloads hs)).getLast? := by
  induction hs generalizing s b with
  | nil =>
    rw [h.pending_none hfired]
    rfl
  | cons first rest ih =>
    cases first with
    | payload now order p =>
      obtain ⟨b', hgathers, -, hpending⟩ := gathers_handle hw h now order p
      have hrest := ih hgathers hfired
      rw [hpending] at hrest
      by_cases hp : rule.detailKey p = some key
      · rw [slotOf, hp, if_pos rfl] at hrest
        have hlast : ∀ waiting : List Value,
            (waiting ++ p :: rule.about key (payloads rest)).getLast? =
            (p :: rule.about key (payloads rest)).getLast? := fun waiting => by
          rw [List.getLast?_append, List.getLast?_cons, Option.some_or]
        rw [applied_payload_of_eq hp, hrest, payloads, Rule.about_cons_of_eq hp, hlast]
        rfl
      · have hslot : slotOf event rule p ≠ ⟨event, some key⟩ := fun hc => hp (Slot.mk.inj hc).2
        rw [if_neg hslot] at hrest
        rw [applied_payload_of_ne hp, hrest, payloads, Rule.about_cons_of_ne hp]
    | timer now fired =>
      obtain ⟨b', hgathers, hpending, -⟩ := gathers_timer h now fired key
      have hrest := ih hgathers hfired
      rw [hpending] at hrest
      by_cases hs : fired = ⟨event, some key⟩
      · subst hs
        rw [if_pos rfl, Option.toList_none, List.nil_append] at hrest
        rw [applied_timer_self, List.getLast?_append, hrest, payloads, List.getLast?_append]
      · rw [if_neg hs] at hrest
        rw [applied_timer_of_ne hs, hrest, payloads]

end

end Sync
end LiveSync.Cache
